import NovaHarness.CrashFreedom
import NovaHarness.RunTriggers

/-!
The courses a run on a fresh driver can take, told without its sessions: a few
decisions fix the course, and the course fixes the events, the steps, the calls,
the last state and the success.  The second level is compared with the first in
`run_follows_course`.
-/

namespace NovaHarness.RunCourses

open NovaHarness.Text
open NovaHarness.RecordValidation
open NovaHarness.EarlyExit
open NovaHarness.OrchestrationMachine
open NovaHarness.Driver
open NovaHarness.ToolInterfaceSchema
open NovaHarness.ApprovalSafetySchema
open NovaHarness.TraceSchemas
open NovaHarness.Pipeline
open NovaHarness.PipelineRun
open NovaHarness.PipelinePhases
open NovaHarness.PipelineOutcome
open NovaHarness.ResultRecords
open NovaHarness.EffectGating
open NovaHarness.RunCompletion
open NovaHarness.CrashFreedom
open NovaHarness.RunTriggers

section Courses

inductive Course where
  | unassembled
  | unrequested
  | blocked
  | crashed
  | toolFailed
  | unverified
  | rejected
  | accepted
  deriving DecidableEq, Repr

/-- What a run leaves to be seen: where its driver is, the events on the way, the
kinds of its steps with their statuses, and how often a back end was called. -/
structure Trail where
  state : RunState
  events : List RunEvent
  steps : List (StepType × TraceEventStatus)
  calls : Nat
  deriving DecidableEq

/-- What a review says: what is to be done, and the step it is recorded as. -/
structure ReviewKind where
  action : SafetyAction
  step : StepType × TraceEventStatus
  deriving DecidableEq

def ReviewKind.events (k : ReviewKind) : List RunEvent :=
  (route k.action).map (·.1)

def promptKind : StepType × TraceEventStatus := (.promptAssembly, .success)

def executionKind (status : TraceEventStatus) : StepType × TraceEventStatus :=
  (.toolExecution, status)

def verificationKind (status : TraceEventStatus) : StepType × TraceEventStatus :=
  (.verification, status)

def Course.trail (k : ReviewKind) : Course → Trail
  | .unassembled =>
      { state := .assemblingPrompt, events := [.startRun], steps := [], calls := 0 }
  | .unrequested =>
      { state := .toolPending
        events := [.startRun, .promptReady, .modelResponseReceived, .toolCallRequested]
        steps := [promptKind]
        calls := 0 }
  | .blocked =>
      { state := .failed, events := k.events, steps := [promptKind, k.step], calls := 0 }
  | .crashed =>
      { state := .toolRunning, events := k.events, steps := [promptKind, k.step], calls := 1 }
  | .toolFailed =>
      { state := .retryPending
        events := k.events ++ [.toolFailedRetryable]
        steps := [promptKind, k.step, executionKind .failure]
        calls := 1 }
  | .unverified =>
      { state := .verifying
        events := k.events ++ [.toolCompleted]
        steps := [promptKind, k.step, executionKind .success]
        calls := 1 }
  | .rejected =>
      { state := .failed
        events := k.events ++ [.toolCompleted, .verificationFailedTerminal]
        steps := [promptKind, k.step, executionKind .success, verificationKind .failure]
        calls := 1 }
  | .accepted =>
      { state := .succeeded
        events := k.events ++ [.toolCompleted, .verificationPassed]
        steps := [promptKind, k.step, executionKind .success, verificationKind .success]
        calls := 1 }

/-- The success that is returned, if the course ends in a result. -/
def Course.success : Course → Option Bool
  | .unassembled | .unrequested | .crashed | .unverified => none
  | .blocked | .toolFailed | .rejected => some false
  | .accepted => some true

end Courses

variable (rt : Runtime) (x : PipelineExecutor) (input : PipelineInput)

section Decisions

/-- The texts the bundle and the prompt refuse to be blank. -/
def Assembles : Prop :=
  ¬ IsBlank input.taskContract.1.taskId ∧ ¬ IsBlank input.runId ∧
    ¬ IsBlank input.taskContract.1.inputs.userRequest

instance : Decidable (Assembles input) :=
  inferInstanceAs (Decidable (_ ∧ _))

def courseAfter (result : ToolResult) : Course :=
  if result.status = .success then
    match criterionTraces rt input result with
    | .ok traces => if allPass traces then .accepted else .rejected
    | .error _ => .unverified
  else .toolFailed

/-- The decisions of a run, in the order in which they are taken. -/
def course : Course :=
  if ¬ Assembles input then .unassembled
  else if IsBlank input.modelName then .unrequested
  else if action x input = .block then .blocked
  else
    match backendResult rt x input (reviewed rt x input) with
    | .error _ => .crashed
    | .ok result => courseAfter rt input result

def reviewKind : ReviewKind where
  action := action x input
  step := ((reviewStep rt x input).stepType, (reviewStep rt x input).status)

theorem filledIn_iff : FilledIn input ↔ Assembles input ∧ ¬ IsBlank input.modelName := by
  constructor
  · intro h
    exact ⟨⟨h.taskId, h.runId, h.userRequest⟩, h.modelName⟩
  · rintro ⟨⟨htask, hrun, hrequest⟩, hmodel⟩
    exact ⟨htask, hrun, hrequest, hmodel⟩

end Decisions

section Trails

def trail (s : Session) : Trail where
  state := state s
  events := s.driver.history.map (·.event)
  steps := s.stepResults.map fun step => (step.stepType, step.status)
  calls := (calls s).length

theorem trail_moved (s : Session) (event : RunEvent) (resolved : GuardResults)
    (toState : RunState) :
    trail (s.moved rt event resolved toState) =
      { trail s with state := toState, events := (trail s).events ++ [event] } := by
  simp only [trail, calls_moved]
  simp [Session.moved, StateDriver.taken, state]

theorem trail_recording (s : Session) (step : ExecutionStepResult) :
    trail (s.recording step) =
      { trail s with steps := (trail s).steps ++ [(step.stepType, step.status)] } := by
  simp [trail, Session.recording, calls, state]

theorem trail_calling (s : Session) :
    trail s.calling = { trail s with calls := (trail s).calls + 1 } := by
  simp only [trail, calls_calling, List.length_append, List.length_singleton]
  rfl

theorem trail_follow {s t : Session} {events : List (RunEvent × GuardResults)}
    (h : follow rt s events = some t) :
    trail t = { trail s with state := state t, events := (trail s).events ++ events.map (·.1) } := by
  obtain ⟨-, hsteps, -, hcalls, hhistory⟩ := follow_keeps rt h
  simp only [trail, hsteps, hcalls, hhistory]

theorem trail_initialSession (hfresh : input.driver = {}) :
    trail (initialSession input) = { state := .created, events := [], steps := [], calls := 0 } := by
  simp [trail, initialSession, hfresh, state, calls]

/-- Before the call, or when the review has blocked it. -/
theorem trail_prepared {t : Session} (hfresh : input.driver = {})
    (hprepared : prepared rt x input (initialSession input) = some t)
    (hstate : state t = if action x input = .block then .failed else .toolRunning) :
    trail t =
      { state := if action x input = .block then .failed else .toolRunning
        events := (reviewKind rt x input).events
        steps := [promptKind, (reviewKind rt x input).step]
        calls := 0 } := by
  obtain ⟨-, hsteps, -, hcalls, hhistory⟩ := prepared_keeps rt x input hprepared
  simp only [trail, hstate, hsteps, hcalls, hhistory, initialSession, hfresh]
  rfl

end Trails

section Raised

/-- A body that raises is a run that raises, with the session it stops at. -/
theorem run_of_raises {e : PyException} {t : Session}
    (h : (body rt x input).run (initialSession input) = .error (.raises e) t) :
    (run rt x input).session = t ∧ (run rt x input).outcome = .error e := by
  simp [run, h]

theorem assemblePrompt_raises (h : ¬ Assembles input) (s : Session) :
    ∃ e, (assemblePrompt rt input).run s = .error (.raises e) s := by
  rcases hbundle : buildContextBundle input.taskContract.1 with e | bundle
  · refine ⟨e, ?_⟩
    rw [assemblePrompt, hbundle]
    rfl
  · rcases hassembly : buildPromptAssembly rt 0 input.taskContract.1 input.runId with e | assembly
    · refine ⟨e, ?_⟩
      rw [assemblePrompt, hbundle, hassembly]
      rfl
    · have htask := (exists_buildContextBundle input.taskContract).mp ⟨bundle, hbundle⟩
      have htexts := (exists_buildPromptAssembly rt 0 input.taskContract input.runId).mp
        ⟨assembly, hassembly⟩
      exact absurd ⟨htask, htexts⟩ h

theorem verification_raises {result : ToolResult} {e : PyException}
    (h : criterionTraces rt input result = .error e) (s : Session) :
    (verification rt input result).run s = .error (.raises e) s := by
  rw [verification_eq, h]
  rfl

variable {input}

/-- The session of a fresh driver that has accepted the start. -/
theorem exists_startRun (hfresh : input.driver = {}) :
    ∃ s₁, (startRun rt).run (initialSession input) = .ok () s₁ ∧
      s₁.driver.machine = harnessV1 ∧
      trail s₁ =
        { state := .assemblingPrompt, events := [.startRun], steps := [], calls := 0 } := by
  refine ⟨(initialSession input).moved rt .startRun [] .assemblingPrompt, ?_, ?_, ?_⟩
  · rw [startRun_eq_ok]
    simp only [follow, initialSession, state, hfresh]
    rfl
  · simp only [Session.moved, StateDriver.taken, initialSession, hfresh]
  · rw [trail_moved, trail_initialSession input hfresh]
    rfl

theorem raises_of_unassembled (hfresh : input.driver = {}) (h : ¬ Assembles input) :
    (∃ e, (run rt x input).outcome = .error e) ∧
      trail (run rt x input).session = Course.unassembled.trail (reviewKind rt x input) := by
  obtain ⟨s₁, hstart, -, htrail⟩ := exists_startRun rt hfresh
  obtain ⟨e, hassemble⟩ := assemblePrompt_raises rt input h s₁
  have hbody : (body rt x input).run (initialSession input) = .error (.raises e) s₁ := by
    rw [body_eq_startRun_bind, EStateM.run_bind, hstart, started]
    simp only [EStateM.run_bind, hassemble]
  obtain ⟨hsession, houtcome⟩ := run_of_raises rt x input hbody
  exact ⟨⟨e, houtcome⟩, hsession ▸ htrail⟩

theorem raises_of_unrequested (hfresh : input.driver = {}) (hassembles : Assembles input)
    (hmodel : IsBlank input.modelName) :
    (∃ e, (run rt x input).outcome = .error e) ∧
      trail (run rt x input).session = Course.unrequested.trail (reviewKind rt x input) := by
  obtain ⟨s₁, hstart, hmachine, htrail⟩ := exists_startRun rt hfresh
  have hassemble := (assemblePrompt_eq_ok rt input s₁ _ ()).mpr ⟨hassembles, rfl⟩
  have hwalk : harnessV1.walk .assemblingPrompt advanceEvents = some .toolPending := by decide
  have hstate : state s₁ = .assemblingPrompt := congrArg Trail.state htrail
  have hfollow := map_state_follow rt (s₁.recording (promptStep rt)) advanceEvents
  change _ = s₁.driver.machine.walk (state s₁) _ at hfollow
  rw [hmachine, hstate, hwalk, Option.map_eq_some_iff] at hfollow
  obtain ⟨s₂, hs₂, hstate₂⟩ := hfollow
  have hadvance := (advance_eq_ok rt _ s₂ ()).mpr hs₂
  obtain ⟨e, hsafety⟩ := approvalSafety_raises rt x input (fun h => h.2 hmodel) s₂
  have hbody : (body rt x input).run (initialSession input) = .error (.raises e) s₂ := by
    rw [body_eq_startRun_bind, EStateM.run_bind, hstart, started]
    simp only [EStateM.run_bind, hassemble, hadvance, hsafety]
  obtain ⟨hsession, houtcome⟩ := run_of_raises rt x input hbody
  refine ⟨⟨e, houtcome⟩, ?_⟩
  rw [hsession, trail_follow rt hs₂, trail_recording, htrail, hstate₂]
  rfl

end Raised

section Called

variable {input} {t : Session}

theorem trail_executed (hfresh : input.driver = {})
    (hprepared : prepared rt x input (initialSession input) = some t)
    (hgo : action x input ≠ .block) (hstate : state t = .toolRunning) (result : ToolResult) :
    trail (executed rt t (reviewed rt x input) result) =
      { state := .toolRunning
        events := (reviewKind rt x input).events
        steps := [promptKind, (reviewKind rt x input).step,
          executionKind (if result.status = .success then .success else .failure)]
        calls := 1 } := by
  rw [executed, trail_recording, trail_calling,
    trail_prepared rt x input hfresh hprepared (by rw [if_neg hgo, hstate]), if_neg hgo]
  rfl

/-- The event that says how the call went is accepted on a fresh driver. -/
theorem passing_of_next {s : Session} {event : RunEvent} {toState : RunState}
    (h : s.driver.machine.next (state s) event [] = some toState) :
    passing rt s event = s.moved rt event [] toState := by
  have hrun := run_orPass_trigger rt event s
  have hok := (run_trigger_eq_ok_next rt event none s _ ()).mpr ⟨toState, h, rfl⟩
  rw [orPass, run_rescue, hok] at hrun
  exact (EStateM.Result.ok.inj hrun).2.symm

theorem trail_passing (hfresh : input.driver = {})
    (hprepared : prepared rt x input (initialSession input) = some t)
    (hgo : action x input ≠ .block) (hstate : state t = .toolRunning) (result : ToolResult)
    {event : RunEvent} {toState : RunState}
    (hnext : harnessV1.next .toolRunning event [] = some toState) :
    trail (passing rt (executed rt t (reviewed rt x input) result) event) =
      { state := toState
        events := (reviewKind rt x input).events ++ [event]
        steps := [promptKind, (reviewKind rt x input).step,
          executionKind (if result.status = .success then .success else .failure)]
        calls := 1 } := by
  have hmachine : t.driver.machine = harnessV1 := by
    rw [(prepared_keeps rt x input hprepared).machine, initialSession, hfresh]
  have hpasses : t.driver.machine.next (state t) event [] = some toState := by
    rw [hmachine, hstate, hnext]
  rw [passing_of_next (s := executed rt t (reviewed rt x input) result) rt hpasses, trail_moved,
    trail_executed rt x hfresh hprepared hgo hstate]

end Called

section Endings

/-- The run has taken the given course: what is left of it, and what it returned. -/
def Took (c : Course) : Prop :=
  trail (run rt x input).session = c.trail (reviewKind rt x input) ∧
    (run rt x input).outcome.toOption.map (·.success) = c.success

variable {input} {t : Session} {result : ToolResult}

theorem took_of_raises {c : Course} (hraises : ∃ e, (run rt x input).outcome = .error e)
    (htrail : trail (run rt x input).session = c.trail (reviewKind rt x input))
    (hnone : c.success = none) : Took rt x input c := by
  obtain ⟨e, he⟩ := hraises
  refine ⟨htrail, ?_⟩
  rw [he, hnone]
  rfl

/-- A returned session that is not left to an error at the start has a result, of
which the driver and the error decide the success. -/
theorem success_of_returned {error : Option String} {s : Session}
    (hprepared : prepared rt x input (initialSession input) ≠ none)
    (h : Returned rt x input error s) :
    (run rt x input).session = s ∧
      (run rt x input).outcome.toOption.map (·.success) =
        some (resultSuccess s.driver error) := by
  obtain ⟨hsession, houtcome⟩ := run_of_returned rt x input h
  obtain ⟨r, hr⟩ := exists_buildResult_of_returned rt x input hprepared h
  refine ⟨hsession, ?_⟩
  rw [houtcome, hr]
  exact congrArg some (reports_of_buildResult rt input hr).success_eq

theorem took_blocked (hfresh : input.driver = {}) (hfilled : FilledIn input)
    (hblock : action x input = .block)
    (hprepared : prepared rt x input (initialSession input) = some t)
    (hstate : state t = .failed) : Took rt x input .blocked := by
  obtain ⟨hsession, hsuccess⟩ := success_of_returned rt x (by simp [hprepared])
    (.blocked t hfilled hblock hprepared)
  refine ⟨?_, ?_⟩
  · rw [hsession, trail_prepared rt x input hfresh hprepared (by rw [if_pos hblock, hstate]),
      if_pos hblock]
    rfl
  · rw [hsuccess, resultSuccess, show t.driver.currentStateId = _ from hstate]
    rfl

theorem took_crashed {e : PyException} (hfresh : input.driver = {}) (hfilled : FilledIn input)
    (hgo : action x input ≠ .block)
    (hprepared : prepared rt x input (initialSession input) = some t)
    (hstate : state t = .toolRunning)
    (hresult : backendResult rt x input (reviewed rt x input) = .error e) :
    Took rt x input .crashed := by
  have hbody := run_body_of_prepared rt x input hfilled hgo hprepared
  rw [EStateM.run_bind, run_toolModelExecution rt x input hfilled, hresult] at hbody
  obtain ⟨hsession, houtcome⟩ := run_of_raises rt x input hbody
  refine took_of_raises rt x ⟨e, houtcome⟩ ?_ rfl
  rw [hsession, trail_calling,
    trail_prepared rt x input hfresh hprepared (by rw [if_neg hgo, hstate]), if_neg hgo]
  rfl

theorem took_toolFailed (hfresh : input.driver = {}) (hfilled : FilledIn input)
    (hgo : action x input ≠ .block)
    (hprepared : prepared rt x input (initialSession input) = some t)
    (hstate : state t = .toolRunning)
    (hresult : backendResult rt x input (reviewed rt x input) = .ok result)
    (hstatus : result.status ≠ .success) : Took rt x input .toolFailed := by
  have hreturned := Returned.toolFailed t result hfilled hgo hprepared hresult hstatus
  obtain ⟨hsession, hsuccess⟩ := success_of_returned rt x (by simp [hprepared]) hreturned
  have htrail := trail_passing rt x hfresh hprepared hgo hstate result next_toolFailedRetryable
  rw [if_neg hstatus] at htrail
  have hdriver := congrArg Trail.state htrail
  refine ⟨hsession ▸ htrail, ?_⟩
  rw [hsuccess, resultSuccess, show StateDriver.currentStateId _ = _ from hdriver]
  rfl

section Verified

variable (hfresh : input.driver = {}) (hfilled : FilledIn input) (hgo : action x input ≠ .block)
  (hprepared : prepared rt x input (initialSession input) = some t)
  (hstate : state t = .toolRunning)
  (hresult : backendResult rt x input (reviewed rt x input) = .ok result)
  (hstatus : result.status = .success)

include hfresh hgo hprepared hstate hstatus in
theorem trail_completed :
    trail (passing rt (executed rt t (reviewed rt x input) result) .toolCompleted) =
      Course.unverified.trail (reviewKind rt x input) := by
  rw [trail_passing rt x hfresh hprepared hgo hstate result next_toolCompleted, if_pos hstatus]
  rfl

include hfresh hfilled hgo hprepared hstate hresult hstatus

theorem took_unverified {e : PyException} (hcriteria : criterionTraces rt input result = .error e) :
    Took rt x input .unverified := by
  have hbody := run_body_of_prepared rt x input hfilled hgo hprepared
  rw [EStateM.run_bind, run_toolModelExecution rt x input hfilled, hresult] at hbody
  simp only [if_pos hstatus, verification_raises rt input hcriteria] at hbody
  obtain ⟨hsession, houtcome⟩ := run_of_raises rt x input hbody
  refine took_of_raises rt x ⟨e, houtcome⟩ ?_ rfl
  rw [hsession]
  exact trail_completed rt x hfresh hgo hprepared hstate hstatus

theorem took_verified {traces : List VerificationTrace}
    (hcriteria : criterionTraces rt input result = .ok traces) :
    Took rt x input (if allPass traces then .accepted else .rejected) := by
  obtain ⟨t', hfollow⟩ := exists_verified rt x input hfresh hprepared hstate result traces
  have hreturned := Returned.verified t t' result traces hfilled hgo hprepared hresult hstatus
    hcriteria hfollow
  obtain ⟨hsession, hsuccess⟩ := success_of_returned rt x (by simp [hprepared]) hreturned
  have hdriver := OneVerdict.state_of_verified (isDefault_of_fresh hfresh) hprepared hfollow
  have htrail := trail_follow rt hfollow
  rw [trail_completed rt x hfresh hgo hprepared hstate hstatus] at htrail
  constructor
  · rw [hsession, trail_recording, htrail, hdriver]
    by_cases hpass : allPass traces
    · simp [hpass, verificationEvent, verificationStep, verificationStatus, Course.trail,
        verificationKind]
    · simp [hpass, verificationEvent, verificationStep, verificationStatus, Course.trail,
        verificationKind]
  · have hrecorded : (t'.recording (verificationStep rt traces)).driver.currentStateId =
        if allPass traces then .succeeded else .failed := hdriver
    rw [hsuccess, resultSuccess, hrecorded]
    by_cases hpass : allPass traces
    · simp [hpass, isError, Course.success]
    · simp [hpass, isError, Course.success]

end Verified

end Endings

theorem took_course (hfresh : input.driver = {}) : Took rt x input (course rt x input) := by
  obtain ⟨t, hprepared, hstate⟩ := exists_prepared rt x input hfresh
  unfold course
  by_cases hassembles : Assembles input
  · rw [if_neg (not_not_intro hassembles)]
    by_cases hmodel : IsBlank input.modelName
    · rw [if_pos hmodel]
      obtain ⟨hraises, htrail⟩ := raises_of_unrequested rt x hfresh hassembles hmodel
      exact took_of_raises rt x hraises htrail rfl
    · rw [if_neg hmodel]
      have hfilled := (filledIn_iff input).mpr ⟨hassembles, hmodel⟩
      by_cases hblock : action x input = .block
      · rw [if_pos hblock] at hstate ⊢
        exact took_blocked rt x hfresh hfilled hblock hprepared hstate
      · rw [if_neg hblock] at hstate ⊢
        rcases hresult : backendResult rt x input (reviewed rt x input) with e | result
        · exact took_crashed rt x hfresh hfilled hblock hprepared hstate hresult
        · simp only [courseAfter]
          by_cases hstatus : result.status = .success
          · rw [if_pos hstatus]
            rcases hcriteria : criterionTraces rt input result with e | traces
            · exact took_unverified rt x hfresh hfilled hblock hprepared hstate hresult hstatus
                hcriteria
            · exact took_verified rt x hfresh hfilled hblock hprepared hstate hresult hstatus
                hcriteria
          · rw [if_neg hstatus]
            exact took_toolFailed rt x hfresh hfilled hblock hprepared hstate hresult hstatus
  · rw [if_pos hassembles]
    obtain ⟨hraises, htrail⟩ := raises_of_unassembled rt x hfresh hassembles
    exact took_of_raises rt x hraises htrail rfl

/-- On a fresh driver a run does what its course says: the driver, the back ends
and the records add nothing to the decisions. -/
theorem run_follows_course (hfresh : input.driver = {}) :
    trail (run rt x input).session = (course rt x input).trail (reviewKind rt x input) ∧
      (run rt x input).outcome.toOption.map (·.success) = (course rt x input).success :=
  took_course rt x input hfresh

theorem run_follows_course_minimalInput :
    trail (run asciiRuntime {} (minimalInput none)).session =
      (course asciiRuntime {} (minimalInput none)).trail
        (reviewKind asciiRuntime {} (minimalInput none)) :=
  (run_follows_course asciiRuntime {} (minimalInput none) rfl).1

end NovaHarness.RunCourses
