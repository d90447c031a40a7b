import NovaHarness.EffectGating
import NovaHarness.OneVerdict

namespace NovaHarness.DriverRejection

open NovaHarness.Text
open NovaHarness.RecordValidation
open NovaHarness.EarlyExit
open NovaHarness.OrchestrationMachine
open NovaHarness.Driver
open NovaHarness.TraceSchemas
open NovaHarness.Pipeline
open NovaHarness.PipelineRun
open NovaHarness.PipelinePhases
open NovaHarness.PipelineFrames
open NovaHarness.PipelineOutcome
open NovaHarness.ResultRecords
open NovaHarness.EffectGating
open NovaHarness.OneVerdict

variable (rt : Runtime) (x : PipelineExecutor) (input : PipelineInput)

section Statements

theorem run_trigger_eq_error (event : RunEvent) (s t : Session) (msg : String) :
    (trigger rt event).run s = .error (.raises (.valueError msg)) t ↔
      ∃ d, s.driver.trigger event none (rt.now (.transition event)) = (.error msg, d) ∧
        { s with driver := d } = t := by
  rw [run_trigger]
  rcases s.driver.trigger event none (rt.now (.transition event)) with ⟨msg' | toState, d⟩
  · simp [and_assoc]
  · simp

/-- Around what can only raise, `except ValueError` returns the text of the error. -/
theorem run_orReturn_eq_returns {p : RunM Unit} (hp : Exits IsRaised p) (s t : Session)
    (msg : String) :
    (orReturn p).run s = .error (.returns (some msg)) t ↔
      p.run s = .error (.raises (.valueError msg)) t := by
  rw [orReturn, run_rescue]
  rcases hrun : p.run s with ⟨u, m⟩ | ⟨error | msg' | _ | _, m⟩
  · simp
  · obtain ⟨ex, hex⟩ := hp s _ m hrun
    simp at hex
  · change (exit (.returns (some msg')) : RunM Unit).run m = _ ↔ _
    simp
  · simp
  · simp

theorem startRun_eq_returns (s t : Session) (msg : String) :
    (startRun rt).run s = .error (.returns (some msg)) t ↔
      (trigger rt .startRun).run s = .error (.raises (.valueError msg)) t :=
  run_orReturn_eq_returns (exits_trigger_raised rt .startRun none) s t msg

/-- The first of the three events that is rejected ends them. -/
theorem advance_eq_returns (s t : Session) (msg : String) :
    (advance rt).run s = .error (.returns (some msg)) t ↔
      (trigger rt .promptReady).run s = .error (.raises (.valueError msg)) t ∨
      ∃ s₁, (trigger rt .promptReady).run s = .ok () s₁ ∧
        ((trigger rt .modelResponseReceived).run s₁ = .error (.raises (.valueError msg)) t ∨
        ∃ s₂, (trigger rt .modelResponseReceived).run s₁ = .ok () s₂ ∧
          (trigger rt .toolCallRequested).run s₂ = .error (.raises (.valueError msg)) t) := by
  have hmoves : Exits IsRaised (do
      trigger rt .promptReady
      trigger rt .modelResponseReceived
      trigger rt .toolCallRequested) := by
    refine Exits.bind (exits_trigger_raised rt _ _) fun _ => ?_
    exact Exits.bind (exits_trigger_raised rt _ _) fun _ => exits_trigger_raised rt _ _
  rw [advance, run_orReturn_eq_returns hmoves, run_bind_eq_error]
  simp only [run_bind_eq_error]
  constructor
  · rintro (h | ⟨_, s₁, h₁, h | ⟨_, s₂, h₂, h⟩⟩)
    · exact .inl h
    · exact .inr ⟨s₁, h₁, .inl h⟩
    · exact .inr ⟨s₁, h₁, .inr ⟨s₂, h₂, h⟩⟩
  · rintro (h | ⟨s₁, h₁, h | ⟨s₂, h₂, h⟩⟩)
    · exact .inl h
    · exact .inr ⟨(), s₁, h₁, .inl h⟩
    · exact .inr ⟨(), s₁, h₁, .inr ⟨(), s₂, h₂, h⟩⟩

end Statements

section Rejected

/-- What a run has done when it triggers an event whose rejection it answers. -/
inductive Before : RunEvent → RunM Unit → Prop
  | startRun : Before .startRun (pure ())
  | promptReady : Before .promptReady do
      startRun rt
      assemblePrompt rt input
  | modelResponseReceived : Before .modelResponseReceived do
      startRun rt
      assemblePrompt rt input
      trigger rt .promptReady
  | toolCallRequested : Before .toolCallRequested do
      startRun rt
      assemblePrompt rt input
      trigger rt .promptReady
      trigger rt .modelResponseReceived

/-- The run gets to the event with the session `s`, and the driver rejects it. -/
structure Rejected (event : RunEvent) (s : Session) (msg : String) (d : StateDriver) : Prop where
  before : ∃ p, Before rt input event p ∧ p.run (initialSession input) = .ok () s
  rejected : s.driver.trigger event none (rt.now (.transition event)) = (.error msg, d)

theorem prepare_of_rejected {event : RunEvent} {s : Session} {msg : String} {d : StateDriver}
    (h : Rejected rt input event s msg d) :
    (prepare rt x input).run (initialSession input) =
      .error (.returns (some msg)) { s with driver := d } := by
  obtain ⟨⟨p, hbefore, hrun⟩, hrejected⟩ := h
  have htrigger := (run_trigger_eq_error rt event s _ msg).mpr ⟨d, hrejected, rfl⟩
  -- The three events after the prompt are triggered under one guard.
  have hguarded : ∀ s₁ s₂, (startRun rt).run (initialSession input) = .ok () s₁ →
      (assemblePrompt rt input).run s₁ = .ok () s₂ →
      (advance rt).run s₂ = .error (.returns (some msg)) { s with driver := d } →
      (prepare rt x input).run (initialSession input) =
        .error (.returns (some msg)) { s with driver := d } := by
    intro s₁ s₂ hstart hassemble hadvance
    refine (run_bind_eq_error _ _ _ _ _).mpr (.inr ⟨(), s₁, hstart, ?_⟩)
    refine (run_bind_eq_error _ _ _ _ _).mpr (.inr ⟨(), s₂, hassemble, ?_⟩)
    exact (run_bind_eq_error _ _ _ _ _).mpr (.inl hadvance)
  cases hbefore with
  | startRun =>
      obtain ⟨-, rfl⟩ := (run_pure_eq_ok _ _ _ _).mp hrun
      exact (run_bind_eq_error _ _ _ _ _).mpr (.inl ((startRun_eq_returns ..).mpr htrigger))
  | promptReady =>
      obtain ⟨_, s₁, hstart, hassemble⟩ := (run_bind_eq_ok _ _ _ _ _).mp hrun
      exact hguarded s₁ s hstart hassemble ((advance_eq_returns ..).mpr (.inl htrigger))
  | modelResponseReceived =>
      simp only [run_bind_eq_ok] at hrun
      obtain ⟨_, s₁, hstart, _, s₂, hassemble, hready⟩ := hrun
      exact hguarded s₁ s₂ hstart hassemble
        ((advance_eq_returns ..).mpr (.inr ⟨s, hready, .inl htrigger⟩))
  | toolCallRequested =>
      simp only [run_bind_eq_ok] at hrun
      obtain ⟨_, s₁, hstart, _, s₂, hassemble, _, s₃, hready, hresponse⟩ := hrun
      exact hguarded s₁ s₂ hstart hassemble
        ((advance_eq_returns ..).mpr (.inr ⟨s₃, hready, .inr ⟨s, hresponse, htrigger⟩⟩))

/-- An early return with an error answers a rejection. -/
theorem exists_rejected_of_returns {t : Session} {msg : String}
    (h : (prepare rt x input).run (initialSession input) = .error (.returns (some msg)) t) :
    ∃ event s d, Rejected rt input event s msg d ∧ { s with driver := d } = t := by
  rcases (run_bind_eq_error _ _ _ _ t).mp h with hstart | ⟨_, s₁, hstart, h₁⟩
  · rw [startRun_eq_returns, run_trigger_eq_error] at hstart
    obtain ⟨d, hrejected, ht⟩ := hstart
    exact ⟨.startRun, _, d, ⟨⟨_, .startRun, rfl⟩, hrejected⟩, ht⟩
  · obtain ⟨_, s₂, hassemble, h₂⟩ :=
      (run_bind_eq_returns (exits_assemblePrompt rt input) _ _ s₁ t).mp h₁
    rcases (run_bind_eq_error _ _ _ _ t).mp h₂ with hadvance | ⟨_, s₃, -, h₃⟩
    · simp only [advance_eq_returns, run_trigger_eq_error] at hadvance
      rcases hadvance with ⟨d, hrejected, ht⟩ | ⟨s₃, hready, ⟨d, hrejected, ht⟩ |
        ⟨s₄, hresponse, d, hrejected, ht⟩⟩
      · refine ⟨.promptReady, s₂, d, ⟨⟨_, .promptReady, ?_⟩, hrejected⟩, ht⟩
        simp only [run_bind_eq_ok]
        exact ⟨(), s₁, hstart, hassemble⟩
      · refine ⟨.modelResponseReceived, s₃, d, ⟨⟨_, .modelResponseReceived, ?_⟩, hrejected⟩, ht⟩
        simp only [run_bind_eq_ok]
        exact ⟨(), s₁, hstart, (), s₂, hassemble, hready⟩
      · refine ⟨.toolCallRequested, s₄, d, ⟨⟨_, .toolCallRequested, ?_⟩, hrejected⟩, ht⟩
        simp only [run_bind_eq_ok]
        exact ⟨(), s₁, hstart, (), s₂, hassemble, (), s₃, hready, hresponse⟩
    · obtain ⟨⟨-, hrun, -⟩, -⟩ := (assemblePrompt_eq_ok rt input s₁ s₂ ()).mp hassemble
      obtain ⟨-, -, -, hnone⟩ := (approvalSafety_eq_returns rt x input hrun s₃ t _).mp h₃
      simp at hnone

theorem returned_of_rejected {event : RunEvent} {s : Session} {msg : String} {d : StateDriver}
    (h : Rejected rt input event s msg d) :
    Returned rt x input (some msg) { s with driver := d } := by
  have hprepare := prepare_of_rejected rt x input h
  rcases prepare_eq_returns rt x input hprepare with ⟨⟨msg', hmsg, hne⟩, hnone⟩ | ⟨hmsg, -⟩
  · obtain rfl := Option.some.inj hmsg
    exact .rejected msg _ hne hnone hprepare
  · simp at hmsg

end Rejected

section Steps

/-- The driver accepts the first event of a run. -/
def StartAccepted : Prop :=
  (input.driver.machine.next input.driver.currentStateId .startRun []).isSome

/-- Past the first event there is the step of the prompt, and the texts it is
made from are not blank. -/
inductive Reached (s : Session) : Prop
  | notStarted (hstart : ¬ StartAccepted input) (hsteps : s.stepResults = [])
  | started (hstart : StartAccepted input) (hsteps : s.stepResults = [promptStep rt])
      (htask : ¬ IsBlank input.taskContract.1.taskId) (hrun : ¬ IsBlank input.runId)

theorem reached_of_assembled {s₁ s₂ : Session}
    (hstart : (startRun rt).run (initialSession input) = .ok () s₁)
    (hassemble : (assemblePrompt rt input).run s₁ = .ok () s₂) : Reached rt input s₂ := by
  have hfollow := (startRun_eq_ok rt _ s₁ ()).mp hstart
  obtain ⟨⟨htask, hrun, -⟩, rfl⟩ := (assemblePrompt_eq_ok rt input s₁ s₂ ()).mp hassemble
  obtain ⟨toState, hnext, -⟩ := Option.bind_eq_some_iff.mp hfollow
  refine .started (Option.isSome_iff_exists.mpr ⟨toState, hnext⟩) ?_ htask hrun
  change s₁.stepResults ++ [promptStep rt] = _
  rw [(follow_keeps rt hfollow).2.1]
  rfl

theorem reached_of_trigger {s t : Session} {event : RunEvent} (hs : Reached rt input s)
    (h : (trigger rt event).run s = .ok () t) : Reached rt input t := by
  have hkeeps := (follow_keeps rt ((run_trigger_eq_ok rt event none s t ()).mp h)).2.1
  cases hs with
  | notStarted hstart hsteps => exact .notStarted hstart (hkeeps.trans hsteps)
  | started hstart hsteps htask hrun => exact .started hstart (hkeeps.trans hsteps) htask hrun

theorem reached_of_rejected {event : RunEvent} {s : Session} {msg : String} {d : StateDriver}
    (h : Rejected rt input event s msg d) : Reached rt input s := by
  obtain ⟨⟨p, hbefore, hrun⟩, hrejected⟩ := h
  cases hbefore with
  | startRun =>
      obtain ⟨-, rfl⟩ := (run_pure_eq_ok _ _ _ _).mp hrun
      refine .notStarted ?_ rfl
      intro haccepted
      obtain ⟨toState, hnext⟩ := Option.isSome_iff_exists.mp haccepted
      have hok := (run_trigger_eq_ok_next rt .startRun none (initialSession input) _ ()).mpr
        ⟨toState, hnext, rfl⟩
      have herror := (run_trigger_eq_error rt .startRun _ _ msg).mpr ⟨d, hrejected, rfl⟩
      rw [hok] at herror
      simp at herror
  | promptReady =>
      obtain ⟨_, s₁, hstart, hassemble⟩ := (run_bind_eq_ok _ _ _ _ _).mp hrun
      exact reached_of_assembled rt input hstart hassemble
  | modelResponseReceived =>
      simp only [run_bind_eq_ok] at hrun
      obtain ⟨_, s₁, hstart, _, s₂, hassemble, hready⟩ := hrun
      exact reached_of_trigger rt input (reached_of_assembled rt input hstart hassemble) hready
  | toolCallRequested =>
      simp only [run_bind_eq_ok] at hrun
      obtain ⟨_, s₁, hstart, _, s₂, hassemble, _, s₃, hready, hresponse⟩ := hrun
      have hreached := reached_of_assembled rt input hstart hassemble
      exact reached_of_trigger rt input (reached_of_trigger rt input hreached hready) hresponse

/-- The trace of a run takes at least one step. -/
theorem buildResult_nil_ne_ok (driver : StateDriver) (error : Option String)
    (r : PipelineResult) : buildResult rt input driver [] error ≠ .ok r := by
  intro h
  simp only [buildResult, List.mapM_nil, bind_eq_ok, pure_eq_ok, construct_eq_ok,
    RunTrace.validate, fields_eq_ok, require_eq_ok] at h
  obtain ⟨_, rfl, _, -, _, ⟨_, ⟨-, rfl⟩, -, hsteps, -⟩, -⟩ := h
  exact hsteps rfl

end Steps

/-- The run returns with the text of a rejection and leaves the driver where it
was in the session `s`. -/
def RejectionReported (msg : String) (s : Session) (report : RunReport) : Prop :=
  (∃ r, report.outcome = .ok r ∧ r.success = false ∧ r.error = some msg) ∧
    report.session.driver.currentStateId = state s

theorem rejectionReported_iff {event : RunEvent} {s : Session} {msg : String} {d : StateDriver}
    (h : Rejected rt input event s msg d) :
    RejectionReported msg s (run rt x input) ↔ StartAccepted input := by
  obtain ⟨hsession, houtcome⟩ := run_of_returned rt x input (returned_of_rejected rt x input h)
  obtain ⟨⟨-, hstate⟩, hmsg⟩ := StateDriver.of_trigger_error h.rejected
  rw [RejectionReported, hsession, houtcome, and_iff_left hstate]
  cases reached_of_rejected rt input h with
  | notStarted hstart hsteps =>
      simp only [hsteps, hstart, iff_false]
      rintro ⟨r, hr, -⟩
      exact buildResult_nil_ne_ok rt input d (some msg) r hr
  | started hstart hsteps htask hrun =>
      simp only [hsteps, hstart, iff_true]
      obtain ⟨r, hr⟩ := exists_buildResult rt input d (some msg) htask hrun
        (List.cons_ne_nil (promptStep rt) []) (by simp [recordable_promptStep])
        (by simp [promptStep, List.range'_succ])
      have hreports := reports_of_buildResult rt input hr
      refine ⟨r, hr, ?_, hreports.error_eq⟩
      simp [hreports.success_eq, resultSuccess, isError, hmsg]

def withoutPromptReady : Accepted OrchestrationStateMachine :=
  build
    { harnessV1 with transitions := harnessV1.transitions.filter (·.event ≠ .promptReady) }
    (by decide)

def stuckInput : PipelineInput :=
  { plainInput with stateDriver := some { machine := withoutPromptReady.1 } }

theorem rejectionReported_stuckInput :
    ∃ msg s d, Rejected asciiRuntime stuckInput .promptReady s msg d ∧
      RejectionReported msg s (run asciiRuntime {} stuckInput) := by
  have hfilled : FilledIn (minimalInput none) := filledIn_minimalInput none
  have hprompt : (startRun asciiRuntime >>= fun _ => assemblePrompt asciiRuntime stuckInput).run
      (initialSession stuckInput) =
        .ok () (((initialSession stuckInput).moved asciiRuntime .startRun [] .assemblingPrompt
          ).recording (promptStep asciiRuntime)) := by
    simp only [run_bind_eq_ok, startRun_eq_ok, assemblePrompt_eq_ok]
    exact ⟨(), _, rfl, ⟨hfilled.taskId, hfilled.runId, hfilled.userRequest⟩, rfl⟩
  have hrejected : Rejected asciiRuntime stuckInput .promptReady _ _ _ :=
    ⟨⟨_, .promptReady, hprompt⟩, rfl⟩
  exact ⟨_, _, _, hrejected,
    (rejectionReported_iff asciiRuntime {} stuckInput hrejected).mpr rfl⟩

/-- A driver that has already finished. -/
def finishedInput : PipelineInput :=
  { plainInput with stateDriver := some { currentStateId := .succeeded } }

theorem finishedInput_crashes :
    ∃ msg s d, Rejected asciiRuntime finishedInput .startRun s msg d ∧
      ¬ RejectionReported msg s (run asciiRuntime {} finishedInput) := by
  have houtcome : (run asciiRuntime {} finishedInput).outcome.toOption = none := by
    decide +kernel
  refine ⟨_, _, _, ⟨⟨_, .startRun, rfl⟩, rfl⟩, ?_⟩
  rintro ⟨⟨r, hr, -⟩, -⟩
  simp [hr, Except.toOption] at houtcome

end NovaHarness.DriverRejection
