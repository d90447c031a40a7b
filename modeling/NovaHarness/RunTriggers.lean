import NovaHarness.ComposedRoutines
import NovaHarness.DriverRuns
import NovaHarness.PipelineFrames

/-!
A run as a sequence of trigger calls on its driver.  Every phase is put together
from four kinds of statement, and only one of them touches the driver; so
whatever is true of sequences of trigger calls is true of runs, however they end.
-/

namespace NovaHarness.RunTriggers

open NovaHarness.EarlyExit
open NovaHarness.ComposedRoutines
open NovaHarness.OrchestrationMachine
open NovaHarness.Driver
open NovaHarness.DriverRuns
open NovaHarness.ToolInterfaceSchema
open NovaHarness.ApprovalSafetySchema
open NovaHarness.TraceSchemas
open NovaHarness.Pipeline
open NovaHarness.PipelineRun
open NovaHarness.PipelinePhases
open NovaHarness.PipelineFrames

variable (rt : Runtime) (x : PipelineExecutor) (input : PipelineInput)

section Statements

inductive Statement : RunM Unit → Prop
  | trigger (event : RunEvent) (guardResults : Option GuardResults) :
      Statement (trigger rt event guardResults)
  | record (step : ExecutionStepResult) : Statement (record step)
  | hold (invocation : ToolInvocation) : Statement (update (·.holding invocation))
  | call : Statement (update Session.calling)

theorem composed_trigger (event : RunEvent) (guardResults : Option GuardResults) :
    Composed (Statement rt) (trigger rt event guardResults) :=
  .statement (.trigger event guardResults)

theorem composed_record (step : ExecutionStepResult) : Composed (Statement rt) (record step) :=
  .statement (.record step)

theorem composed_attempt {α : Type} (v : Except PyException α) :
    Composed (Statement rt) (attempt v) :=
  .ofExcept Exit.raises v

theorem composed_orReturn {p : RunM Unit} (hp : Composed (Statement rt) p) :
    Composed (Statement rt) (orReturn p) :=
  .rescue hp (holds_of_handled fun _ => .exit _)

theorem composed_orPass {p : RunM Unit} (hp : Composed (Statement rt) p) :
    Composed (Statement rt) (orPass p) :=
  .rescue hp (holds_of_handled fun _ => .pure ())

end Statements

section Phases

theorem composed_startRun : Composed (Statement rt) (startRun rt) :=
  composed_orReturn rt (composed_trigger rt _ _)

theorem composed_assemblePrompt : Composed (Statement rt) (assemblePrompt rt input) := by
  refine .bind (composed_attempt rt _) fun _ => ?_
  exact .bind (composed_attempt rt _) fun _ => composed_record rt _

theorem composed_advance : Composed (Statement rt) (advance rt) := by
  apply composed_orReturn
  refine .bind (composed_trigger rt _ _) fun _ => ?_
  exact .bind (composed_trigger rt _ _) fun _ => composed_trigger rt _ _

theorem composed_followDecision (invocation : ToolInvocation) (d : SafetyDecision) :
    Composed (Statement rt) (followDecision rt invocation d) := by
  unfold followDecision
  split
  · refine .bind (composed_trigger rt _ _) fun _ => ?_
    refine .bind (composed_trigger rt _ _) fun _ => ?_
    refine .bind (composed_attempt rt _) fun _ => ?_
    exact .bind (composed_record rt _) fun _ => .exit _
  · refine .bind (composed_trigger rt _ _) fun _ => ?_
    refine .bind (.statement (.hold _)) fun _ => ?_
    refine .bind (composed_attempt rt _) fun _ => ?_
    refine .bind (composed_record rt _) fun _ => ?_
    exact .bind (composed_trigger rt _ _) fun _ => .pure _
  · refine .bind (composed_trigger rt _ _) fun _ => ?_
    refine .bind (composed_attempt rt _) fun _ => ?_
    exact .bind (composed_record rt _) fun _ => .pure _

theorem composed_followNoPolicy (invocation : ToolInvocation) :
    Composed (Statement rt) (followNoPolicy rt invocation) := by
  refine .bind (composed_trigger rt _ _) fun _ => ?_
  refine .bind (composed_attempt rt _) fun _ => ?_
  exact .bind (composed_record rt _) fun _ => .pure _

theorem composed_approvalSafety : Composed (Statement rt) (approvalSafety rt x input) := by
  refine .bind (composed_attempt rt _) fun invocation => ?_
  refine .bind (.statement (.hold invocation)) fun _ => ?_
  split
  · exact .bind (composed_attempt rt _) fun d => composed_followDecision rt invocation d
  · exact composed_followNoPolicy rt invocation

theorem composed_executeTool (invocation : ToolInvocation) :
    Composed (Statement rt) (executeTool rt x input invocation) := by
  unfold executeTool
  split
  · refine .bind (composed_attempt rt _) fun _ => ?_
    exact .bind (.statement .call) fun _ => composed_attempt rt _
  · exact .bind (.statement .call) fun _ => composed_attempt rt _

theorem composed_toolModelExecution (invocation : ToolInvocation) :
    Composed (Statement rt) (toolModelExecution rt x input invocation) := by
  refine .bind (composed_executeTool rt x input invocation) fun result => ?_
  refine .bind (composed_record rt _) fun _ => ?_
  split
  · exact .bind (composed_orPass rt (composed_trigger rt _ _)) fun _ => .pure _
  · exact .bind (composed_orPass rt (composed_trigger rt _ _)) fun _ => .exit _

theorem composed_recordVerification (status : TraceEventStatus) (outcome : String)
    (count : Nat) : Composed (Statement rt) (recordVerification rt status outcome count) :=
  .bind (composed_attempt rt _) fun _ => composed_record rt _

theorem composed_verification (result : ToolResult) :
    Composed (Statement rt) (verification rt input result) := by
  refine .bind (composed_attempt rt _) fun content => ?_
  refine .bind (composed_attempt rt _) fun traces => ?_
  split
  · exact .bind (composed_trigger rt _ _) fun _ => composed_recordVerification rt _ _ _
  · exact .bind (composed_trigger rt _ _) fun _ => composed_recordVerification rt _ _ _

/-- What a run does once its driver has accepted the start. -/
def started : RunM Unit := do
  assemblePrompt rt input
  advance rt
  let invocation ← approvalSafety rt x input
  let result ← toolModelExecution rt x input invocation
  verification rt input result

theorem body_eq_startRun_bind : body rt x input = startRun rt >>= fun _ => started rt x input := by
  simp only [body, prepare, started, bind_assoc]

theorem composed_started : Composed (Statement rt) (started rt x input) := by
  refine .bind (composed_assemblePrompt rt input) fun _ => ?_
  refine .bind (composed_advance rt) fun _ => ?_
  refine .bind (composed_approvalSafety rt x input) fun invocation => ?_
  refine .bind (composed_toolModelExecution rt x input invocation) fun result => ?_
  exact composed_verification rt input result

theorem composed_body : Composed (Statement rt) (body rt x input) := by
  rw [body_eq_startRun_bind]
  exact .bind (composed_startRun rt) fun _ => composed_started rt x input

end Phases

section Triggering

/-- A move the driver made: where from, along which event, and where to. -/
abbrev Move := RunState × RunEvent × RunState

def recordedMove (r : TransitionRecord) : Move :=
  (r.fromState, r.event, r.toState)

def Moment.move (moment : Moment) : Option Move :=
  match moment.effect with
  | .moved event toState => some (moment.driverState, event, toState)
  | .called => none

/-- The moves in the log of a session. -/
def moves (s : Session) : List Move :=
  s.log.filterMap Moment.move

theorem moves_moved (s : Session) (event : RunEvent) (resolved : GuardResults)
    (toState : RunState) :
    moves (s.moved rt event resolved toState) = moves s ++ [(state s, event, toState)] := by
  simp [moves, Session.moved, Moment.move, Session.moment]

theorem moves_calling (s : Session) : moves s.calling = moves s := by
  simp [moves, Session.calling, Moment.move, Session.moment]

/-- The driver of the second session is that of the first after some trigger
calls, each at the time the run reads for its event; and what the log takes down
as moves is what the calls left in the history as allowed. -/
structure Triggering (s t : Session) : Prop where
  calls : ∃ calls, t.driver = drive s.driver calls ∧
    ∀ call ∈ calls, call.now = rt.now (.transition call.event)
  moves : ∃ added, t.driver.history = s.driver.history ++ added ∧
    moves t = moves s ++ (added.filter TransitionRecord.isAllowed).map recordedMove

theorem drive_append (d : StateDriver) (first second : List TriggerCall) :
    drive d (first ++ second) = drive (drive d first) second :=
  List.foldl_append

instance : Std.Refl (Triggering rt) where
  refl s := ⟨⟨[], rfl, by simp⟩, [], by simp, by simp⟩

instance : IsTrans Session (Triggering rt) where
  trans s m t hsm hmt := by
    obtain ⟨⟨first, hfirst, hfirstNow⟩, added, hadded, hmoves⟩ := hsm
    obtain ⟨⟨second, hsecond, hsecondNow⟩, added', hadded', hmoves'⟩ := hmt
    refine ⟨⟨first ++ second, ?_, ?_⟩, added ++ added', ?_, ?_⟩
    · rw [hsecond, hfirst, drive_append]
    · intro call hcall
      rcases List.mem_append.mp hcall with h | h
      · exact hfirstNow call h
      · exact hsecondNow call h
    · rw [hadded', hadded, List.append_assoc]
    · rw [hmoves', hmoves, List.filter_append, List.map_append, List.append_assoc]

/-- A session with the same driver and the same moves. -/
theorem Triggering.of_same {s t : Session} (hdriver : t.driver = s.driver)
    (hmoves : RunTriggers.moves t = RunTriggers.moves s) : Triggering rt s t :=
  ⟨⟨[], hdriver, by simp⟩, [], by simp [hdriver], by simpa using hmoves⟩

theorem frames_trigger_triggering (event : RunEvent) (guardResults : Option GuardResults) :
    Frames (Triggering rt) (trigger rt event guardResults) := by
  constructor
  · intro s u t h
    rw [run_trigger] at h
    rcases hcall : s.driver.trigger event guardResults (rt.now (.transition event)) with
      ⟨msg | toState, d⟩
    · simp [hcall] at h
    · rw [hcall] at h
      obtain ⟨-, rfl⟩ := EStateM.Result.ok.inj h
      obtain ⟨-, htaken⟩ := (StateDriver.trigger_eq_ok_iff ..).mp hcall
      refine ⟨⟨[⟨event, guardResults, rt.now (.transition event)⟩], ?_, by simp⟩, _, rfl, ?_⟩
      · change _ = after s.driver _
        rw [after, hcall, htaken]
        rfl
      · rw [moves_moved]
        rfl
  · intro s e t h
    rw [run_trigger] at h
    rcases hcall : s.driver.trigger event guardResults (rt.now (.transition event)) with
      ⟨msg | toState, d⟩
    · rw [hcall] at h
      obtain ⟨-, rfl⟩ := EStateM.Result.error.inj h
      refine ⟨⟨[⟨event, guardResults, rt.now (.transition event)⟩], ?_, by simp⟩, ?_⟩
      · change d = after s.driver _
        rw [after, hcall]
      · have houtcome := s.driver.trigger_triggered event guardResults (rt.now (.transition event))
        rw [hcall] at houtcome
        cases houtcome with
        | terminal => exact ⟨[], by simp, by simp [moves]⟩
        | unmatched => exact ⟨[], by simp, by simp [moves]⟩
        | blocked _ _ _ g =>
            refine ⟨_, rfl, ?_⟩
            simp [moves, TransitionRecord.isAllowed, isAllowed_blocked]
    · simp [hcall] at h

theorem frames_statement {p : RunM Unit} (hp : Statement rt p) : Frames (Triggering rt) p := by
  cases hp with
  | trigger event guardResults => exact frames_trigger_triggering rt event guardResults
  | record step => exact Frames.update fun s => .of_same rt rfl rfl
  | hold invocation => exact Frames.update fun s => .of_same rt rfl rfl
  | call => exact Frames.update fun s => .of_same rt rfl (moves_calling s)

theorem triggering_run : Triggering rt (initialSession input) (run rt x input).session := by
  rw [run_session]
  exact ((composed_body rt x input).frames fun _ => frames_statement rt).lastState _

/-- However it ends, a run moves its driver by trigger calls only: it appends to
the history a path through the machine, takes nothing away, and the moves it logs
are the allowed ones it appended. -/
theorem run_drives (rt : Runtime) (x : PipelineExecutor) (input : PipelineInput) :
    let d := input.driver
    let s := (run rt x input).session
    (∃ calls, s.driver = drive d calls ∧
      ∀ call ∈ calls, call.now = rt.now (.transition call.event)) ∧
    ∃ added, s.driver.history = d.history ++ added ∧
      IsLogPath d.currentStateId added s.driver.currentStateId ∧
      (∀ r ∈ added, LoggedBy d.machine r) ∧
      moves s = (added.filter TransitionRecord.isAllowed).map recordedMove := by
  intro d s
  obtain ⟨⟨calls, hdriver, hnow⟩, added, hhistory, hmoves⟩ := triggering_run rt x input
  refine ⟨⟨calls, hdriver, hnow⟩, added, hhistory, ?_⟩
  obtain ⟨-, added', hhistory', hpath, hlogged⟩ := continues_drive d calls
  change s.driver.history = d.history ++ added at hhistory
  change s.driver = drive d calls at hdriver
  rw [← hdriver] at hhistory' hpath
  obtain rfl := List.append_cancel_left (hhistory'.symm.trans hhistory)
  exact ⟨hpath, hlogged, hmoves⟩

end Triggering

end NovaHarness.RunTriggers
