import NovaHarness.OneVerdict
import NovaHarness.EffectGating

namespace NovaHarness.ExecutorLimits

open NovaHarness.RecordValidation
open NovaHarness.EarlyExit
open NovaHarness.OrchestrationMachine
open NovaHarness.Driver
open NovaHarness.ToolInterfaceSchema
open NovaHarness.ApprovalSafetySchema
open NovaHarness.TraceSchemas
open NovaHarness.Pipeline
open NovaHarness.PipelineRun
open NovaHarness.PipelinePhases
open NovaHarness.PipelineFrames
open NovaHarness.EffectGating
open NovaHarness.OneVerdict

variable (rt : Runtime) (x : PipelineExecutor) (input : PipelineInput)

section Steps

abbrev recorded (s : Session) : Nat := s.stepResults.length

theorem adds_trigger (event : RunEvent) (guardResults : Option GuardResults) :
    Adds recorded 0 (trigger rt event guardResults) := by
  apply Adds.of_frames
  constructor
  · intro s u t h
    obtain ⟨toState, -, rfl⟩ := (run_trigger_eq_ok_next rt event guardResults s t u).mp h
    rfl
  · intro s e t h
    exact congrArg List.length (of_run_trigger_eq_error rt event guardResults h).2.stepResults

theorem adds_attempt {α : Type} (v : Except PyException α) : Adds recorded 0 (attempt v) :=
  Adds.ofExcept _ v

theorem adds_record (step : ExecutionStepResult) : Adds recorded 1 (record step) := by
  apply Adds.update
  intro s
  simp [recorded, Session.recording]

theorem adds_holding (invocation : ToolInvocation) :
    Adds recorded 0 (update (·.holding invocation) : RunM Unit) :=
  Adds.update fun _ => Nat.le_refl _

theorem adds_calling : Adds recorded 0 (update Session.calling : RunM Unit) :=
  Adds.update fun _ => Nat.le_refl _

theorem adds_orReturn {p : RunM Unit} {n : Nat} (hp : Adds recorded n p) :
    Adds recorded n (orReturn p) :=
  Adds.rescue hp (holds_of_handled fun _ => Adds.exit _)

theorem adds_orPass {p : RunM Unit} {n : Nat} (hp : Adds recorded n p) :
    Adds recorded n (orPass p) :=
  Adds.rescue hp (holds_of_handled fun _ => Adds.pure ())

theorem adds_assemblePrompt : Adds recorded 1 (assemblePrompt rt input) := by
  refine Adds.silent_bind (adds_attempt _) (fun _ => ?_)
  exact Adds.silent_bind (adds_attempt _) (fun _ => adds_record _)

theorem adds_advance : Adds recorded 0 (advance rt) := by
  apply adds_orReturn
  refine Adds.silent_bind (adds_trigger rt _ _) (fun _ => ?_)
  exact Adds.silent_bind (adds_trigger rt _ _) (fun _ => adds_trigger rt _ _)

theorem adds_followDecision (invocation : ToolInvocation) (d : SafetyDecision) :
    Adds recorded 1 (followDecision rt invocation d) := by
  unfold followDecision
  split
  · refine Adds.silent_bind (adds_trigger rt _ _) (fun _ => ?_)
    refine Adds.silent_bind (adds_trigger rt _ _) (fun _ => ?_)
    refine Adds.silent_bind (adds_attempt _) (fun _ => ?_)
    exact Adds.bind_silent (adds_record _) (fun _ => Adds.exit _)
  · refine Adds.silent_bind (adds_trigger rt _ _) (fun _ => ?_)
    refine Adds.silent_bind (adds_holding _) (fun _ => ?_)
    refine Adds.silent_bind (adds_attempt _) (fun _ => ?_)
    refine Adds.bind_silent (adds_record _) (fun _ => ?_)
    exact Adds.silent_bind (adds_trigger rt _ _) (fun _ => Adds.pure _)
  · refine Adds.silent_bind (adds_trigger rt _ _) (fun _ => ?_)
    refine Adds.silent_bind (adds_attempt _) (fun _ => ?_)
    exact Adds.bind_silent (adds_record _) (fun _ => Adds.pure _)

theorem adds_followNoPolicy (invocation : ToolInvocation) :
    Adds recorded 1 (followNoPolicy rt invocation) := by
  refine Adds.silent_bind (adds_trigger rt _ _) (fun _ => ?_)
  refine Adds.silent_bind (adds_attempt _) (fun _ => ?_)
  exact Adds.bind_silent (adds_record _) (fun _ => Adds.pure _)

theorem adds_approvalSafety : Adds recorded 1 (approvalSafety rt x input) := by
  refine Adds.silent_bind (adds_attempt _) (fun invocation => ?_)
  refine Adds.silent_bind (adds_holding _) (fun _ => ?_)
  split
  · exact Adds.silent_bind (adds_attempt _) (fun _ => adds_followDecision rt _ _)
  · exact adds_followNoPolicy rt _

theorem adds_toolModelExecution (invocation : ToolInvocation) :
    Adds recorded 1 (toolModelExecution rt x input invocation) := by
  have hexecute : Adds recorded 0 (executeTool rt x input invocation) := by
    unfold executeTool
    split
    · refine Adds.silent_bind (adds_attempt _) (fun _ => ?_)
      exact Adds.silent_bind adds_calling (fun _ => adds_attempt _)
    · exact Adds.silent_bind adds_calling (fun _ => adds_attempt _)
  refine Adds.silent_bind hexecute (fun result => ?_)
  refine Adds.bind_silent (adds_record _) (fun _ => ?_)
  split
  · exact Adds.silent_bind (adds_orPass (adds_trigger rt _ _)) (fun _ => Adds.pure _)
  · exact Adds.silent_bind (adds_orPass (adds_trigger rt _ _)) (fun _ => Adds.exit _)

theorem adds_verification (result : ToolResult) :
    Adds recorded 1 (verification rt input result) := by
  have hrecord : ∀ status outcome count,
      Adds recorded 1 (recordVerification rt status outcome count) :=
    fun _ _ _ => Adds.silent_bind (adds_attempt _) (fun _ => adds_record _)
  refine Adds.silent_bind (adds_attempt _) (fun content => ?_)
  refine Adds.silent_bind (adds_attempt _) (fun traces => ?_)
  split
  · exact Adds.silent_bind (adds_trigger rt _ _) (fun _ => hrecord _ _ _)
  · exact Adds.silent_bind (adds_trigger rt _ _) (fun _ => hrecord _ _ _)

theorem adds_prepare : Adds recorded 2 (prepare rt x input) := by
  have hrest : Adds recorded 1 (advance rt >>= fun _ => approvalSafety rt x input) :=
    Adds.silent_bind (adds_advance rt) (fun _ => adds_approvalSafety rt x input)
  refine Adds.silent_bind (adds_orReturn (adds_trigger rt _ _)) (fun _ => ?_)
  exact Adds.bind (adds_assemblePrompt rt input) (fun _ => hrest) (Nat.le_refl 2)

/-- One step for the prompt, the review, the execution and the verification. -/
theorem adds_body : Adds recorded 4 (body rt x input) := by
  have hrest : ∀ invocation, Adds recorded 2
      (toolModelExecution rt x input invocation >>= fun result => verification rt input result) :=
    fun invocation => Adds.bind (adds_toolModelExecution rt x input invocation)
      (fun result => adds_verification rt input result) (Nat.le_refl 2)
  exact Adds.bind (adds_prepare rt x input) (fun invocation => hrest invocation) (Nat.le_refl 4)

theorem recorded_run_le : recorded (run rt x input).session ≤ 4 := by
  rw [run_session]
  have hle := (adds_body rt x input).lastState (initialSession input)
  simpa [recorded, initialSession] using hle

end Steps

theorem calls_run_le : (calls (run rt x input).session).length ≤ 1 := by
  rcases calls_cases rt x input with hnone | ⟨t, -, -, -, hone⟩
  · rw [hnone]
    exact Nat.zero_le 1
  · rw [hone]
    exact Nat.le_refl 1

section Limits

/-- The steps and the calls of a run are within the limits of a configuration. -/
def Within (config : ExecutorConfig) (report : RunReport) : Prop :=
  (recorded report.session : Int) ≤ config.maxSteps ∧
    ((calls report.session).length : Int) ≤ config.maxToolCalls

theorem run_config (config : ExecutorConfig) :
    run rt { x with config := config } input = run rt x input := rfl

theorem full_run :
    recorded (run asciiRuntime answering plainInput).session = 4 ∧
      (calls (run asciiRuntime answering plainInput).session).length = 1 := by
  decide +kernel

/-- A run records four steps and makes one call at most, whatever its limits
are; so the limits that bind are those that allow as much. -/
theorem limits_bind_iff (config : ExecutorConfig) :
    (∀ (rt : Runtime) (x : PipelineExecutor) (input : PipelineInput),
      recorded (run rt { x with config := config } input).session ≤ 4 ∧
        (calls (run rt { x with config := config } input).session).length ≤ 1) ∧
    ((∀ (rt : Runtime) (x : PipelineExecutor) (input : PipelineInput),
      Within config (run rt { x with config := config } input)) ↔
        4 ≤ config.maxSteps ∧ 1 ≤ config.maxToolCalls) := by
  have hbound : ∀ (rt : Runtime) (x : PipelineExecutor) (input : PipelineInput),
      recorded (run rt { x with config := config } input).session ≤ 4 ∧
        (calls (run rt { x with config := config } input).session).length ≤ 1 :=
    fun rt x input => ⟨recorded_run_le rt _ input, calls_run_le rt _ input⟩
  refine ⟨hbound, ?_⟩
  constructor
  · intro hwithin
    obtain ⟨hsteps, hcalls⟩ := hwithin asciiRuntime answering plainInput
    rw [run_config, full_run.1] at hsteps
    rw [run_config, full_run.2] at hcalls
    exact ⟨hsteps, hcalls⟩
  · rintro ⟨hmaxSteps, hmaxCalls⟩ rt x input
    obtain ⟨hsteps, hcalls⟩ := hbound rt x input
    constructor
    · apply Int.le_trans _ hmaxSteps
      exact_mod_cast hsteps
    · apply Int.le_trans _ hmaxCalls
      exact_mod_cast hcalls

/-- With room for one step, four are recorded. -/
theorem one_step_exceeded :
    ¬ Within { maxSteps := 1 }
      (run asciiRuntime { answering with config := { maxSteps := 1 } } plainInput) := by
  rw [Within, run_config asciiRuntime answering plainInput { maxSteps := 1 }, full_run.1]
  rintro ⟨hsteps, -⟩
  exact absurd hsteps (by decide)

end Limits

end NovaHarness.ExecutorLimits
