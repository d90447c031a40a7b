import NovaHarness.EffectGating
import NovaHarness.OneVerdict
import NovaHarness.OutputRendering

namespace NovaHarness.RunCompletion

open NovaHarness.Text
open NovaHarness.RecordValidation
open NovaHarness.OrchestrationMachine
open NovaHarness.Driver
open NovaHarness.TaskContractSchema
open NovaHarness.ToolInterfaceSchema
open NovaHarness.ApprovalSafetySchema
open NovaHarness.Pipeline
open NovaHarness.PipelineRun
open NovaHarness.PipelinePhases
open NovaHarness.PipelineFrames
open NovaHarness.PipelineOutcome
open NovaHarness.ResultRecords
open NovaHarness.EffectGating
open NovaHarness.OneVerdict
open NovaHarness.OutputRendering

variable (rt : Runtime) (x : PipelineExecutor) (input : PipelineInput)

section BackEnd

/-- The back end does not raise, and a tool executor reports success. -/
def BackendSucceeds : Prop :=
  match x.modelProvider, x.toolExecutor with
  | some provider, _ =>
      ∃ response, provider.generate (promptMessages input.taskContract.1) = .ok response
  | none, some execute =>
      ∃ result, execute (reviewed rt x input) = .ok result ∧ result.1.status = .success
  | none, none => True

theorem generateResult_of_ok {provider : ModelProvider} {messages : List ModelMessage}
    {response : ModelResponse} (h : provider.generate messages = .ok response) :
    ∃ result, generateResult rt provider messages (reviewed rt x input) = .ok result ∧
      result.status = .success ∧ result.output = some (generatedOutput response) := by
  obtain ⟨hid, hname⟩ := not_isBlank_reviewed rt x input
  simp only [generateResult, h, Except.mapError, bind_eq_ok, construct_eq_ok,
    ToolResult.validate_eq_ok]
  exact ⟨_, ⟨response, rfl, ⟨hid, hname⟩, by simp, by simp, rfl⟩, rfl, rfl⟩

theorem generateResult_of_error {provider : ModelProvider} {messages : List ModelMessage}
    {e : BackendError} (h : provider.generate messages = .error e) (invocation : ToolInvocation) :
    generateResult rt provider messages invocation = .error (.backend e) := by
  rw [generateResult, h]
  rfl

theorem failedResult_status {invocation : ToolInvocation} {e : PyException} {result : ToolResult}
    (h : failedResult rt invocation e = .ok result) : result.status = .error := by
  unfold failedResult at h
  split at h
  · rw [construct_eq_ok, ToolResult.validate_eq_ok] at h
    obtain ⟨-, -, -, rfl⟩ := h
    rfl
  · simp at h

/-- What comes of the back end is a success exactly when the back end succeeds. -/
theorem status_eq_success_iff {result : ToolResult}
    (h : backendResult rt x input (reviewed rt x input) = .ok result) :
    result.status = .success ↔ BackendSucceeds rt x input := by
  unfold backendResult at h
  unfold BackendSucceeds
  rcases hprovider : x.modelProvider with _ | provider
  · simp only [hprovider, executorResult] at h ⊢
    rcases hexecutor : x.toolExecutor with _ | execute
    · simp only [hexecutor, construct_eq_ok, defaultToolExecutor,
        ToolResult.validate_eq_ok] at h ⊢
      obtain ⟨-, -, -, rfl⟩ := h
      simp [ToolResult.normalized]
    · simp only [hexecutor] at h ⊢
      rcases hexecute : execute (reviewed rt x input) with e | executed
      · rw [hexecute] at h
        simp [Except.mapError, Except.map] at h
      · rw [hexecute] at h
        obtain rfl := Except.ok.inj h
        simp
  · simp only [hprovider, providerResult] at h ⊢
    rcases hgenerate : provider.generate (promptMessages input.taskContract.1) with e | response
    · simp only [generateResult_of_error rt hgenerate] at h
      simp [failedResult_status rt h]
    · obtain ⟨generated, hgenerated, hstatus, -⟩ := generateResult_of_ok rt x input hgenerate
      rw [hgenerated] at h
      obtain rfl := Except.ok.inj h
      simp [hstatus]

end BackEnd

section States

theorem next_toolFailedRetryable :
    harnessV1.next .toolRunning .toolFailedRetryable [] = some .retryPending := by
  decide

/-- Where the event that says how the call went takes a fresh driver. -/
theorem machine_state_of_executed {t : Session} (hfresh : input.driver = {})
    (hprepared : prepared rt x input (initialSession input) = some t)
    (hstate : state t = .toolRunning) (result : ToolResult) (event : RunEvent) :
    (passing rt (executed rt t (reviewed rt x input) result) event).driver.machine = harnessV1 ∧
      state (passing rt (executed rt t (reviewed rt x input) result) event) =
        (harnessV1.next .toolRunning event []).getD .toolRunning := by
  obtain ⟨hmachine, -, -, -, hpassing⟩ :=
    passing_keeps rt (executed rt t (reviewed rt x input) result) event
  have hdefault : t.driver.machine = harnessV1 := by
    rw [(prepared_keeps rt x input hprepared).machine]
    simp [initialSession, hfresh]
  refine ⟨hmachine.trans hdefault, ?_⟩
  rw [hpassing]
  change (t.driver.machine.next (state t) _ _).getD (state t) = _
  rw [hdefault, hstate]

/-- The returned session is in a terminal state unless the back end has failed. -/
theorem terminal_iff_of_returned {error : Option String} {s : Session} (hfresh : input.driver = {})
    (h : Returned rt x input error s) :
    state s ∈ harnessV1.terminalStates ↔
      action x input = .block ∨ BackendSucceeds rt x input := by
  obtain ⟨t₀, hprepared₀, hstate₀⟩ := exists_prepared rt x input hfresh
  have hdefault := isDefault_of_fresh hfresh
  cases h with
  | rejected msg t hmsg hrejected hprepare =>
      rw [hprepared₀] at hrejected
      simp at hrejected
  | blocked t hfilled hblock hprepared =>
      rw [state_of_blocked hdefault hblock hprepared]
      simp only [hblock, true_or, iff_true]
      decide
  | toolFailed t result hfilled hgo hprepared hresult hstatus =>
      -- The run returns without triggering `retryAllowed`.
      obtain rfl := Option.some.inj (hprepared₀.symm.trans hprepared)
      rw [if_neg hgo] at hstate₀
      rw [(machine_state_of_executed rt x input hfresh hprepared hstate₀ result _).2,
        next_toolFailedRetryable, Option.getD_some, ← status_eq_success_iff rt x input hresult]
      simp only [hgo, hstatus, or_self, iff_false]
      decide
  | verified t t' result traces hfilled hgo hprepared hresult hstatus htraces hfollow =>
      have hstate := state_of_verified hdefault hprepared hfollow
      change state t' ∈ _ ↔ _
      rw [hstate, ← status_eq_success_iff rt x input hresult]
      simp only [hstatus, or_true, iff_true]
      split <;> decide

end States

theorem completed_iff (hfresh : input.driver = {}) (r : PipelineResult)
    (h : (run rt x input).outcome = .ok r) :
    (r.terminalState ∈ harnessV1.terminalStates.map (·.value) ∧
      (run rt x input).session.driver.isTerminal = true) ↔
    action x input = .block ∨ BackendSucceeds rt x input := by
  obtain ⟨error, hreturned, hbuild⟩ := returned_of_outcome rt x input h
  have hmachine : (run rt x input).session.driver.machine = harnessV1 := by
    rw [machine_run, hfresh]
  rw [(reports_of_buildResult rt input hbuild).terminalState_eq,
    List.mem_map_of_injective RunState.value_injective, StateDriver.isTerminal_iff, hmachine,
    and_self]
  exact terminal_iff_of_returned rt x input hfresh hreturned

theorem completed_iff_blockedInput :
    ∃ r, (run asciiRuntime {} blockedInput).outcome = .ok r ∧
      r.terminalState ∈ harnessV1.terminalStates.map (·.value) := by
  have hblock : action {} blockedInput = .block := by decide
  have hfilled : FilledIn blockedInput := filledIn_minimalInput _
  obtain ⟨t, hprepared, -⟩ := exists_prepared asciiRuntime {} blockedInput rfl
  obtain ⟨r, hr, -⟩ :=
    exists_outcome_of_blocked asciiRuntime {} blockedInput hfilled hblock hprepared
  exact ⟨r, hr, ((completed_iff asciiRuntime {} blockedInput rfl r hr).mpr (.inl hblock)).1⟩

def failure : Accepted ToolResult :=
  build
    { invocationId := "inv-001"
      toolName := "mock_tool"
      status := .error
      output := some []
      error := some "mock failure" }
    (by decide)

def failing : PipelineExecutor :=
  { toolExecutor := some fun _ => .ok failure }

theorem failing_waits_for_retry :
    ¬ ∀ r, (run asciiRuntime failing plainInput).outcome = .ok r →
      r.terminalState ∈ harnessV1.terminalStates.map (·.value) := by
  intro hterminal
  have hstate : (run asciiRuntime failing plainInput).outcome.toOption.map (·.terminalState) =
      some "retry_pending" := by decide +kernel
  obtain ⟨r, houtcome, hr⟩ := exists_of_map_toOption hstate
  have hmem := hterminal r houtcome
  rw [hr] at hmem
  exact absurd hmem (by decide)

end NovaHarness.RunCompletion
