import NovaHarness.PipelineFrames
import NovaHarness.PipelineOutcome
import NovaHarness.ResultRecords

namespace NovaHarness.EffectGating

open NovaHarness.Text
open NovaHarness.RecordValidation
open NovaHarness.EarlyExit
open NovaHarness.OrchestrationMachine
open NovaHarness.Driver
open NovaHarness.TaskContractSchema
open NovaHarness.ToolInterfaceSchema
open NovaHarness.ApprovalSafetySchema
open NovaHarness.TraceSchemas
open NovaHarness.Pipeline
open NovaHarness.PipelineRun
open NovaHarness.PipelinePhases
open NovaHarness.PipelineFrames
open NovaHarness.PipelineOutcome
open NovaHarness.ResultRecords

variable (rt : Runtime) (x : PipelineExecutor) (input : PipelineInput)

section Calls

theorem respected_calls : Respected rt (fun s t => calls t = calls s) where
  refl _ := rfl
  trans _ _ _ hst htu := htu.trans hst
  moved s event resolved toState := calls_moved rt s event resolved toState
  driver _ _ _ _ := rfl
  recording _ _ := rfl

/-- Execution calls the back end once, however it ends. -/
theorem frames_toolModelExecution_calls (hfilled : FilledIn input) (invocation : ToolInvocation) :
    Frames (fun s t => calls t = calls s ++ [s.moment .called])
      (toolModelExecution rt x input invocation) := by
  have hpassing : ∀ (s : Session) (result : ToolResult) (event : RunEvent),
      calls (passing rt (executed rt s invocation result) event) =
        calls s ++ [s.moment .called] := by
    intro s result event
    obtain ⟨-, -, -, hcalls, -⟩ := passing_keeps rt (executed rt s invocation result) event
    rw [hcalls]
    exact calls_calling s
  constructor
  · intro s result t h
    rw [run_toolModelExecution rt x input hfilled] at h
    split at h
    · simp at h
    · split at h
      · obtain ⟨-, rfl⟩ := EStateM.Result.ok.inj h
        exact hpassing s _ _
      · simp at h
  · intro s e t h
    rw [run_toolModelExecution rt x input hfilled] at h
    split at h
    · obtain ⟨-, rfl⟩ := EStateM.Result.error.inj h
      exact calls_calling s
    · split at h
      · simp at h
      · obtain ⟨-, rfl⟩ := EStateM.Result.error.inj h
        exact hpassing s _ _

theorem calls_of_prepared {t : Session} (hfilled : FilledIn input) (hgo : action x input ≠ .block)
    (hprepared : prepared rt x input (initialSession input) = some t) :
    calls (run rt x input).session = [t.moment .called] := by
  have hframes : Frames (fun s t => calls t = calls s ++ [s.moment .called])
      (toolModelExecution rt x input (reviewed rt x input) >>= verification rt input) := by
    refine Frames.bind_of (frames_toolModelExecution_calls rt x input hfilled _)
      (frames_verification (respected_calls rt)) (fun _ _ h => h) ?_
    intro s m t hcall hrest
    exact hrest.trans hcall
  rw [run_session, run_body_of_prepared rt x input hfilled hgo hprepared, hframes.lastState t,
    (prepared_keeps rt x input hprepared).calls]
  rfl

/-- A run that is not prepared, or that a review blocks, calls nothing. -/
theorem calls_eq_nil
    (h : ¬ (FilledIn input ∧ action x input ≠ .block ∧
      (prepared rt x input (initialSession input)).isSome)) :
    calls (run rt x input).session = [] := by
  have hframes : Frames (fun s t => calls t = calls s) (prepare rt x input) :=
    frames_prepare (respected_calls rt) (fun _ => rfl) fun _ _ => rfl
  rw [run_session, body, EStateM.run_bind]
  rcases hprepare : (prepare rt x input).run (initialSession input) with ⟨invocation, t⟩ | ⟨e, t⟩
  · obtain ⟨hfilled, hgo, hprepared, -⟩ := (prepare_eq_ok ..).mp hprepare
    exact absurd ⟨hfilled, hgo, by simp [hprepared]⟩ h
  · exact hframes.2 _ e t hprepare

/-- Either the back end is not called, or once, by a run that was prepared. -/
theorem calls_cases :
    calls (run rt x input).session = [] ∨
      ∃ t, FilledIn input ∧ action x input ≠ .block ∧
        prepared rt x input (initialSession input) = some t ∧
        calls (run rt x input).session = [t.moment .called] := by
  by_cases hcalled : FilledIn input ∧ action x input ≠ .block ∧
      (prepared rt x input (initialSession input)).isSome
  · obtain ⟨hfilled, hgo, hsome⟩ := hcalled
    obtain ⟨t, hprepared⟩ := Option.isSome_iff_exists.mp hsome
    exact .inr ⟨t, hfilled, hgo, hprepared, calls_of_prepared rt x input hfilled hgo hprepared⟩
  · exact .inl (calls_eq_nil rt x input hcalled)

end Calls

section FreshDriver

theorem isDefault_of_fresh {input : PipelineInput} (hfresh : input.driver = {}) :
    IsDefault input.driver.machine := by
  rw [hfresh]
  exact isDefault_harnessV1

theorem walk_route (a : SafetyAction) :
    harnessV1.walk .created (route a) =
      some (if a = .block then .failed else .toolRunning) := by
  cases a <;> decide

/-- A fresh driver accepts every event up to the call. -/
theorem exists_prepared (hfresh : input.driver = {}) :
    ∃ t, prepared rt x input (initialSession input) = some t ∧
      state t = if action x input = .block then .failed else .toolRunning := by
  have hwalk := map_state_prepared rt x input (initialSession input)
  simp only [initialSession, state, hfresh, walk_route] at hwalk
  simpa only [initialSession, hfresh, Option.map_eq_some_iff] using hwalk

end FreshDriver

section Review

/-- `_make_safety_decision` decides on `a` for the invocation that the run builds. -/
def Yields (a : SafetyAction) : Prop :=
  ∃ policy invocation decision, input.safetyPolicy = some policy ∧
    (invocationParts rt x input).validate = .ok invocation ∧
    makeSafetyDecision rt invocation policy.1 input.runId = .ok decision ∧
    decision.safetyAction = a

theorem yields_iff (hfilled : FilledIn input) (a : SafetyAction) :
    Yields rt x input a ↔ input.safetyPolicy.isSome ∧ action x input = a := by
  have hinvocation := (invocationParts_validate_eq_ok rt x input _).mpr
    ⟨⟨hfilled.taskId, hfilled.modelName⟩, rfl⟩
  rw [Yields, Option.isSome_iff_exists]
  constructor
  · rintro ⟨policy, invocation, d, hpolicy, hvalid, hd, rfl⟩
    obtain rfl := Except.ok.inj (hinvocation.symm.trans hvalid)
    obtain ⟨-, rfl⟩ := (makeSafetyDecision_requested rt x input policy.1 d).mp hd
    exact ⟨⟨policy, hpolicy⟩, (decision_safetyAction rt x input hpolicy).symm⟩
  · rintro ⟨⟨policy, hpolicy⟩, rfl⟩
    have hdecision := (makeSafetyDecision_requested rt x input policy.1 _).mpr
      ⟨hfilled.runId, rfl⟩
    exact ⟨policy, _, _, hpolicy, hinvocation, hdecision,
      decision_safetyAction rt x input hpolicy⟩

theorem yields_block_iff (hfilled : FilledIn input) :
    Yields rt x input .block ↔ action x input = .block := by
  rw [yields_iff rt x input hfilled, and_iff_right_of_imp]
  intro hblock
  rcases hpolicy : input.safetyPolicy with _ | policy
  · simp [action, hpolicy] at hblock
  · rfl

def isReview (step : ExecutionStepResult) : Bool :=
  step.stepType = .policyCheck ∨ step.stepType = .approval

theorem isReview_reviewStep : isReview (reviewStep rt x input) = true := by
  rcases hpolicy : input.safetyPolicy with _ | policy
  · simp [reviewStep, hpolicy, noPolicyStep, isReview]
  · rw [reviewStep_of_policy rt x input hpolicy]
    cases action x input <;> simp [decisionStep, isReview]

theorem reviewStep_stepType : (reviewStep rt x input).stepType ≠ .verification := by
  intro hverification
  have hisReview := isReview_reviewStep rt x input
  simp [isReview, hverification] at hisReview

theorem reviewStep_of_block (hblock : action x input = .block) :
    ∃ policy, input.safetyPolicy = some policy ∧
      reviewStep rt x input =
        decisionStep rt .policyCheck .blocked (reviewed rt x input)
          (decision rt x input policy.1) (decisionTrace .blocked (decision rt x input policy.1)) := by
  rcases hpolicy : input.safetyPolicy with _ | policy
  · simp [action, hpolicy] at hblock
  · refine ⟨policy, rfl, ?_⟩
    rw [reviewStep_of_policy rt x input hpolicy, hblock]

end Review

section Blocked

theorem exists_outcome_of_blocked {t : Session} (hfilled : FilledIn input)
    (hblock : action x input = .block)
    (hprepared : prepared rt x input (initialSession input) = some t) :
    ∃ r, (run rt x input).outcome = .ok r ∧
      Reports t.driver [promptStep rt, reviewStep rt x input] none r := by
  have hreturned := Returned.blocked t hfilled hblock hprepared
  obtain ⟨r, hr⟩ := exists_buildResult_of_returned rt x input (by simp [hprepared]) hreturned
  refine ⟨r, (run_of_returned rt x input hreturned).2.trans hr, ?_⟩
  rw [← stepResults_of_prepared rt x input hprepared]
  exact reports_of_buildResult rt input hr

end Blocked

theorem effect_gating (hfresh : input.driver = {}) (hfilled : FilledIn input) :
    (calls (run rt x input).session).length ≤ 1 ∧
    (Yields rt x input .block →
      calls (run rt x input).session = [] ∧
      (run rt x input).session.driver.currentStateId = .failed ∧
      (run rt x input).session.driver.history.map (·.event) =
        [.startRun, .promptReady, .modelResponseReceived, .toolCallRequested,
          .approvalRequired, .approvalRejected] ∧
      ∃ r, (run rt x input).outcome = .ok r ∧ r.steps.length = 2 ∧ r.success = false ∧
        r.runTrace.terminalStatus = .blocked ∧
        r.runTrace.summary.map (·.policyBlocks) = some 1) ∧
    (¬ Yields rt x input .block →
      ∃ call, calls (run rt x input).session = [call] ∧ call.driverState = .toolRunning ∧
        call.recorded.countP isReview = 1) := by
  obtain ⟨t, hprepared, hstate⟩ := exists_prepared rt x input hfresh
  have hkeeps := prepared_keeps rt x input hprepared
  rw [yields_block_iff rt x input hfilled]
  by_cases hblock : action x input = .block
  · rw [if_pos hblock] at hstate
    obtain ⟨hsession, -⟩ := run_of_returned rt x input (.blocked t hfilled hblock hprepared)
    have hcalls : calls (run rt x input).session = [] :=
      calls_eq_nil rt x input fun h => h.2.1 hblock
    refine ⟨by simp [hcalls], fun _ => ⟨hcalls, hsession ▸ hstate, ?_, ?_⟩, absurd hblock⟩
    · rw [hsession, hkeeps.history, hblock]
      simp only [initialSession, hfresh]
      rfl
    · obtain ⟨r, houtcome, hreports⟩ := exists_outcome_of_blocked rt x input hfilled hblock hprepared
      obtain ⟨policy, -, hreview⟩ := reviewStep_of_block rt x input hblock
      have hdriver : t.driver.currentStateId = .failed := hstate
      refine ⟨r, houtcome, ?_, ?_, ?_, ?_⟩
      · rw [hreports.steps_eq]
        rfl
      · simp [hreports.success_eq, resultSuccess, hdriver]
      · simp [hreports.terminalStatus_eq, terminalStatus, countStatus, hreview, decisionStep]
      · simp [hreports.summary_eq, traceSummary, hreview, decisionStep, decisionTrace, promptStep]
  · rw [if_neg hblock] at hstate
    have hcalls := calls_of_prepared rt x input hfilled hblock hprepared
    refine ⟨by simp [hcalls], fun h => absurd h hblock, fun _ => ⟨_, hcalls, hstate, ?_⟩⟩
    have hprompt : isReview (promptStep rt) = false := rfl
    change t.stepResults.countP isReview = 1
    rw [stepResults_of_prepared rt x input hprepared]
    simp [hprompt, isReview_reviewStep]

def blockMockTool : Accepted ApprovalSafetyPolicy :=
  build (mockToolPolicy [("block-mock", .block)]) (by decide)

def blockedInput : PipelineInput :=
  minimalInput (some blockMockTool)

theorem effect_gating_blockedInput :
    Yields asciiRuntime {} blockedInput .block ∧
      calls (run asciiRuntime {} blockedInput).session = [] := by
  have hfilled : FilledIn blockedInput := filledIn_minimalInput _
  have hyields := (yields_block_iff asciiRuntime {} blockedInput hfilled).mpr (by decide)
  exact ⟨hyields, ((effect_gating asciiRuntime {} blockedInput rfl hfilled).2.1 hyields).1⟩

end NovaHarness.EffectGating
