import NovaHarness.SettledFields
import NovaHarness.EventCounts

namespace NovaHarness.ResultReload

open NovaHarness.Text
open NovaHarness.RecordValidation
open NovaHarness.SettledFields
open NovaHarness.EarlyExit
open NovaHarness.OrchestrationMachine
open NovaHarness.Driver
open NovaHarness.ToolInterfaceSchema
open NovaHarness.ApprovalSafetySchema
open NovaHarness.TraceSchemas
open NovaHarness.Pipeline
open NovaHarness.PipelineRun
open NovaHarness.PipelinePhases
open NovaHarness.PipelineOutcome
open NovaHarness.ResultRecords
open NovaHarness.OneVerdict
open NovaHarness.EventCounts

section Schemas

theorem stable_toolTrace : Stable ToolTrace.validate :=
  stable_fields (by simp) (by simp [strip_strip])

theorem stable_policyTrace : Stable PolicyTrace.validate :=
  stable_fields (by simp) (by simp [strip_strip])

theorem stable_stepTrace : Stable StepTrace.validate :=
  Settles.stable_bind ⟨by simp, by simp [strip_strip]⟩ unchanged_return.after.after

theorem stable_traceSummary : Stable TraceSummary.validate :=
  Settles.stable_bind ⟨fun _ h => h, fun _ _ => rfl⟩ unchanged_return.after

theorem stable_runTrace : Stable RunTrace.validate :=
  Settles.stable_bind ⟨by simp, by simp [strip_strip]⟩ unchanged_return.after.after.after.after

theorem stable_graderDefinition : Stable GraderDefinition.validate :=
  stable_fields (by simp) (by simp [strip_strip])

theorem stable_metricResult : Stable MetricResult.validate :=
  stable_fields (fun _ h => h) (fun _ => rfl)

theorem stable_benchmarkRun : Stable BenchmarkRun.validate :=
  Settles.stable_bind ⟨by simp, by simp [strip_strip]⟩ unchanged_return.after.after.after

theorem stable_toolInvocation : Stable ToolInvocation.validate :=
  Settles.stable_bind ⟨by simp [ToolInvocation.normalized], by simp [ToolInvocation.normalized, strip_strip]⟩
    unchanged_return.after

theorem stable_toolResult : Stable ToolResult.validate :=
  Settles.stable_bind ⟨by simp [ToolResult.normalized], by simp [ToolResult.normalized, strip_strip]⟩
    unchanged_return.after.after.after

theorem stable_safetyDecision : Stable SafetyDecision.validate :=
  Settles.stable_bind ⟨by simp [SafetyDecision.normalized], by simp [SafetyDecision.normalized, strip_strip]⟩
    unchanged_return.after.after

end Schemas

section Records

/-- Built again, the records of a step are the same. -/
structure StepRebuilds (step : ExecutionStepResult) : Prop where
  toolInvocation : ∀ v ∈ step.toolInvocation, v.validate = .ok v
  toolResult : ∀ v ∈ step.toolResult, v.validate = .ok v
  safetyDecision : ∀ v ∈ step.safetyDecision, v.validate = .ok v
  policyTrace : ∀ v ∈ step.policyTrace, v.validate = .ok v
  verificationTrace : ∀ v ∈ step.verificationTrace, v.validate = .ok v
  retryTrace : step.retryTrace = none

structure TraceRebuilds (trace : StepTrace) : Prop where
  own : trace.validate = .ok trace
  tool : ∀ v ∈ trace.tool, v.validate = .ok v
  policy : ∀ v ∈ trace.policy, v.validate = .ok v
  verification : ∀ v ∈ trace.verification, v.validate = .ok v
  retry : trace.retry = none

/-- `PipelineResult` has no validators of its own. -/
structure Rebuilds (r : PipelineResult) : Prop where
  steps : ∀ step ∈ r.steps, StepRebuilds step
  runTrace : r.runTrace.validate = .ok r.runTrace
  traces : ∀ trace ∈ r.runTrace.steps, TraceRebuilds trace
  summary : ∀ v ∈ r.runTrace.summary, v.validate = .ok v
  benchmarkRun : r.benchmarkRun.validate = .ok r.benchmarkRun
  graders : ∀ v ∈ r.benchmarkRun.graders, v.validate = .ok v
  metrics : ∀ v ∈ r.benchmarkRun.metrics, v.validate = .ok v

variable (rt : Runtime) (x : PipelineExecutor) (input : PipelineInput)

theorem traceRebuilds_of_stepTrace {step : ExecutionStepResult} {trace : StepTrace}
    (hstep : StepRebuilds step) (h : stepTrace rt step = .ok trace) : TraceRebuilds trace := by
  simp only [stepTrace, bind_eq_ok, construct_eq_ok] at h
  obtain ⟨tool, htool, hvalid⟩ := h
  have hown := stable_stepTrace _ _ hvalid
  simp only [StepTrace.validate, bind_eq_ok, fields_eq_ok, pure_eq_ok] at hvalid
  obtain ⟨_, ⟨-, rfl⟩, _, -, _, -, rfl⟩ := hvalid
  refine ⟨hown, fun v hv => ?_, hstep.policyTrace, hstep.verificationTrace, hstep.retryTrace⟩
  obtain rfl : tool = some v := hv
  unfold toolTrace at htool
  split at htool
  · simp only [bind_eq_ok, construct_eq_ok, pure_eq_ok, Option.some.injEq] at htool
    obtain ⟨_, htool, rfl⟩ := htool
    exact stable_toolTrace _ _ htool
  · simp [pure_eq_ok] at htool

theorem exists_of_mem_mapM {ε α β : Type} {f : α → Except ε β} {as : List α} {bs : List β}
    (h : as.mapM f = .ok bs) : ∀ b ∈ bs, ∃ a ∈ as, f a = .ok b := by
  induction as generalizing bs with
  | nil =>
      obtain rfl : [] = bs := by simpa [pure_eq_ok] using h
      simp
  | cons a as ih =>
      simp only [List.mapM_cons, bind_eq_ok, pure_eq_ok] at h
      obtain ⟨b, hb, bs', hbs', rfl⟩ := h
      intro c hc
      rcases List.mem_cons.mp hc with rfl | hc
      · exact ⟨a, by simp, hb⟩
      · obtain ⟨a', ha', hc⟩ := ih hbs' c hc
        exact ⟨a', by simp [ha'], hc⟩

/-- What `_build_result` adds to the steps it is handed can be built again if they
can. -/
theorem rebuilds_of_buildResult {driver : StateDriver} {steps : List ExecutionStepResult}
    {error : Option String} {r : PipelineResult} (hsteps : ∀ step ∈ steps, StepRebuilds step)
    (h : buildResult rt input driver steps error = .ok r) : Rebuilds r := by
  simp only [buildResult, bind_eq_ok, pure_eq_ok, construct_eq_ok] at h
  obtain ⟨traces, htraces, summary, hsummary, runTrace, hrunTrace, grader, hgrader, metrics,
    hmetrics, benchmarkRun, hbenchmark, rfl⟩ := h
  have hrun := stable_runTrace _ _ hrunTrace
  have hbench := stable_benchmarkRun _ _ hbenchmark
  simp only [RunTrace.validate, bind_eq_ok, fields_eq_ok, pure_eq_ok] at hrunTrace
  obtain ⟨_, ⟨-, rfl⟩, _, -, _, -, _, -, _, -, rfl⟩ := hrunTrace
  simp only [BenchmarkRun.validate, bind_eq_ok, fields_eq_ok, pure_eq_ok] at hbenchmark
  obtain ⟨_, ⟨-, rfl⟩, _, -, _, -, _, -, rfl⟩ := hbenchmark
  refine ⟨hsteps, hrun, fun trace htrace => ?_, fun v hv => ?_, hbench, fun v hv => ?_,
    fun v hv => ?_⟩
  · obtain ⟨step, hstep, htrace⟩ := exists_of_mem_mapM htraces trace htrace
    exact traceRebuilds_of_stepTrace rt (hsteps step hstep) htrace
  · obtain rfl := Option.mem_some_iff.mp hv
    exact stable_traceSummary _ _ hsummary
  · obtain rfl := List.mem_singleton.mp hv
    exact stable_graderDefinition _ _ hgrader
  · obtain ⟨raw, -, hraw⟩ := exists_of_mem_mapM hmetrics v hv
    exact stable_metricResult _ _ ((construct_eq_ok _ _ _).mp hraw)

end Records

section Steps

variable (rt : Runtime) (x : PipelineExecutor) (input : PipelineInput)

theorem rebuilds_promptStep : StepRebuilds (promptStep rt) := by
  constructor <;> simp [promptStep]

theorem validate_reviewed (hfilled : FilledIn input) :
    (reviewed rt x input).validate = .ok (reviewed rt x input) := by
  have hparts := (invocationParts_validate_eq_ok rt x input (requested rt x input)).mpr
    ⟨⟨hfilled.taskId, hfilled.modelName⟩, rfl⟩
  obtain ⟨htexts, -, hnormal⟩ := (ToolInvocation.validate_eq_ok _ _).mp
    (stable_toolInvocation _ _ hparts)
  refine (ToolInvocation.validate_eq_ok _ _).mpr ⟨htexts, ?_, ?_⟩
  · -- A review leaves an invocation pending at most.
    rw [reviewed]
    split <;> simp
  · exact congrArg (fun v : ToolInvocation =>
      { v with approvalState := (reviewed rt x input).approvalState }) hnormal

theorem validate_decision (policy : ApprovalSafetyPolicy) (hrun : ¬ IsBlank input.runId) :
    (decision rt x input policy).validate = .ok (decision rt x input policy) := by
  have hdecision := (makeSafetyDecision_requested rt x input policy _).mpr ⟨hrun, rfl⟩
  rw [makeSafetyDecision, construct_eq_ok] at hdecision
  exact stable_safetyDecision _ _ hdecision

theorem validate_decisionTrace (policy : ApprovalSafetyPolicy) (outcome : PolicyOutcomeType) :
    (decisionTrace outcome (decision rt x input policy)).validate =
      .ok (decisionTrace outcome (decision rt x input policy)) := by
  have htrace := (policyTrace_eq_ok outcome (decision rt x input policy) _).mpr
    ⟨not_isBlank_decisionReason rt x input policy, rfl⟩
  rw [policyTrace, construct_eq_ok] at htrace
  exact stable_policyTrace _ _ htrace

theorem rebuilds_decisionStep (hfilled : FilledIn input) (policy : ApprovalSafetyPolicy)
    (stepType : StepType) (status : TraceEventStatus) (outcome : PolicyOutcomeType) :
    StepRebuilds (decisionStep rt stepType status (reviewed rt x input)
      (decision rt x input policy) (decisionTrace outcome (decision rt x input policy))) where
  toolInvocation := by
    intro v hv
    obtain rfl := Option.mem_some_iff.mp hv
    exact validate_reviewed rt x input hfilled
  toolResult := by simp [decisionStep]
  safetyDecision := by
    intro v hv
    obtain rfl := Option.mem_some_iff.mp hv
    exact validate_decision rt x input policy hfilled.runId
  policyTrace := by
    intro v hv
    obtain rfl := Option.mem_some_iff.mp hv
    exact validate_decisionTrace rt x input policy outcome
  verificationTrace := by simp [decisionStep]
  retryTrace := rfl

theorem rebuilds_reviewStep (hfilled : FilledIn input) : StepRebuilds (reviewStep rt x input) := by
  rcases hpolicy : input.safetyPolicy with _ | policy
  · rw [reviewStep, hpolicy]
    refine ⟨fun v hv => ?_, by simp [noPolicyStep], by simp [noPolicyStep], fun v hv => ?_,
      by simp [noPolicyStep], rfl⟩
    · obtain rfl := Option.mem_some_iff.mp hv
      exact validate_reviewed rt x input hfilled
    · obtain rfl := Option.mem_some_iff.mp hv
      rfl
  · rw [reviewStep_of_policy rt x input hpolicy]
    cases action x input with
    | block => exact rebuilds_decisionStep rt x input hfilled policy.1 _ _ _
    | requireApproval => exact rebuilds_decisionStep rt x input hfilled policy.1 _ _ _
    | allow => exact rebuilds_decisionStep rt x input hfilled policy.1 _ _ _

/-- Every result of a back end has passed its validators, also one that a custom
executor hands in. -/
theorem validate_backendResult {invocation : ToolInvocation} {result : ToolResult}
    (h : backendResult rt x input invocation = .ok result) : result.validate = .ok result := by
  unfold backendResult at h
  split at h
  · unfold providerResult at h
    split at h
    · rename_i hgenerated
      obtain rfl := Except.ok.inj h
      simp only [generateResult, bind_eq_ok, construct_eq_ok] at hgenerated
      obtain ⟨_, -, hvalid⟩ := hgenerated
      exact stable_toolResult _ _ hvalid
    · unfold failedResult at h
      split at h
      · exact stable_toolResult _ _ ((construct_eq_ok _ _ _).mp h)
      · simp at h
  · unfold executorResult at h
    split at h
    · rename_i execute _
      rcases hanswer : execute invocation with e | answer
      · simp [hanswer, Except.mapError, Except.map] at h
      · obtain rfl : answer.1 = result := by
          simpa [hanswer, Except.mapError, Except.map] using h
        exact stable_toolResult.of_accepted (fun _ _ => rfl) answer
    · exact stable_toolResult _ _ ((construct_eq_ok _ _ _).mp h)

theorem rebuilds_executionStep (hfilled : FilledIn input) {result : ToolResult}
    (hresult : backendResult rt x input (reviewed rt x input) = .ok result) :
    StepRebuilds (executionStep rt (reviewed rt x input) result) where
  toolInvocation := by
    intro v hv
    obtain rfl := Option.mem_some_iff.mp hv
    exact validate_reviewed rt x input hfilled
  toolResult := by
    intro v hv
    obtain rfl := Option.mem_some_iff.mp hv
    exact validate_backendResult rt x input hresult
  safetyDecision := by simp [executionStep]
  policyTrace := by simp [executionStep]
  verificationTrace := by simp [executionStep]
  retryTrace := rfl

theorem rebuilds_verificationStep (traces : List VerificationTrace) :
    StepRebuilds (verificationStep rt traces) where
  toolInvocation := by simp [verificationStep]
  toolResult := by simp [verificationStep]
  safetyDecision := by simp [verificationStep]
  policyTrace := by simp [verificationStep]
  verificationTrace := by
    intro v hv
    obtain rfl := Option.mem_some_iff.mp hv
    have hname : ¬ IsBlank "all_checks" := by decide
    have hstrip : strip "all_checks" = "all_checks" := by decide
    simp [VerificationTrace.validate, hname, hstrip]
  retryTrace := rfl

end Steps

section Runs

variable (rt : Runtime) (x : PipelineExecutor) (input : PipelineInput)

/-- Every step that a returned session holds can be built again. -/
theorem rebuilds_of_returned {error : Option String} {s : Session} {r : PipelineResult}
    (h : Returned rt x input error s)
    (hbuild : buildResult rt input s.driver s.stepResults error = .ok r) :
    ∀ step ∈ s.stepResults, StepRebuilds step := by
  have hprompt := rebuilds_promptStep rt
  cases h with
  | rejected msg t hmsg hrejected hprepare =>
      rw [stepResults_of_rejected rt x input hprepare hbuild]
      simpa using hprompt
  | blocked t hfilled hblock hprepared =>
      rw [stepResults_of_prepared rt x input hprepared]
      simp [hprompt, rebuilds_reviewStep rt x input hfilled]
  | toolFailed t result hfilled hgo hprepared hresult hstatus =>
      rw [stepResults_of_executed rt x input hprepared]
      simp [hprompt, rebuilds_reviewStep rt x input hfilled,
        rebuilds_executionStep rt x input hfilled hresult]
  | verified t t' result traces hfilled hgo hprepared hresult hstatus htraces hfollow =>
      change ∀ step ∈ t'.stepResults ++ [_], StepRebuilds step
      rw [stepResults_of_followed rt x input hprepared hfollow]
      simp [hprompt, rebuilds_reviewStep rt x input hfilled,
        rebuilds_executionStep rt x input hfilled hresult, rebuilds_verificationStep]

/-- A result that is saved can be loaded: its records pass their own validators, which
leave them as they are, whatever the executor and the model have answered. -/
theorem run_result_rebuilds {r : PipelineResult} (h : (run rt x input).outcome = .ok r) :
    Rebuilds r := by
  obtain ⟨error, hreturned, hbuild⟩ := returned_of_outcome rt x input h
  exact rebuilds_of_buildResult rt input
    (rebuilds_of_returned rt x input hreturned hbuild) hbuild

theorem run_result_rebuilds_answering :
    ∃ r, (run asciiRuntime answering plainInput).outcome = .ok r ∧ Rebuilds r := by
  have hreturns : (run asciiRuntime answering plainInput).outcome.toOption.isSome := by
    decide +kernel
  rcases houtcome : (run asciiRuntime answering plainInput).outcome with e | r
  · simp [houtcome, Except.toOption] at hreturns
  · exact ⟨r, rfl, run_result_rebuilds asciiRuntime answering plainInput houtcome⟩

end Runs

end NovaHarness.ResultReload
