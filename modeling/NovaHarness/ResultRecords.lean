import Mathlib.Algebra.Order.BigOperators.Group.List
import Mathlib.Algebra.Order.Ring.Rat
import Mathlib.Data.Nat.Cast.Order.Ring
import NovaHarness.PipelineOutcome

namespace NovaHarness.ResultRecords

open NovaHarness.Text
open NovaHarness.RecordValidation
open NovaHarness.Driver
open NovaHarness.ToolInterfaceSchema
open NovaHarness.ApprovalSafetySchema
open NovaHarness.TraceSchemas
open NovaHarness.Pipeline
open NovaHarness.PipelineRun
open NovaHarness.PipelinePhases
open NovaHarness.PipelineOutcome

variable (rt : Runtime) (x : PipelineExecutor) (input : PipelineInput)

section Contents

theorem mapM_metrics_eq_ok {metrics metrics' : List MetricResult}
    (h : metrics.mapM (fun m => construct "MetricResult" m.validate) = .ok metrics') :
    metrics' = metrics := by
  induction metrics generalizing metrics' with
  | nil => exact ((pure_eq_ok _ _).mp h).symm
  | cons m metrics ih =>
      simp only [List.mapM_cons, bind_eq_ok, pure_eq_ok, construct_eq_ok, MetricResult.validate,
        fields_eq_ok] at h
      obtain ⟨_, ⟨-, rfl⟩, _, htail, rfl⟩ := h
      rw [ih htail]

structure Reports (driver : StateDriver) (steps : List ExecutionStepResult)
    (error : Option String) (r : PipelineResult) : Prop where
  success_eq : r.success = resultSuccess driver error
  terminalState_eq : r.terminalState = driver.currentStateId.value
  steps_eq : r.steps = steps
  error_eq : r.error = error
  terminalStatus_eq : r.runTrace.terminalStatus = terminalStatus driver steps error
  summary_eq : r.runTrace.summary = some (traceSummary steps)
  verdict_eq : r.benchmarkRun.verdict = if resultSuccess driver error then .pass else .fail
  metrics_eq : r.benchmarkRun.metrics = resultMetrics driver steps error

theorem reports_of_buildResult {driver : StateDriver} {steps : List ExecutionStepResult}
    {error : Option String} {r : PipelineResult}
    (h : buildResult rt input driver steps error = .ok r) : Reports driver steps error r := by
  simp only [buildResult, bind_eq_ok, pure_eq_ok, construct_eq_ok, TraceSummary.validate,
    RunTrace.validate, BenchmarkRun.validate, fields_eq_ok, require_eq_ok] at h
  obtain ⟨traces, -, _, ⟨_, ⟨-, rfl⟩, -, -, rfl⟩, _, ⟨_, ⟨-, rfl⟩, -, -, -, -, -, -, -, -, rfl⟩,
    _, -, metrics, hmetrics, _, ⟨_, ⟨-, rfl⟩, -, -, -, -, -, -, rfl⟩, rfl⟩ := h
  constructor
  case metrics_eq => exact mapM_metrics_eq_ok hmetrics
  all_goals rfl

end Contents

section Existence

structure Recordable (r : ExecutionStepResult) : Prop where
  finished : r.finishedAt.getD "" ≠ ""
  timed : ∃ seconds, r.latencySeconds = some seconds ∧ 0 ≤ seconds
  named : ∀ invocation ∈ r.toolInvocation, ¬ IsBlank invocation.toolName

theorem not_isBlank_listStr (words : List String) : ¬ IsBlank (listStr rt.tables words) :=
  not_isBlank_append (not_isBlank_append (by decide))

theorem exists_stepTrace {r : ExecutionStepResult} (hr : Recordable r) :
    ∃ trace, stepTrace rt r = .ok trace ∧ trace.stepIndex = r.stepIndex := by
  obtain ⟨seconds, hseconds, hnonneg⟩ := hr.timed
  have hid : ¬ IsBlank ("step-" ++ toString r.stepIndex) := not_isBlank_append (by decide)
  have htool : ∃ tool, toolTrace rt r = .ok tool := by
    unfold toolTrace
    rcases hinvocation : r.toolInvocation with _ | invocation
    · exact ⟨none, rfl⟩
    · rcases hresult : r.toolResult with _ | result
      · exact ⟨none, rfl⟩
      · simp only [bind_eq_ok, pure_eq_ok, construct_eq_ok, ToolTrace.validate, fields_eq_ok,
          List.append_eq_nil_iff, nonBlank_eq_nil, check_eq_nil, hseconds]
        exact ⟨_, _, ⟨⟨⟨hr.named invocation hinvocation, not_isBlank_listStr rt _⟩, hnonneg⟩,
          rfl⟩, rfl⟩
  obtain ⟨tool, htool⟩ := htool
  simp only [stepTrace, bind_eq_ok, construct_eq_ok, StepTrace.validate, fields_eq_ok,
    require_eq_ok, pure_eq_ok, List.append_eq_nil_iff, nonBlank_eq_nil, check_eq_nil]
  refine ⟨_, ⟨tool, htool, _, ⟨⟨hid, ?_⟩, rfl⟩, (), ?_, (), ?_, rfl⟩, rfl⟩
  · simpa [hseconds] using hnonneg
  · exact fun _ => hr.finished
  · simp [hseconds]

theorem exists_stepTraces {steps : List ExecutionStepResult} (h : ∀ r ∈ steps, Recordable r) :
    ∃ traces, steps.mapM (stepTrace rt) = .ok traces ∧
      traces.map (·.stepIndex) = steps.map (·.stepIndex) := by
  induction steps with
  | nil => exact ⟨[], rfl, rfl⟩
  | cons r steps ih =>
      obtain ⟨trace, htrace, hindex⟩ := exists_stepTrace rt (h r (by simp))
      obtain ⟨traces, htraces, hindexes⟩ := ih fun r' hr' => h r' (by simp [hr'])
      refine ⟨trace :: traces, ?_, by simp [hindex, hindexes]⟩
      simp only [List.mapM_cons, bind_eq_ok, pure_eq_ok]
      exact ⟨trace, htrace, traces, htraces, rfl⟩

theorem firstMisplaced_eq_none (i : Nat) (traces : List StepTrace)
    (h : traces.map (·.stepIndex) = List.range' i traces.length) :
    firstMisplaced i traces = none := by
  induction traces generalizing i with
  | nil => rfl
  | cons trace traces ih =>
      rw [List.map_cons, List.length_cons, List.range'_succ] at h
      obtain ⟨hhead, htail⟩ := List.cons.inj h
      rw [firstMisplaced, if_pos hhead]
      exact ih (i + 1) htail

theorem totalLatency_nonneg {steps : List ExecutionStepResult} (h : ∀ r ∈ steps, Recordable r) :
    0 ≤ totalLatency steps := by
  apply List.sum_nonneg
  intro seconds hseconds
  obtain ⟨r, hr, rfl⟩ := List.mem_map.mp hseconds
  obtain ⟨seconds, hlatency, hnonneg⟩ := (h r hr).timed
  simpa [hlatency] using hnonneg

theorem countStatus_le_length (steps : List ExecutionStepResult) :
    countStatus .success steps + countStatus .failure steps + countStatus .blocked steps ≤
      steps.length := by
  induction steps with
  | nil => exact Nat.le_refl 0
  | cons r steps ih =>
      simp only [countStatus, List.countP_cons, List.length_cons] at ih ⊢
      cases r.status <;> simp <;> omega

/-- With steps that can be recorded, numbered from zero, there is a result. -/
theorem exists_buildResult (driver : StateDriver) {steps : List ExecutionStepResult}
    (error : Option String) (htask : ¬ IsBlank input.taskContract.1.taskId)
    (hrun : ¬ IsBlank input.runId) (hsteps : steps ≠ []) (hrecordable : ∀ r ∈ steps, Recordable r)
    (hindexes : steps.map (·.stepIndex) = List.range' 0 steps.length) :
    ∃ r, buildResult rt input driver steps error = .ok r := by
  obtain ⟨traces, htraces, htraceIndexes⟩ := exists_stepTraces rt hrecordable
  have hlength : traces.length = steps.length := by
    simpa using congrArg List.length htraceIndexes
  have hfirst : firstMisplaced 0 traces = none := by
    apply firstMisplaced_eq_none
    rw [htraceIndexes, hindexes, hlength]
  have hlatency := totalLatency_nonneg hrecordable
  have hmetrics : ∃ metrics, (resultMetrics driver steps error).mapM
      (fun metric => construct "MetricResult" metric.validate) = .ok metrics := by
    rw [exists_mapM_eq_ok]
    intro metric hmetric
    simp only [construct_eq_ok, MetricResult.validate, fields_eq_ok, check_eq_nil]
    refine ⟨metric, ?_, rfl⟩
    simp only [resultMetrics, List.mem_cons, List.not_mem_nil, or_false] at hmetric
    have hblocked : (0 : ℚ) ≤ countStatus .blocked steps := Nat.cast_nonneg _
    rcases hmetric with rfl | rfl | rfl | rfl | rfl <;> simp [hlatency, hblocked]
  obtain ⟨metrics, hmetrics⟩ := hmetrics
  have hmetricsNe : metrics ≠ [] := by
    rw [mapM_metrics_eq_ok hmetrics]
    simp [resultMetrics]
  simp only [buildResult, bind_eq_ok, pure_eq_ok, construct_eq_ok, TraceSummary.validate,
    RunTrace.validate, GraderDefinition.validate, BenchmarkRun.validate, fields_eq_ok,
    require_eq_ok, List.append_eq_nil_iff, nonBlank_eq_nil, check_eq_nil]
  refine ⟨_, traces, htraces, _, ⟨_, ⟨hlatency, rfl⟩, (), countStatus_le_length steps, rfl⟩,
    _, ⟨_, ⟨⟨⟨hrun, htask⟩, hlatency⟩, rfl⟩, (), ?_, (), hfirst, (), ?_, (), ?_, rfl⟩,
    _, ⟨⟨⟨by decide, by decide⟩, by decide⟩, rfl⟩, metrics, hmetrics,
    _, ⟨_, ⟨⟨⟨⟨⟨hrun, by decide⟩, htask⟩, by decide⟩, by decide⟩, rfl⟩, (), by simp, (),
      hmetricsNe, (), ?_, rfl⟩, rfl⟩
  · intro hnil
    apply hsteps
    rw [← List.length_eq_zero_iff, ← hlength, List.length_eq_zero_iff]
    exact hnil
  · intro _
    exact rt.now_ne_empty .runFinished
  · intro summary hsummary
    obtain rfl := Option.some.inj hsummary
    exact hlength.symm
  · intro _
    exact rt.now_ne_empty .runFinished

end Existence

section Steps

theorem recordable_promptStep : Recordable (promptStep rt) where
  finished := rt.now_ne_empty _
  timed := ⟨_, rfl, by decide +kernel⟩
  named := by simp [promptStep]

theorem named_reviewed :
    ∀ invocation ∈ some (reviewed rt x input), ¬ IsBlank invocation.toolName := by
  intro invocation h
  rw [← Option.mem_some_iff.mp h]
  exact (not_isBlank_reviewed rt x input).2

theorem recordable_reviewStep : Recordable (reviewStep rt x input) := by
  have hnamed := named_reviewed rt x input
  rcases hpolicy : input.safetyPolicy with _ | policy
  · simp only [reviewStep, hpolicy]
    exact ⟨rt.now_ne_empty _, ⟨_, rfl, by decide +kernel⟩, hnamed⟩
  · rw [reviewStep_of_policy rt x input hpolicy]
    cases action x input with
    | block => exact ⟨rt.now_ne_empty _, ⟨_, rfl, by decide +kernel⟩, hnamed⟩
    | requireApproval => exact ⟨rt.now_ne_empty _, ⟨_, rfl, by decide +kernel⟩, hnamed⟩
    | allow => exact ⟨rt.now_ne_empty _, ⟨_, rfl, by decide +kernel⟩, hnamed⟩

theorem reviewStep_stepIndex : (reviewStep rt x input).stepIndex = 1 := by
  rcases hpolicy : input.safetyPolicy with _ | policy
  · simp only [reviewStep, hpolicy]
    rfl
  · rw [reviewStep_of_policy rt x input hpolicy]
    cases action x input <;> rfl

theorem recordable_executionStep (result : ToolResult) :
    Recordable (executionStep rt (reviewed rt x input) result) where
  finished := rt.now_ne_empty _
  timed := ⟨_, rfl, by decide +kernel⟩
  named := named_reviewed rt x input

theorem recordable_verificationStep (traces : List VerificationTrace) :
    Recordable (verificationStep rt traces) where
  finished := rt.now_ne_empty _
  timed := ⟨_, rfl, by decide +kernel⟩
  named := by simp [verificationStep]

/-- The records of the result take whatever a returned session holds. -/
theorem exists_buildResult_of_returned {error : Option String} {s : Session}
    (hprepared : prepared rt x input (initialSession input) ≠ none)
    (h : Returned rt x input error s) :
    ∃ r, buildResult rt input s.driver s.stepResults error = .ok r := by
  have hprompt := recordable_promptStep rt
  have hreview := recordable_reviewStep rt x input
  cases h with
  | rejected msg t hmsg hrejected hprepare => exact absurd hrejected hprepared
  | blocked t hfilled hblock hprepared =>
      rw [stepResults_of_prepared rt x input hprepared]
      apply exists_buildResult rt input s.driver none hfilled.taskId hfilled.runId (by simp)
      · simp [hprompt, hreview]
      · simp [promptStep, reviewStep_stepIndex, List.range'_succ]
  | toolFailed t result hfilled hgo hprepared hresult hstatus =>
      rw [stepResults_of_executed rt x input hprepared]
      apply exists_buildResult rt input _ _ hfilled.taskId hfilled.runId (by simp)
      · simp [hprompt, hreview, recordable_executionStep]
      · simp [promptStep, reviewStep_stepIndex, executionStep, List.range'_succ]
  | verified t t' result traces hfilled hgo hprepared hresult hstatus htraces hfollow =>
      change ∃ r, buildResult rt input t'.driver (t'.stepResults ++ [_]) none = .ok r
      rw [stepResults_of_followed rt x input hprepared hfollow]
      apply exists_buildResult rt input _ _ hfilled.taskId hfilled.runId (by simp)
      · simp [hprompt, hreview, recordable_executionStep, recordable_verificationStep]
      · simp [promptStep, reviewStep_stepIndex, executionStep, verificationStep, List.range'_succ]

end Steps

end NovaHarness.ResultRecords
