import Mathlib.Algebra.Order.Ring.Rat
import NovaHarness.RecordValidation

/-!
The records of a run's trace and of its benchmark entry.  Seconds and metric
values are exact; counts and step indexes are natural numbers, so the checks for
negative ones have nothing to do.  Nested records arrive constructed.
-/

namespace NovaHarness.TraceSchemas

open NovaHarness.Text
open NovaHarness.RecordValidation

section ObservabilityTrace

inductive StepType where
  | promptAssembly
  | contextSelection
  | toolExecution
  | verification
  | policyCheck
  | retry
  | approval
  deriving DecidableEq

inductive TraceEventStatus where
  | success
  | failure
  | skipped
  | blocked
  deriving DecidableEq

inductive PolicyOutcomeType where
  | allowed
  | requiredApproval
  | blocked
  | escalated
  deriving DecidableEq

structure ToolTrace where
  toolName : String
  argumentSummary : String
  status : TraceEventStatus
  latencySeconds : ℚ
  error : Option String := none
  deriving DecidableEq

def ToolTrace.validate (raw : ToolTrace) : Validated ToolTrace :=
  fields
    (nonBlank "tool_name" "must not be empty" raw.toolName ++
      nonBlank "argument_summary" "must not be empty" raw.argumentSummary ++
      check "latency_seconds" "latency_seconds must be non-negative" (0 ≤ raw.latencySeconds))
    { raw with
      toolName := strip raw.toolName
      argumentSummary := strip raw.argumentSummary }

structure PolicyTrace where
  policyName : String
  outcome : PolicyOutcomeType
  riskLevel : Option String := none
  reason : String
  deriving DecidableEq

def PolicyTrace.validate (raw : PolicyTrace) : Validated PolicyTrace :=
  fields
    (nonBlank "policy_name" "must not be empty" raw.policyName ++
      nonBlank "reason" "must not be empty" raw.reason)
    { raw with
      policyName := strip raw.policyName
      reason := strip raw.reason }

structure VerificationTrace where
  checkName : String
  status : TraceEventStatus
  summary : Option String := none
  deriving DecidableEq

def VerificationTrace.validate (raw : VerificationTrace) : Validated VerificationTrace :=
  fields (nonBlank "check_name" "check_name must not be empty" raw.checkName)
    { raw with checkName := strip raw.checkName }

structure RetryTrace where
  attempt : Nat
  maxAttempts : Nat
  reason : String
  deriving DecidableEq

structure StepTrace where
  stepId : String
  stepIndex : Nat
  stepType : StepType
  status : TraceEventStatus
  startedAt : String
  finishedAt : Option String := none
  latencySeconds : Option ℚ := none
  tool : Option ToolTrace := none
  policy : Option PolicyTrace := none
  verification : Option VerificationTrace := none
  retry : Option RetryTrace := none
  deriving DecidableEq

def StepTrace.validate (raw : StepTrace) : Validated StepTrace := do
  let step ← fields
    (nonBlank "step_id" "step_id must not be empty" raw.stepId ++
      check "latency_seconds" "latency_seconds must be non-negative"
        (∀ seconds ∈ raw.latencySeconds, 0 ≤ seconds))
    { raw with stepId := strip raw.stepId }
  require (step.status ≠ .skipped → step.finishedAt.getD "" ≠ "")
    "finished_at is required for terminal statuses"
  require (step.status ≠ .skipped → step.latencySeconds ≠ none)
    "latency_seconds is required for terminal statuses"
  return step

structure TraceSummary where
  totalSteps : Nat
  successfulSteps : Nat
  failedSteps : Nat
  blockedSteps : Nat
  totalToolCalls : Nat
  totalPolicyChecks : Nat
  policyBlocks : Nat
  totalRetries : Nat
  totalVerificationChecks : Nat
  verificationFailures : Nat
  totalLatencySeconds : ℚ
  deriving DecidableEq

def TraceSummary.validate (raw : TraceSummary) : Validated TraceSummary := do
  let summary ← fields
    (check "total_latency_seconds" "total_latency_seconds must be non-negative"
      (0 ≤ raw.totalLatencySeconds))
    raw
  require (summary.successfulSteps + summary.failedSteps + summary.blockedSteps ≤
      summary.totalSteps)
    "sum of successful, failed, and blocked steps must not exceed total_steps"
  return summary

structure RunTrace where
  runId : String
  taskId : String
  steps : List StepTrace
  terminalStatus : TraceEventStatus
  totalLatencySeconds : ℚ
  startedAt : String
  finishedAt : Option String := none
  summary : Option TraceSummary := none
  deriving DecidableEq

/-- The loop of `steps_have_monotonic_indexes`: the first index expected and not
found, with what was found. -/
def firstMisplaced (expected : Nat) : List StepTrace → Option (Nat × Nat)
  | [] => none
  | step :: rest =>
      if step.stepIndex = expected then firstMisplaced (expected + 1) rest
      else some (expected, step.stepIndex)

def misplacedMsg : Option (Nat × Nat) → String
  | none => ""
  | some (i, found) =>
      "step_index must be sequential starting at 0; expected " ++ toString i ++ ", got " ++
        toString found

def RunTrace.validate (raw : RunTrace) : Validated RunTrace := do
  let trace ← fields
    (nonBlank "run_id" "must not be empty" raw.runId ++
      nonBlank "task_id" "must not be empty" raw.taskId ++
      check "total_latency_seconds" "total_latency_seconds must be non-negative"
        (0 ≤ raw.totalLatencySeconds))
    { raw with
      runId := strip raw.runId
      taskId := strip raw.taskId }
  require (trace.steps ≠ []) "run trace must contain at least one step"
  require (firstMisplaced 0 trace.steps = none) (misplacedMsg (firstMisplaced 0 trace.steps))
  require (trace.terminalStatus ≠ .skipped → trace.finishedAt.getD "" ≠ "")
    "finished_at is required for terminal run statuses"
  require (∀ summary ∈ trace.summary, summary.totalSteps = trace.steps.length)
    "summary total_steps must match the number of steps in the trace"
  return trace

end ObservabilityTrace

section Benchmark

inductive GraderType where
  | deterministic
  | llmJudge
  | human
  deriving DecidableEq

inductive MetricName where
  | taskSuccess
  | toolSuccess
  | latencySeconds
  | costUsd
  | retryCount
  | safetyViolations
  | verificationPass
  deriving DecidableEq

def MetricName.value : MetricName → String
  | .taskSuccess => "task_success"
  | .toolSuccess => "tool_success"
  | .latencySeconds => "latency_seconds"
  | .costUsd => "cost_usd"
  | .retryCount => "retry_count"
  | .safetyViolations => "safety_violations"
  | .verificationPass => "verification_pass"

inductive VerdictStatus where
  | pass
  | fail
  | partialVerdict
  deriving DecidableEq

structure GraderDefinition where
  graderId : String
  name : String
  graderType : GraderType
  passCondition : String
  deriving DecidableEq

def GraderDefinition.validate (raw : GraderDefinition) : Validated GraderDefinition :=
  fields
    (nonBlank "grader_id" "must not be empty" raw.graderId ++
      nonBlank "name" "must not be empty" raw.name ++
      nonBlank "pass_condition" "must not be empty" raw.passCondition)
    { raw with
      graderId := strip raw.graderId
      name := strip raw.name
      passCondition := strip raw.passCondition }

structure MetricResult where
  metricName : MetricName
  value : ℚ
  unit : Option String := none
  threshold : Option ℚ := none
  passed : Option Bool := none
  deriving DecidableEq

def MetricResult.validate (raw : MetricResult) : Validated MetricResult :=
  fields
    (check "value" (raw.metricName.value ++ " must be non-negative")
      (raw.metricName ∈ [.latencySeconds, .costUsd, .retryCount, .safetyViolations] →
        0 ≤ raw.value))
    raw

structure BenchmarkRun where
  runId : String
  suiteId : String
  taskId : String
  harnessVersion : String
  modelName : String
  graders : List GraderDefinition := []
  metrics : List MetricResult := []
  verdict : VerdictStatus
  startedAt : Option String := none
  finishedAt : Option String := none
  deriving DecidableEq

def BenchmarkRun.validate (raw : BenchmarkRun) : Validated BenchmarkRun := do
  let run ← fields
    (nonBlank "run_id" "must not be empty" raw.runId ++
      nonBlank "suite_id" "must not be empty" raw.suiteId ++
      nonBlank "task_id" "must not be empty" raw.taskId ++
      nonBlank "harness_version" "must not be empty" raw.harnessVersion ++
      nonBlank "model_name" "must not be empty" raw.modelName)
    { raw with
      runId := strip raw.runId
      suiteId := strip raw.suiteId
      taskId := strip raw.taskId
      harnessVersion := strip raw.harnessVersion
      modelName := strip raw.modelName }
  require (run.graders ≠ []) "benchmark run must have at least one grader"
  require (run.metrics ≠ []) "benchmark run must have at least one metric"
  require (run.verdict ≠ .partialVerdict → run.finishedAt.getD "" ≠ "")
    "finished_at is required when verdict is PASS or FAIL"
  return run

end Benchmark

end NovaHarness.TraceSchemas
