import NovaHarness.Driver
import NovaHarness.TaskContractSchema
import NovaHarness.ToolInterfaceSchema
import NovaHarness.ApprovalSafetySchema
import NovaHarness.PromptSchemas
import NovaHarness.TraceSchemas

namespace NovaHarness.Pipeline

open NovaHarness.Text
open NovaHarness.RecordValidation
open NovaHarness.OrchestrationMachine
open NovaHarness.Driver
open NovaHarness.TaskContractSchema
open NovaHarness.ToolInterfaceSchema
open NovaHarness.ApprovalSafetySchema
open NovaHarness.PromptSchemas
open NovaHarness.TraceSchemas

section Runtime

/-- The places where a run reads the clock. -/
inductive ClockReading where
  | runStarted
  | transition (event : RunEvent)
  | stepStarted (index : Nat)
  | stepFinished (index : Nat)
  | toolStarted
  | toolFinished
  | runFinished
  deriving DecidableEq

inductive UuidDraw where
  | assembly (step : Nat)
  | invocation
  | decision
  deriving DecidableEq

/-- What a run takes from outside the repository: the clock, the first eight
hexadecimal digits of fresh identifiers, Unicode data, and the text pydantic
gives a rejected record. -/
structure Runtime where
  now : ClockReading → String
  now_ne_empty : ∀ reading, now reading ≠ ""
  uuidHex : UuidDraw → String
  tables : UnicodeTables
  validationText : String → Complaints → String

def asciiRuntime : Runtime where
  now _ := "2024-01-01T00:00:00+00:00"
  now_ne_empty _ := by decide
  uuidHex _ := "0123abcd"
  tables := asciiTables
  validationText model _ := "validation error for " ++ model

inductive PyException where
  | valueError (msg : String)
  | validationError (model : String) (complaints : Complaints)
  | backend (e : BackendError)
  deriving DecidableEq

/-- `str(e)`. -/
def PyException.str (rt : Runtime) : PyException → String
  | .valueError msg => msg
  | .validationError model complaints => rt.validationText model complaints
  | .backend e => e.text

/-- Whether `except Exception` catches it. -/
def PyException.isException : PyException → Bool
  | .valueError _ => true
  | .validationError _ _ => true
  | .backend e => e.isException

def construct {α : Type} (model : String) (v : Validated α) : Except PyException α :=
  v.mapError (.validationError model)

@[simp] theorem construct_eq_ok {α : Type} (model : String) (v : Validated α) (a : α) :
    construct model v = .ok a ↔ v = .ok a := by
  rcases v with e | b
  · simp [construct, Except.mapError]
  · simp [construct, Except.mapError]

end Runtime

section Inputs

structure ModelMessage where
  role : String
  content : String
  deriving DecidableEq

structure ModelResponse where
  content : String := ""
  finishReason : String := "stop"
  modelUsed : String := ""
  deriving DecidableEq

structure ModelProvider where
  generate : List ModelMessage → Except BackendError ModelResponse

abbrev ToolExecutor := ToolInvocation → Except BackendError (Accepted ToolResult)

structure PipelineInput where
  taskContract : Accepted TaskContract
  runId : String
  modelName : String := "mock"
  safetyPolicy : Option (Accepted ApprovalSafetyPolicy) := none
  stateDriver : Option StateDriver := none

/-- An input with a small contract, under a given policy. -/
def minimalInput (policy : Option (Accepted ApprovalSafetyPolicy)) : PipelineInput where
  taskContract := minimalContract
  runId := "run-1"
  safetyPolicy := policy

structure ExecutorConfig where
  maxSteps : Int := 10
  maxToolCalls : Int := 20
  maxRetries : Int := 3

structure PipelineExecutor where
  config : ExecutorConfig := {}
  toolExecutor : Option ToolExecutor := none
  modelProvider : Option ModelProvider := none

/-- `input.state_driver or StateDriver()`. -/
def PipelineInput.driver (input : PipelineInput) : StateDriver :=
  input.stateDriver.getD {}

def PipelineExecutor.toolName (x : PipelineExecutor) : String :=
  if x.modelProvider.isSome then "model_generate" else "mock_tool"

end Inputs

structure ExecutionStepResult where
  stepIndex : Nat
  stepType : StepType
  status : TraceEventStatus
  startedAt : String
  finishedAt : Option String := none
  latencySeconds : Option ℚ := none
  toolInvocation : Option ToolInvocation := none
  toolResult : Option ToolResult := none
  safetyDecision : Option SafetyDecision := none
  policyTrace : Option PolicyTrace := none
  verificationTrace : Option VerificationTrace := none
  retryTrace : Option RetryTrace := none
  error : Option String := none
  deriving DecidableEq

structure PipelineResult where
  runId : String
  taskId : String
  success : Bool
  terminalState : String
  steps : List ExecutionStepResult
  runTrace : RunTrace
  benchmarkRun : BenchmarkRun
  error : Option String := none
  deriving DecidableEq

variable (rt : Runtime)

def mockOutput : Dict :=
  [("content", .str ("def add(a, b):\n    return a + b\n\n\ndef test_add():\n" ++
      "    assert add(1, 2) == 3\n    assert add(-1, 1) == 0\n")),
   ("mock", .object "True")]

/-- `_default_tool_executor`, on the invocation a run builds, whose id and tool
name are never blank. -/
def defaultToolExecutor (invocation : ToolInvocation) : Validated ToolResult :=
  ToolResult.validate
    { invocationId := invocation.invocationId
      toolName := invocation.toolName
      status := .success
      output := some mockOutput
      startedAt := some (rt.now .toolStarted)
      finishedAt := some (rt.now .toolFinished) }

section SafetyDecision

/-- The parts of a decision: the first rule for the tool decides. -/
def decisionParts (toolName : String) (policy : ApprovalSafetyPolicy) (runId : String) :
    SafetyDecision :=
  match policy.rules.find? (·.actionName = toolName) with
  | some rule =>
      { decisionId := "dec-" ++ rt.uuidHex .decision
        runId := runId
        actionName := toolName
        riskLevel := rule.riskLevel
        safetyAction := rule.safetyAction
        decisionReason := "matched rule: " ++ rule.rationale }
  | none =>
      { decisionId := "dec-" ++ rt.uuidHex .decision
        runId := runId
        actionName := toolName
        riskLevel := .low
        safetyAction := .allow
        decisionReason := "no matching rule, default allow" }

/-- `_make_safety_decision`. -/
def makeSafetyDecision (invocation : ToolInvocation) (policy : ApprovalSafetyPolicy)
    (runId : String) : Except PyException SafetyDecision :=
  construct "SafetyDecision" (decisionParts rt invocation.toolName policy runId).validate

end SafetyDecision

section Verification

/-- `criterion.target or kind.value`. -/
def SuccessCriterion.checkName (criterion : SuccessCriterion) : String :=
  if criterion.target = "" then criterion.kind.value else criterion.target

def testPatterns : List String :=
  ["test", "assert", "def test_", "pytest", "unittest", "TestCase", "pytest.mark"]

def typePatterns : List String :=
  [": int", ": str", ": float", ": bool", ": list", ": dict", ": tuple", ": set",
   "-> ", "Optional[", "List[", "Dict[", "Union[", "Any", "Sequence["]

/-- What `_check_criterion` puts into the trace of a criterion. -/
def criterionVerdict (kind : VerificationKind) (content : String) : TraceEventStatus × String :=
  let stripped := strip content
  if stripped = "" ∨ stripped ∈ ["\x7b\x7d", "\x7b'mock': True\x7d"] then
    (.failure, "no output produced")
  else if kind = .test then
    let found := testPatterns.filter fun p => contains (rt.tables.lower stripped) p
    if found ≠ [] then (.success, "test patterns found: " ++ joinComma found)
    else (.failure, "no test patterns in output")
  else if kind = .lint then
    if 20 ≤ stripped.length then (.success, "output has sufficient content")
    else (.failure, "output too short")
  else if kind = .typecheck then
    let found := typePatterns.filter fun p => contains stripped p
    if found ≠ [] then (.success, "type annotations: " ++ joinComma found)
    else (.failure, "no type annotations")
  else if kind = .diffReview then (.success, "output produced")
  else (.success, "unknown check, default pass")

/-- `_check_criterion`. -/
def checkCriterion (criterion : SuccessCriterion) (content : String) :
    Except PyException VerificationTrace :=
  let verdict := criterionVerdict rt criterion.kind content
  construct "VerificationTrace" <| VerificationTrace.validate
    { checkName := SuccessCriterion.checkName criterion
      status := verdict.1
      summary := some verdict.2 }

end Verification

section Prompt

/-- `_build_context_bundle`. -/
def buildContextBundle (contract : TaskContract) : Except PyException ContextDeliveryBundle := do
  let snapshot ← construct "RepoSnapshot" <| RepoSnapshot.validate
    { repoRoot := contract.scope.repoPath
      topLevelPaths := contract.scope.allowedPaths
      primaryLanguage := some "python" }
  let files ← contract.scope.allowedPaths.mapM fun p =>
    construct "DeliveryItem" <| DeliveryItem.validate
      { itemId := "file:" ++ p
        contentType := .fileSnippet
        title := p
        reason := "referenced in task"
        content := "# placeholder" }
  construct "ContextDeliveryBundle" <| ContextDeliveryBundle.validate
    { taskId := contract.taskId
      taskBrief := contract.goal
      repoSnapshot := snapshot
      selectedFiles := files }

/-- `_build_prompt_assembly`, called for the step of index `step`. -/
def buildPromptAssembly (step : Nat) (contract : TaskContract) (runId : String) :
    Except PyException PromptAssembly := do
  let system ← construct "InstructionLayer" <| InstructionLayer.validate
    { layerId := "sys-default"
      layerType := .system
      title := "System"
      content := "You are a coding assistant." }
  let task ← construct "InstructionLayer" <| InstructionLayer.validate
    { layerId := "task-goal"
      layerType := .task
      title := "Task goal"
      content := contract.goal }
  let request ← construct "ContextBlock" <| ContextBlock.validate
    { blockId := "ctx-input"
      blockType := .summary
      title := "Request"
      content := contract.inputs.userRequest }
  let verification ← construct "VerificationBlock" <| VerificationBlock.validate
    { summary := some ("verify " ++ toString contract.successCriteria.length ++ " criteria")
      requiredChecks := contract.successCriteria.map SuccessCriterion.checkName }
  let systemMessage ← construct "MessageBlock" <| MessageBlock.validate
    { role := .system
      content := "You are a coding assistant." }
  let userMessage ← construct "MessageBlock" <| MessageBlock.validate
    { role := .user
      content := contract.goal }
  construct "PromptAssembly" <| PromptAssembly.validate
    { assemblyId := "asm-" ++ rt.uuidHex (.assembly step)
      runId := runId
      instructionLayers := [system, task]
      contextBlocks := [request]
      verification := some verification
      messages := [systemMessage, userMessage] }

end Prompt

section Result

def traceStatus : ToolStatus → TraceEventStatus
  | .success => .success
  | _ => .failure

def toolTrace (r : ExecutionStepResult) : Except PyException (Option ToolTrace) :=
  match r.toolInvocation, r.toolResult with
  | some invocation, some result => do
      let trace ← construct "ToolTrace" <| ToolTrace.validate
        { toolName := invocation.toolName
          argumentSummary := listStr rt.tables (invocation.arguments.map (·.1))
          status := traceStatus result.status
          latencySeconds := r.latencySeconds.getD 0
          error := if result.error = some "" then none else result.error }
      return some trace
  | _, _ => return none

def stepTrace (r : ExecutionStepResult) : Except PyException StepTrace := do
  let tool ← toolTrace rt r
  construct "StepTrace" <| StepTrace.validate
    { stepId := "step-" ++ toString r.stepIndex
      stepIndex := r.stepIndex
      stepType := r.stepType
      status := r.status
      startedAt := r.startedAt
      finishedAt := r.finishedAt
      latencySeconds := r.latencySeconds
      tool := tool
      policy := r.policyTrace
      verification := r.verificationTrace
      retry := r.retryTrace }

def totalLatency (steps : List ExecutionStepResult) : ℚ :=
  (steps.map fun r => r.latencySeconds.getD 0).sum

def countStatus (status : TraceEventStatus) (steps : List ExecutionStepResult) : Nat :=
  steps.countP (·.status = status)

def traceSummary (steps : List ExecutionStepResult) : TraceSummary where
  totalSteps := steps.length
  successfulSteps := countStatus .success steps
  failedSteps := countStatus .failure steps
  blockedSteps := countStatus .blocked steps
  totalToolCalls := steps.countP (·.toolInvocation ≠ none)
  totalPolicyChecks := steps.countP (·.policyTrace ≠ none)
  policyBlocks := steps.countP fun r => r.policyTrace.map (·.outcome) = some .blocked
  totalRetries := steps.countP (·.retryTrace ≠ none)
  totalVerificationChecks := steps.countP (·.verificationTrace ≠ none)
  verificationFailures := steps.countP fun r => r.verificationTrace.map (·.status) = some .failure
  totalLatencySeconds := totalLatency steps

def isError (error : Option String) : Bool :=
  error.getD "" ≠ ""

def resultSuccess (driver : StateDriver) (error : Option String) : Bool :=
  driver.currentStateId = .succeeded ∧ isError error = false

def terminalStatus (driver : StateDriver) (steps : List ExecutionStepResult)
    (error : Option String) : TraceEventStatus :=
  if 0 < countStatus .blocked steps then .blocked
  else if driver.currentStateId = .failed ∨ isError error = true then .failure
  else .success

def resultMetrics (driver : StateDriver) (steps : List ExecutionStepResult)
    (error : Option String) : List MetricResult :=
  let success := resultSuccess driver error
  let failed := countStatus .failure steps
  [{ metricName := .taskSuccess
     value := if success then 1 else 0
     unit := some "bool"
     passed := some success },
   { metricName := .verificationPass
     value := if failed = 0 then 1 else 0
     unit := some "bool"
     passed := some (failed = 0) },
   { metricName := .latencySeconds
     value := totalLatency steps
     unit := some "s"
     threshold := some 30
     passed := some (totalLatency steps ≤ 30) },
   { metricName := .retryCount
     value := 0
     unit := some "count" },
   { metricName := .safetyViolations
     value := (countStatus .blocked steps : ℚ)
     unit := some "count" }]

/-- `_build_result`. -/
def buildResult (input : PipelineInput) (driver : StateDriver)
    (steps : List ExecutionStepResult) (error : Option String) :
    Except PyException PipelineResult := do
  let taskId := input.taskContract.1.taskId
  let success := resultSuccess driver error
  let traces ← steps.mapM (stepTrace rt)
  let summary ← construct "TraceSummary" (traceSummary steps).validate
  let runTrace ← construct "RunTrace" <| RunTrace.validate
    { runId := input.runId
      taskId := taskId
      steps := traces
      terminalStatus := terminalStatus driver steps error
      totalLatencySeconds := totalLatency steps
      startedAt := rt.now .runStarted
      finishedAt := some (rt.now .runFinished)
      summary := some summary }
  let grader ← construct "GraderDefinition" <| GraderDefinition.validate
    { graderId := "grd-auto"
      name := "Auto result"
      graderType := .deterministic
      passCondition := "success == True" }
  let metrics ← (resultMetrics driver steps error).mapM fun metric =>
    construct "MetricResult" metric.validate
  let benchmarkRun ← construct "BenchmarkRun" <| BenchmarkRun.validate
    { runId := input.runId
      suiteId := "pipeline-executor"
      taskId := taskId
      harnessVersion := "0.1.0"
      modelName := "mock"
      graders := [grader]
      metrics := metrics
      verdict := if success then .pass else .fail
      startedAt := some (rt.now .runStarted)
      finishedAt := some (rt.now .runFinished) }
  return {
    runId := input.runId
    taskId := taskId
    success := success
    terminalState := driver.currentStateId.value
    steps := steps
    runTrace := runTrace
    benchmarkRun := benchmarkRun
    error := error }

end Result

end NovaHarness.Pipeline
