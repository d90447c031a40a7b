import NovaHarness.EarlyExit
import NovaHarness.Pipeline

/-!
`PipelineExecutor.run`, phase by phase under the headings of the source.  The
session also keeps a log of what the run does to the world outside its own
records: the moves of the driver and the calls of a back end, each with what the
run knew at that moment.
-/

namespace NovaHarness.PipelineRun

open NovaHarness.Text
open NovaHarness.RecordValidation
open NovaHarness.EarlyExit
open NovaHarness.OrchestrationMachine
open NovaHarness.Driver
open NovaHarness.TaskContractSchema
open NovaHarness.ToolInterfaceSchema
open NovaHarness.ApprovalSafetySchema
open NovaHarness.PromptSchemas
open NovaHarness.TraceSchemas
open NovaHarness.Pipeline

inductive Effect where
  | moved (event : RunEvent) (toState : RunState)
  | called
  deriving DecidableEq

structure Moment where
  effect : Effect
  driverState : RunState
  approvalState : Option ApprovalState
  recorded : List ExecutionStepResult
  deriving DecidableEq

structure Session where
  driver : StateDriver
  stepResults : List ExecutionStepResult := []
  invocation : Option ToolInvocation := none
  log : List Moment := []
  deriving DecidableEq

namespace Session

def moment (s : Session) (effect : Effect) : Moment where
  effect := effect
  driverState := s.driver.currentStateId
  approvalState := s.invocation.map (·.approvalState)
  recorded := s.stepResults

def moved (rt : Runtime) (s : Session) (event : RunEvent) (resolved : GuardResults)
    (toState : RunState) : Session :=
  { s with
    driver := s.driver.taken event toState resolved (rt.now (.transition event))
    log := s.log ++ [s.moment (.moved event toState)] }

def recording (s : Session) (step : ExecutionStepResult) : Session :=
  { s with stepResults := s.stepResults ++ [step] }

def holding (s : Session) (invocation : ToolInvocation) : Session :=
  { s with invocation := some invocation }

def calling (s : Session) : Session :=
  { s with log := s.log ++ [s.moment .called] }

end Session

/-- How a run leaves: by returning what `_build_result` makes of the session, or
by an exception. -/
inductive Exit where
  | returns (error : Option String)
  | raises (e : PyException)
  deriving DecidableEq

abbrev RunM := EStateM Exit Session

variable (rt : Runtime) (x : PipelineExecutor) (input : PipelineInput)

section Statements

/-- `driver.trigger(event, guard_results)`. -/
def trigger (event : RunEvent) (guardResults : Option GuardResults := none) : RunM Unit :=
  fun s =>
    match s.driver.trigger event guardResults (rt.now (.transition event)) with
    | (.ok toState, _) => .ok () (s.moved rt event (guardResults.getD []) toState)
    | (.error msg, d) => .error (.raises (.valueError msg)) { s with driver := d }

def attempt {α : Type} : Except PyException α → RunM α :=
  ofExcept Exit.raises

def record (step : ExecutionStepResult) : RunM Unit :=
  update (·.recording step)

/-- `except ValueError as e: return self._build_result(.., error=str(e))`. -/
def orReturn : RunM Unit → RunM Unit :=
  rescue fun
    | .raises (.valueError msg) => some (exit (.returns (some msg)))
    | _ => none

/-- `except ValueError: pass`. -/
def orPass : RunM Unit → RunM Unit :=
  rescue fun
    | .raises (.valueError _) => some (pure ())
    | _ => none

end Statements

def startRun : RunM Unit :=
  orReturn (trigger rt .startRun)

section PromptAssembly

def promptStep : ExecutionStepResult where
  stepIndex := 0
  stepType := .promptAssembly
  status := .success
  startedAt := rt.now (.stepStarted 0)
  finishedAt := some (rt.now (.stepFinished 0))
  latencySeconds := some 0.1

/-- Step 0: context and prompt assembly. -/
def assemblePrompt : RunM Unit := do
  let _ ← attempt (buildContextBundle input.taskContract.1)
  let _ ← attempt (buildPromptAssembly rt 0 input.taskContract.1 input.runId)
  record (promptStep rt)

/-- Advance to `toolPending`. -/
def advance : RunM Unit :=
  orReturn do
    trigger rt .promptReady
    trigger rt .modelResponseReceived
    trigger rt .toolCallRequested

end PromptAssembly

section ApprovalSafety

def invocationParts : ToolInvocation where
  invocationId := "inv-" ++ rt.uuidHex .invocation
  toolName := x.toolName
  arguments := [("task", .str input.taskContract.1.goal)]
  requestedByTaskId := input.taskContract.1.taskId
  requestedByAgent := input.modelName
  approvalState := .notRequired

def policyTrace (outcome : PolicyOutcomeType) (decision : SafetyDecision) :
    Except PyException PolicyTrace :=
  construct "PolicyTrace" <| PolicyTrace.validate
    { policyName := "approval_safety"
      outcome := outcome
      riskLevel := some decision.riskLevel.value
      reason := decision.decisionReason }

def decisionStep (stepType : StepType) (status : TraceEventStatus) (invocation : ToolInvocation)
    (decision : SafetyDecision) (pt : PolicyTrace) : ExecutionStepResult where
  stepIndex := 1
  stepType := stepType
  status := status
  startedAt := rt.now (.stepStarted 1)
  finishedAt := some (rt.now (.stepFinished 1))
  latencySeconds := some 0.05
  toolInvocation := some invocation
  safetyDecision := some decision
  policyTrace := some pt

def approvalGrantedIfRequired : GuardResults :=
  [("approval_granted_if_required", true)]

def followDecision (invocation : ToolInvocation) (decision : SafetyDecision) :
    RunM ToolInvocation :=
  match decision.safetyAction with
  | .block => do
      trigger rt .approvalRequired
      trigger rt .approvalRejected
      let pt ← attempt (policyTrace .blocked decision)
      record (decisionStep rt .policyCheck .blocked invocation decision pt)
      exit (.returns none)
  | .requireApproval => do
      trigger rt .approvalRequired
      -- The source changes the invocation in place, so what is recorded and what
      -- is executed later are this same one.
      let invocation := { invocation with approvalState := .pending }
      update (·.holding invocation)
      let pt ← attempt (policyTrace .requiredApproval decision)
      record (decisionStep rt .approval .success invocation decision pt)
      trigger rt .approvalGranted (some approvalGrantedIfRequired)
      return invocation
  | .allow => do
      trigger rt .toolApprovedOrNotRequired
      let pt ← attempt (policyTrace .allowed decision)
      record (decisionStep rt .policyCheck .success invocation decision pt)
      return invocation

def noPolicyStep (invocation : ToolInvocation) (pt : PolicyTrace) : ExecutionStepResult where
  stepIndex := 1
  stepType := .policyCheck
  status := .skipped
  startedAt := rt.now (.stepStarted 1)
  finishedAt := some (rt.now (.stepFinished 1))
  latencySeconds := some 0.01
  toolInvocation := some invocation
  policyTrace := some pt

def followNoPolicy (invocation : ToolInvocation) : RunM ToolInvocation := do
  trigger rt .toolApprovedOrNotRequired
  let pt ← attempt <| construct "PolicyTrace" <| PolicyTrace.validate
    { policyName := "approval_safety"
      outcome := .allowed
      reason := "no policy, default allow" }
  record (noPolicyStep rt invocation pt)
  return invocation

/-- Step 1: approval and safety. -/
def approvalSafety : RunM ToolInvocation := do
  let invocation ← attempt <|
    construct "ToolInvocation" (invocationParts rt x input).validate
  update (·.holding invocation)
  match input.safetyPolicy with
  | some policy => do
      let decision ← attempt (makeSafetyDecision rt invocation policy.1 input.runId)
      followDecision rt invocation decision
  | none => followNoPolicy rt invocation

end ApprovalSafety

section Execution

/-- The body of the `try` around `generate`, after the messages are built. -/
def generateResult (provider : ModelProvider) (messages : List ModelMessage)
    (invocation : ToolInvocation) : Except PyException ToolResult := do
  let resp ← (provider.generate messages).mapError .backend
  construct "ToolResult" <| ToolResult.validate
    { invocationId := invocation.invocationId
      toolName := invocation.toolName
      status := .success
      output := some [("content", .str resp.content), ("model", .str resp.modelUsed),
        ("finish_reason", .str resp.finishReason)]
      startedAt := some (rt.now (.stepStarted 2))
      finishedAt := some (rt.now .toolFinished) }

def failedResult (invocation : ToolInvocation) (e : PyException) : Except PyException ToolResult :=
  if e.isException then
    construct "ToolResult" <| ToolResult.validate
      { invocationId := invocation.invocationId
        toolName := invocation.toolName
        status := .error
        output := some []
        error := some (e.str rt)
        startedAt := some (rt.now (.stepStarted 2))
        finishedAt := some (rt.now .toolFinished) }
  else .error e

def providerResult (provider : ModelProvider) (messages : List ModelMessage)
    (invocation : ToolInvocation) : Except PyException ToolResult :=
  match generateResult rt provider messages invocation with
  | .ok result => .ok result
  | .error e => failedResult rt invocation e

def executorResult (invocation : ToolInvocation) : Except PyException ToolResult :=
  match x.toolExecutor with
  | some execute => ((execute invocation).mapError .backend).map (·.1)
  | none => construct "ToolResult" (defaultToolExecutor rt invocation)

def executeTool (invocation : ToolInvocation) : RunM ToolResult :=
  match x.modelProvider with
  | some provider => do
      let assembly ← attempt (buildPromptAssembly rt 2 input.taskContract.1 input.runId)
      let messages := assembly.messages.map fun m => ⟨m.role.value, m.content⟩
      update Session.calling
      attempt (providerResult rt provider messages invocation)
  | none => do
      update Session.calling
      attempt (executorResult rt x invocation)

def executionStep (invocation : ToolInvocation) (result : ToolResult) : ExecutionStepResult where
  stepIndex := 2
  stepType := .toolExecution
  status := if result.status = .success then .success else .failure
  startedAt := rt.now (.stepStarted 2)
  finishedAt := some (rt.now (.stepFinished 2))
  latencySeconds := some 0.2
  toolInvocation := some invocation
  toolResult := some result
  error := if result.status = .success then none else result.error

/-- `tool_result.error or "execution failed"`. -/
def failureText (result : ToolResult) : String :=
  if result.error.getD "" = "" then "execution failed" else result.error.getD ""

/-- Step 2: tool or model execution. -/
def toolModelExecution (invocation : ToolInvocation) : RunM ToolResult := do
  let result ← executeTool rt x input invocation
  record (executionStep rt invocation result)
  if result.status = .success then
    orPass (trigger rt .toolCompleted)
    return result
  else
    orPass (trigger rt .toolFailedRetryable)
    exit (.returns (some (failureText result)))

end Execution

section Verification

/-- `str(tool_result.output)`, or nothing.  No `try` of the run stands around it. -/
def outputContent (result : ToolResult) : Except PyException String :=
  match result.output with
  | some output => (dictStr rt.tables output).mapError .backend
  | none => .ok ""

def allPass (traces : List VerificationTrace) : Bool :=
  traces.all (·.status = .success)

def recordVerification (status : TraceEventStatus) (outcome : String) (count : Nat) :
    RunM Unit := do
  let trace ← attempt <| construct "VerificationTrace" <| VerificationTrace.validate
    { checkName := "all_checks"
      status := status
      summary := some (outcome ++ " " ++ toString count ++ " check(s)") }
  record
    { stepIndex := 3
      stepType := .verification
      status := status
      startedAt := rt.now (.stepStarted 3)
      finishedAt := some (rt.now (.stepFinished 3))
      latencySeconds := some 0.15
      verificationTrace := some trace }

/-- Step 3: verification. -/
def verification (result : ToolResult) : RunM Unit := do
  let content ← attempt (outputContent rt result)
  let traces ← attempt <| input.taskContract.1.successCriteria.mapM fun criterion =>
    checkCriterion rt criterion content
  if allPass traces then
    trigger rt .verificationPassed
    recordVerification rt .success "passed" traces.length
  else
    trigger rt .verificationFailedTerminal
    recordVerification rt .failure "failed" traces.length

end Verification

def prepare : RunM ToolInvocation := do
  startRun rt
  assemblePrompt rt input
  advance rt
  approvalSafety rt x input

def body : RunM Unit := do
  let invocation ← prepare rt x input
  let result ← toolModelExecution rt x input invocation
  verification rt input result

structure RunReport where
  outcome : Except PyException PipelineResult
  session : Session

def initialSession : Session :=
  { driver := input.driver }

/-- `PipelineExecutor.run`. -/
def run : RunReport :=
  let returning (error : Option String) (s : Session) : RunReport :=
    { outcome := buildResult rt input s.driver s.stepResults error, session := s }
  match (body rt x input).run (initialSession input) with
  | .ok _ s => returning none s
  | .error (.returns error) s => returning error s
  | .error (.raises e) s => { outcome := .error e, session := s }

end NovaHarness.PipelineRun
