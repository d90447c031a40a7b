import NovaHarness.PipelineOutcome

namespace NovaHarness.RunReadings

open NovaHarness.Text
open NovaHarness.RecordValidation
open NovaHarness.EarlyExit
open NovaHarness.OrchestrationMachine
open NovaHarness.Driver
open NovaHarness.TaskContractSchema
open NovaHarness.ToolInterfaceSchema
open NovaHarness.ApprovalSafetySchema
open NovaHarness.PromptSchemas
open NovaHarness.TraceSchemas
open NovaHarness.Pipeline
open NovaHarness.PipelineRun
open NovaHarness.PipelinePhases
open NovaHarness.PipelineOutcome

section Agreement

/-- The rule that decides on a tool, if there is a policy and it has one. -/
def ruleRead (toolName : String) (input : PipelineInput) : Option (Option ActionRiskRule) :=
  input.safetyPolicy.map fun policy => firstRule policy.1 toolName

/-- The inputs agree on all that a run with a tool of this name reads of them. -/
structure ReadAlike (toolName : String) (input input' : PipelineInput) : Prop where
  taskId : input'.taskContract.1.taskId = input.taskContract.1.taskId
  goal : input'.taskContract.1.goal = input.taskContract.1.goal
  userRequest : input'.taskContract.1.inputs.userRequest =
    input.taskContract.1.inputs.userRequest
  successCriteria : input'.taskContract.1.successCriteria =
    input.taskContract.1.successCriteria
  runId : input'.runId = input.runId
  modelName : input'.modelName = input.modelName
  rule : ruleRead toolName input' = ruleRead toolName input
  driver : input'.driver = input.driver

theorem ReadAlike.refl (toolName : String) (input : PipelineInput) :
    ReadAlike toolName input input :=
  ⟨rfl, rfl, rfl, rfl, rfl, rfl, rfl, rfl⟩

/-- Another contract in the place of the one an input has. -/
theorem ReadAlike.of_contract (toolName : String) (input : PipelineInput)
    (contract : Accepted TaskContract)
    (htask : contract.1.taskId = input.taskContract.1.taskId)
    (hgoal : contract.1.goal = input.taskContract.1.goal)
    (hrequest : contract.1.inputs.userRequest = input.taskContract.1.inputs.userRequest)
    (hcriteria : contract.1.successCriteria = input.taskContract.1.successCriteria) :
    ReadAlike toolName input { input with taskContract := contract } :=
  ⟨htask, hgoal, hrequest, hcriteria, rfl, rfl, rfl, rfl⟩

end Agreement

variable {rt : Runtime} {x x' : PipelineExecutor} {input input' : PipelineInput}

section Prompts

theorem exists_selectedFiles (contract : Accepted TaskContract) :
    ∃ files, (contract.1.scope.allowedPaths.mapM fun p =>
      construct "DeliveryItem" <| DeliveryItem.validate
        { itemId := "file:" ++ p
          contentType := .fileSnippet
          title := p
          reason := "referenced in task"
          content := "# placeholder" }) = .ok files := by
  rw [exists_mapM_eq_ok]
  intro p hp
  have hpath := (TaskContract.wellFormed contract).allowedPaths p hp
  simp only [construct_eq_ok, DeliveryItem.validate, fields_eq_ok, List.append_eq_nil_iff,
    nonBlank_eq_nil, check_eq_nil]
  exact ⟨_, ⟨⟨⟨hpath, by decide⟩, by decide⟩, by decide⟩, rfl⟩

/-- The bundle is built from the whole scope, of which nothing is left to see:
only its own two texts can turn it down. -/
theorem map_buildContextBundle (contract : Accepted TaskContract) :
    (buildContextBundle contract.1).map (fun _ => ()) =
      (construct "ContextDeliveryBundle" <| fields
        (nonBlank "task_id" "must not be empty" contract.1.taskId ++
          nonBlank "task_brief" "must not be empty" contract.1.goal) ()) := by
  have hsnapshot : construct "RepoSnapshot" (RepoSnapshot.validate
      { repoRoot := contract.1.scope.repoPath
        topLevelPaths := contract.1.scope.allowedPaths
        primaryLanguage := some "python" }) =
      .ok
        { repoRoot := strip contract.1.scope.repoPath
          topLevelPaths := contract.1.scope.allowedPaths
          primaryLanguage := some "python" } := by
    rw [construct_eq_ok, RepoSnapshot.validate, fields_eq_ok, nonBlank_eq_nil]
    exact ⟨(TaskContract.wellFormed contract).repoPath, rfl⟩
  obtain ⟨files, hfiles⟩ := exists_selectedFiles contract
  simp only [buildContextBundle, hsnapshot, hfiles, bind, Except.bind,
    ContextDeliveryBundle.validate, fields]
  split <;> rfl

theorem attempt_bind_eq {α β γ : Type} {v : Except PyException α} {w : Except PyException β}
    (h : v.map (fun _ => ()) = w.map (fun _ => ())) (p : RunM γ) :
    (attempt v >>= fun _ => p) = (attempt w >>= fun _ => p) := by
  cases v with
  | ok a =>
      cases w with
      | ok b => rfl
      | error e => simp [Except.map] at h
  | error e =>
      cases w with
      | ok b => simp [Except.map] at h
      | error e' =>
          obtain rfl := Except.error.inj h
          rfl

theorem attempt_ok_bind {α β : Type} (a : α) (f : α → RunM β) :
    (attempt (.ok a) >>= f) = f a := rfl

variable {toolName : String} (h : ReadAlike toolName input input')

include h

theorem buildPromptAssembly_congr (step : Nat) :
    buildPromptAssembly rt step input'.taskContract.1 input'.runId =
      buildPromptAssembly rt step input.taskContract.1 input.runId := by
  simp only [buildPromptAssembly, h.goal, h.userRequest, h.successCriteria, h.runId]

theorem assemblePrompt_congr : assemblePrompt rt input' = assemblePrompt rt input := by
  have hbundle : (buildContextBundle input'.taskContract.1).map (fun _ => ()) =
      (buildContextBundle input.taskContract.1).map (fun _ => ()) := by
    rw [map_buildContextBundle, map_buildContextBundle, h.taskId, h.goal]
  rw [assemblePrompt, assemblePrompt, attempt_bind_eq hbundle, buildPromptAssembly_congr h]

end Prompts

section Reviews

theorem decisionParts_congr {toolName : String} {policy policy' : ApprovalSafetyPolicy}
    (hrule : firstRule policy' toolName = firstRule policy toolName) (runId : String) :
    decisionParts rt toolName policy' runId = decisionParts rt toolName policy runId := by
  unfold firstRule at hrule
  rw [decisionParts, decisionParts, hrule]

variable (h : ReadAlike x.toolName input input') (htool : x'.toolName = x.toolName)

include h htool

theorem invocationParts_congr : invocationParts rt x' input' = invocationParts rt x input := by
  simp only [invocationParts, htool, h.goal, h.taskId, h.modelName]

/-- The review reads the rule only: its invocation goes by the name of the tool. -/
theorem approvalSafety_congr : approvalSafety rt x' input' = approvalSafety rt x input := by
  have hinvocation := invocationParts_validate_eq_ok rt x input
  have hrule := h.rule
  rw [approvalSafety, approvalSafety, invocationParts_congr h htool]
  rcases hvalid : construct "ToolInvocation" (invocationParts rt x input).validate with
    e | invocation
  · rfl
  · rw [construct_eq_ok, hinvocation] at hvalid
    obtain ⟨-, rfl⟩ := hvalid
    have hname : (requested rt x input).toolName = x.toolName := strip_toolName x
    simp only [ruleRead] at hrule
    rcases hpolicy : input.safetyPolicy with _ | policy
    · rcases hpolicy' : input'.safetyPolicy with _ | policy'
      · rfl
      · simp [hpolicy, hpolicy'] at hrule
    · rcases hpolicy' : input'.safetyPolicy with _ | policy'
      · simp [hpolicy, hpolicy'] at hrule
      · rw [hpolicy, hpolicy'] at hrule
        have hparts : decisionParts rt x.toolName policy'.1 input.runId =
            decisionParts rt x.toolName policy.1 input.runId :=
          decisionParts_congr (Option.some.inj hrule) input.runId
        simp only [attempt_ok_bind, makeSafetyDecision, hname, h.runId, hparts]

theorem prepare_congr : prepare rt x' input' = prepare rt x input := by
  rw [prepare, prepare, assemblePrompt_congr h, approvalSafety_congr h htool]

end Reviews

section Runs

theorem verification_congr {toolName : String} (h : ReadAlike toolName input input')
    (result : ToolResult) : verification rt input' result = verification rt input result := by
  simp only [verification, h.successCriteria]

theorem buildResult_congr {toolName : String} (h : ReadAlike toolName input input') :
    buildResult rt input' = buildResult rt input := by
  funext driver steps error
  simp only [buildResult, h.taskId, h.runId]

theorem ReadAlike.filledIn {toolName : String} (h : ReadAlike toolName input input')
    (hfilled : FilledIn input) : FilledIn input' where
  taskId := h.taskId ▸ hfilled.taskId
  runId := h.runId ▸ hfilled.runId
  userRequest := h.userRequest ▸ hfilled.userRequest
  modelName := h.modelName ▸ hfilled.modelName

/-- Past the review, the run goes by what the back end comes to. -/
theorem body_congr (h : ReadAlike x.toolName input input') (htool : x'.toolName = x.toolName)
    (hanswer : backendResult rt x' input' (reviewed rt x input) =
      backendResult rt x input (reviewed rt x input)) (s : Session) :
    (body rt x' input').run s = (body rt x input).run s := by
  rw [body, body, EStateM.run_bind, EStateM.run_bind, prepare_congr h htool]
  rcases hprepare : (prepare rt x input).run s with ⟨invocation, t⟩ | ⟨e, t⟩
  · obtain ⟨hfilled, -, -, rfl⟩ := (prepare_eq_ok rt x input s t invocation).mp hprepare
    simp only [EStateM.run_bind, run_toolModelExecution rt x input hfilled,
      run_toolModelExecution rt x' input' (h.filledIn hfilled), hanswer, verification_congr h]
  · rfl

theorem run_congr (h : ReadAlike x.toolName input input') (htool : x'.toolName = x.toolName)
    (hanswer : backendResult rt x' input' (reviewed rt x input) =
      backendResult rt x input (reviewed rt x input)) :
    run rt x' input' = run rt x input := by
  have hinitial : initialSession input' = initialSession input := by
    rw [initialSession, initialSession, h.driver]
  rw [run, run, hinitial, body_congr h htool hanswer, buildResult_congr h]

theorem backendResult_congr (h : ReadAlike x.toolName input input') :
    backendResult rt x input' = backendResult rt x input := by
  funext invocation
  simp only [backendResult, promptMessages, h.goal]

/-- Nothing else in the contract or in the policy has any influence: not the
scope, the constraints, the tools allowed, the approval gates, the other inputs,
or the rules for other tools and after the first. -/
theorem unread_parts_immaterial (h : ReadAlike x.toolName input input') :
    run rt x input' = run rt x input := by
  refine run_congr h rfl ?_
  rw [backendResult_congr h]

/-- The contract of `minimalInput`, with other limits, tools, gates and scope. -/
def narrowedContract : Accepted TaskContract :=
  build
    { minimalContract.1 with
      scope := { minimalContract.1.scope with allowedPaths := ["src/a.py"] }
      toolsAllowed := [.readFile]
      approvalGates := [.deleteFile] }
    (by decide)

theorem unread_parts_immaterial_narrowedContract :
    run asciiRuntime {} { minimalInput none with taskContract := narrowedContract } =
      run asciiRuntime {} (minimalInput none) :=
  unread_parts_immaterial (.of_contract _ _ _ (by decide +kernel) (by decide +kernel)
    (by decide +kernel) (by decide +kernel))

end Runs

section Answers

variable (rt input) in
/-- The back ends give the same answer to the one question the run has: the goal
of its contract in two messages, or the invocation as the review leaves it. -/
structure AnswersAlike (x x' : PipelineExecutor) : Prop where
  provider : x'.modelProvider.map (·.generate (promptMessages input.taskContract.1)) =
    x.modelProvider.map (·.generate (promptMessages input.taskContract.1))
  executor : x.modelProvider = none →
    x'.toolExecutor.map (· (reviewed rt x input)) = x.toolExecutor.map (· (reviewed rt x input))

theorem AnswersAlike.toolName (h : AnswersAlike rt input x x') : x'.toolName = x.toolName := by
  have hsome := congrArg Option.isSome h.provider
  rw [Option.isSome_map, Option.isSome_map] at hsome
  rw [PipelineExecutor.toolName, PipelineExecutor.toolName, hsome]

theorem AnswersAlike.backendResult (h : AnswersAlike rt input x x') :
    backendResult rt x' input (reviewed rt x input) =
      backendResult rt x input (reviewed rt x input) := by
  have hprovider := h.provider
  unfold PipelineOutcome.backendResult
  rcases hx : x.modelProvider with _ | provider
  · rcases hx' : x'.modelProvider with _ | provider'
    · have hexecutor := h.executor hx
      simp only [executorResult]
      rcases he : x.toolExecutor with _ | execute
      · rcases he' : x'.toolExecutor with _ | execute'
        · rfl
        · simp [he, he'] at hexecutor
      · rcases he' : x'.toolExecutor with _ | execute'
        · simp [he, he'] at hexecutor
        · rw [he, he'] at hexecutor
          simp only [Option.some.inj hexecutor]
    · simp [hx, hx'] at hprovider
  · rcases hx' : x'.modelProvider with _ | provider'
    · simp [hx, hx'] at hprovider
    · rw [hx, hx'] at hprovider
      simp only [providerResult, generateResult, Option.some.inj hprovider]

/-- A run asks its back end one question, and the answer is all it depends on. -/
theorem one_question (h : AnswersAlike rt input x x') : run rt x' input = run rt x input :=
  run_congr (.refl _ _) h.toolName h.backendResult

def steady : PipelineExecutor where
  modelProvider := some { generate := fun _ => .ok { content := "def test_add(): ..." } }

/-- Answers the one question of `minimalInput`, and no other. -/
def picky : PipelineExecutor where
  modelProvider := some
    { generate := fun messages =>
        if messages = promptMessages minimalContract.1 then
          .ok { content := "def test_add(): ..." }
        else .error { text := "unexpected messages" } }

theorem one_question_picky :
    run asciiRuntime picky (minimalInput none) = run asciiRuntime steady (minimalInput none) :=
  one_question ⟨by simp [picky, steady, minimalInput], by simp [steady]⟩

end Answers

end NovaHarness.RunReadings
