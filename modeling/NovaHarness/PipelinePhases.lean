import NovaHarness.PipelineRun

/-!
What each phase of a run does to the session.  A sequence of triggers that are
all accepted is a function of the session, `follow`; the phases up to the tool
call are put together from it in `prepared`.
-/

namespace NovaHarness.PipelinePhases

open NovaHarness.Text
open NovaHarness.RecordValidation
open NovaHarness.EarlyExit
open NovaHarness.OrchestrationMachine
open NovaHarness.Driver
open NovaHarness.TaskContractSchema
open NovaHarness.ToolInterfaceSchema
open NovaHarness.ApprovalSafetySchema
open NovaHarness.PromptSchemas
open NovaHarness.TraceSchemas
open NovaHarness.Pipeline
open NovaHarness.PipelineRun

variable (rt : Runtime) (x : PipelineExecutor) (input : PipelineInput)

section Follow

abbrev state (s : Session) : RunState := s.driver.currentStateId

/-- The session after a sequence of triggers, if all are accepted. -/
def follow (s : Session) : List (RunEvent × GuardResults) → Option Session
  | [] => some s
  | e :: events =>
      (s.driver.machine.next (state s) e.1 e.2).bind fun toState =>
        follow (s.moved rt e.1 e.2 toState) events

theorem follow_append (s : Session) (events events' : List (RunEvent × GuardResults)) :
    follow rt s (events ++ events') = (follow rt s events).bind (follow rt · events') := by
  induction events generalizing s with
  | nil => rfl
  | cons e events ih =>
      simp only [List.cons_append, follow, Option.bind_assoc, ih]

end Follow

section Trigger

variable (event : RunEvent) (guardResults : Option GuardResults)

theorem run_trigger (s : Session) :
    (trigger rt event guardResults).run s =
      match s.driver.trigger event guardResults (rt.now (.transition event)) with
      | (.ok toState, _) => .ok () (s.moved rt event (guardResults.getD []) toState)
      | (.error msg, d) => .error (.raises (.valueError msg)) { s with driver := d } := rfl

theorem run_trigger_eq_ok_next (s t : Session) (u : Unit) :
    (trigger rt event guardResults).run s = .ok u t ↔
      ∃ toState, s.driver.machine.next (state s) event (guardResults.getD []) = some toState ∧
        s.moved rt event (guardResults.getD []) toState = t := by
  rw [run_trigger]
  simp only [OrchestrationStateMachine.next_eq_some_iff]
  have hiff := s.driver.trigger_eq_ok_iff event guardResults (rt.now (.transition event))
  rcases hcall : s.driver.trigger event guardResults (rt.now (.transition event)) with
    ⟨msg | toState, d⟩
  · rw [hcall] at hiff
    simp only [reduceCtorEq, false_iff, not_exists, not_and]
    intro toState htakes
    exact absurd ((hiff toState _).mpr ⟨htakes, rfl⟩) (by simp)
  · rw [hcall] at hiff
    simp only [EStateM.Result.ok.injEq, true_and]
    constructor
    · intro h
      exact ⟨toState, ((hiff toState d).mp rfl).1, h⟩
    · rintro ⟨toState', htakes, h⟩
      obtain ⟨hsame, -⟩ := Prod.mk.inj ((hiff toState' _).mpr ⟨htakes, rfl⟩)
      rw [Except.ok.inj hsame]
      exact h

@[simp] theorem run_trigger_eq_ok (s t : Session) (u : Unit) :
    (trigger rt event guardResults).run s = .ok u t ↔
      follow rt s [(event, guardResults.getD [])] = some t := by
  simp [run_trigger_eq_ok_next, follow, Option.bind_eq_some_iff]

structure Same (s t : Session) : Prop where
  machine : t.driver.machine = s.driver.machine
  state : state t = state s
  stepResults : t.stepResults = s.stepResults
  invocation : t.invocation = s.invocation
  log : t.log = s.log

theorem of_run_trigger_eq_error {s t : Session} {e : Exit}
    (h : (trigger rt event guardResults).run s = .error e t) :
    (∃ msg, e = .raises (.valueError msg) ∧ msg ≠ "") ∧ Same s t := by
  rw [run_trigger] at h
  rcases hcall : s.driver.trigger event guardResults (rt.now (.transition event)) with
    ⟨msg | toState, d⟩
  · rw [hcall] at h
    obtain ⟨rfl, rfl⟩ := EStateM.Result.error.inj h
    obtain ⟨⟨hmachine, hstate⟩, hmsg⟩ := StateDriver.of_trigger_error hcall
    exact ⟨⟨msg, rfl, hmsg⟩, hmachine, hstate, rfl, rfl, rfl⟩
  · simp [hcall] at h

@[simp] theorem run_attempt_eq_ok {α : Type} (v : Except PyException α) (a : α)
    (s t : Session) : (attempt v).run s = .ok a t ↔ v = .ok a ∧ s = t :=
  run_ofExcept_eq_ok ..

@[simp] theorem run_record_eq_ok (step : ExecutionStepResult) (s t : Session) (u : Unit) :
    (record step).run s = .ok u t ↔ s.recording step = t :=
  run_update_eq_ok ..

@[simp] theorem run_orReturn_eq_ok (p : RunM Unit) (s t : Session) (u : Unit) :
    (orReturn p).run s = .ok u t ↔ p.run s = .ok u t := by
  rw [orReturn, run_rescue]
  rcases p.run s with ⟨u', t'⟩ | ⟨error | msg | _ | _, t'⟩ <;> simp

/-- Raised by a trigger: a `ValueError` that says something. -/
def IsRejection (e : Exit) : Prop :=
  ∃ msg, e = .raises (.valueError msg) ∧ msg ≠ ""

def IsRaised (e : Exit) : Prop :=
  ∃ ex, e = .raises ex

/-- Raised, or returned with an error that says something. -/
def IsFailure (e : Exit) : Prop :=
  IsRaised e ∨ ∃ msg, e = .returns (some msg) ∧ msg ≠ ""

theorem exits_trigger : Exits IsRejection (trigger rt event guardResults) := by
  intro s e t h
  exact (of_run_trigger_eq_error rt event guardResults h).1

theorem exits_trigger_raised : Exits IsRaised (trigger rt event guardResults) := by
  intro s e t h
  obtain ⟨msg, rfl, -⟩ := exits_trigger rt event guardResults s e t h
  exact ⟨_, rfl⟩

theorem exits_attempt {α : Type} (v : Except PyException α) : Exits IsRaised (attempt v) :=
  Exits.ofExcept (fun ex => ⟨ex, rfl⟩) v

theorem exits_orReturn {p : RunM Unit} (hp : Exits IsRejection p) :
    Exits IsFailure (orReturn p) := by
  refine Exits.rescue hp ?_ ?_
  · rintro e ⟨msg, rfl, -⟩ hunclaimed
    simp at hunclaimed
  · rintro e h ⟨msg, rfl, hmsg⟩ hclaimed
    obtain rfl := Option.some.inj hclaimed
    exact Exits.exit (.inr ⟨msg, rfl, hmsg⟩)

/-- A handler of `except ValueError` is only asked about the texts of these. -/
theorem holds_of_handled {P : RunM Unit → Prop} {handle : String → RunM Unit}
    (hhandle : ∀ msg, P (handle msg)) (e : Exit) (h : RunM Unit)
    (hhandled : (match e with
      | .raises (.valueError msg) => some (handle msg)
      | _ => none) = some h) : P h := by
  split at hhandled
  · exact Option.some.inj hhandled ▸ hhandle _
  · simp at hhandled

/-- What can only raise passes an early return of the rest on. -/
theorem run_bind_eq_returns {α β : Type} {p : RunM α} (hp : Exits IsRaised p) (f : α → RunM β)
    (error : Option String) (s t : Session) :
    (p >>= f).run s = .error (.returns error) t ↔
      ∃ a m, p.run s = .ok a m ∧ (f a).run m = .error (.returns error) t := by
  rw [run_bind_eq_error]
  constructor
  · rintro (hrun | hrest)
    · obtain ⟨ex, hex⟩ := hp s _ t hrun
      simp at hex
    · exact hrest
  · exact .inr

end Trigger

section Follow

def calls (s : Session) : List Moment :=
  s.log.filter (·.effect = .called)

@[simp] theorem calls_moved (s : Session) (event : RunEvent) (resolved : GuardResults)
    (toState : RunState) : calls (s.moved rt event resolved toState) = calls s := by
  simp [calls, Session.moved, Session.moment]

theorem calls_calling (s : Session) : calls s.calling = calls s ++ [s.moment .called] := by
  simp [calls, Session.calling, Session.moment]

/-- Following events moves the driver and does nothing else. -/
theorem follow_keeps {s t : Session} {events : List (RunEvent × GuardResults)}
    (h : follow rt s events = some t) :
    t.driver.machine = s.driver.machine ∧ t.stepResults = s.stepResults ∧
      t.invocation = s.invocation ∧ calls t = calls s ∧
      t.driver.history.map (·.event) = s.driver.history.map (·.event) ++ events.map (·.1) := by
  induction events generalizing s with
  | nil =>
      obtain rfl := Option.some.inj h
      simp
  | cons e events ih =>
      obtain ⟨toState, -, hrest⟩ := Option.bind_eq_some_iff.mp h
      obtain ⟨hmachine, hsteps, hinvocation, hcalls, hhistory⟩ := ih hrest
      refine ⟨hmachine, hsteps, hinvocation, hcalls.trans (calls_moved ..), ?_⟩
      rw [hhistory]
      simp [Session.moved, StateDriver.taken]

theorem map_state_follow (s : Session) (events : List (RunEvent × GuardResults)) :
    (follow rt s events).map state = s.driver.machine.walk (state s) events := by
  induction events generalizing s with
  | nil => rfl
  | cons e events ih =>
      simp only [follow, Option.map_bind, OrchestrationStateMachine.walk, List.foldlM_cons]
      change Option.bind _ _ = Option.bind _ _
      congr 1
      funext toState
      exact ih (s.moved rt e.1 e.2 toState)

end Follow

section Records

/-- The texts that the records of a run refuse to be blank. -/
structure FilledIn : Prop where
  taskId : ¬ IsBlank input.taskContract.1.taskId
  runId : ¬ IsBlank input.runId
  userRequest : ¬ IsBlank input.taskContract.1.inputs.userRequest
  modelName : ¬ IsBlank input.modelName

theorem filledIn_minimalInput (policy : Option (Accepted ApprovalSafetyPolicy)) :
    FilledIn (minimalInput policy) where
  taskId := (by decide : ¬ IsBlank minimalContract.1.taskId)
  runId := (by decide : ¬ IsBlank "run-1")
  userRequest := (by decide : ¬ IsBlank minimalContract.1.inputs.userRequest)
  modelName := (by decide : ¬ IsBlank "mock")

theorem exists_buildContextBundle (contract : Accepted TaskContract) :
    (∃ bundle, buildContextBundle contract.1 = .ok bundle) ↔ ¬ IsBlank contract.1.taskId := by
  have hwf := TaskContract.wellFormed contract
  simp only [buildContextBundle, bind_eq_ok, construct_eq_ok, RepoSnapshot.validate,
    ContextDeliveryBundle.validate, fields_eq_ok, nonBlank_eq_nil, List.append_eq_nil_iff]
  constructor
  · rintro ⟨_, _, _, _, _, ⟨htask, -⟩, -⟩
    exact htask
  · intro htask
    have hitems : ∀ p ∈ contract.1.scope.allowedPaths, ∃ item,
        construct "DeliveryItem" (DeliveryItem.validate
          { itemId := "file:" ++ p
            contentType := .fileSnippet
            title := p
            reason := "referenced in task"
            content := "# placeholder" }) = .ok item := by
      intro p hp
      simp only [construct_eq_ok, DeliveryItem.validate, fields_eq_ok, List.append_eq_nil_iff,
        nonBlank_eq_nil, check_eq_nil]
      exact ⟨_, ⟨⟨⟨hwf.allowedPaths p hp, by decide⟩, by decide⟩, by decide⟩, rfl⟩
    obtain ⟨files, hfiles⟩ := (exists_mapM_eq_ok _ _).mpr hitems
    exact ⟨_, _, ⟨hwf.repoPath, rfl⟩, files, hfiles, ⟨htask, hwf.goal⟩, rfl⟩

def promptMessages (contract : TaskContract) : List ModelMessage :=
  [⟨"system", "You are a coding assistant."⟩, ⟨"user", strip contract.goal⟩]

theorem of_buildPromptAssembly_eq_ok {step : Nat} {contract : TaskContract} {runId : String}
    {assembly : PromptAssembly}
    (h : buildPromptAssembly rt step contract runId = .ok assembly) :
    (¬ IsBlank runId ∧ ¬ IsBlank contract.inputs.userRequest) ∧
      assembly.messages.map (fun m => ⟨m.role.value, m.content⟩) = promptMessages contract := by
  simp only [buildPromptAssembly, bind_eq_ok, construct_eq_ok, InstructionLayer.validate,
    ContextBlock.validate, VerificationBlock.validate, MessageBlock.validate,
    PromptAssembly.validate, fields_eq_ok, require_eq_ok, pure_eq_ok, nonBlank_eq_nil,
    List.append_eq_nil_iff] at h
  obtain ⟨_, -, _, -, _, ⟨⟨-, hrequest⟩, -⟩, _, -, _, ⟨-, rfl⟩, _, ⟨-, rfl⟩, _, ⟨⟨-, hrun⟩, rfl⟩,
    -, -, -, -, rfl⟩ := h
  refine ⟨⟨hrun, hrequest⟩, ?_⟩
  have hsystem : strip "You are a coding assistant." = "You are a coding assistant." := by decide
  simp [promptMessages, MessageRole.value, hsystem]

theorem exists_buildPromptAssembly (step : Nat) (contract : Accepted TaskContract)
    (runId : String) :
    (∃ assembly, buildPromptAssembly rt step contract.1 runId = .ok assembly) ↔
      ¬ IsBlank runId ∧ ¬ IsBlank contract.1.inputs.userRequest := by
  have hwf := TaskContract.wellFormed contract
  constructor
  · rintro ⟨assembly, h⟩
    exact (of_buildPromptAssembly_eq_ok rt h).1
  · rintro ⟨hrun, hrequest⟩
    have hid : ¬ IsBlank ("asm-" ++ rt.uuidHex (.assembly step)) := not_isBlank_append (by decide)
    simp only [buildPromptAssembly, bind_eq_ok, construct_eq_ok, InstructionLayer.validate,
      ContextBlock.validate, VerificationBlock.validate, MessageBlock.validate,
      PromptAssembly.validate, fields_eq_ok, require_eq_ok, pure_eq_ok, nonBlank_eq_nil,
      List.append_eq_nil_iff]
    refine ⟨_, _, ⟨by decide, rfl⟩, _, ⟨⟨by decide, hwf.goal⟩, rfl⟩,
      _, ⟨⟨by decide, hrequest⟩, rfl⟩, _, ⟨(), ?_, rfl⟩, _, ⟨by decide, rfl⟩, _, ⟨hwf.goal, rfl⟩,
      _, ⟨⟨hid, hrun⟩, rfl⟩, (), by simp, (), by simp, rfl⟩
    simp [hwf.successCriteria]

end Records

section Review

def firstRule (policy : ApprovalSafetyPolicy) (toolName : String) : Option ActionRiskRule :=
  policy.rules.find? (·.actionName = toolName)

/-- What the first rule for a tool says; a tool without a rule is allowed. -/
def chosenAction (policy : ApprovalSafetyPolicy) (toolName : String) : SafetyAction :=
  match policy.rules.find? (·.actionName = toolName) with
  | some rule => rule.safetyAction
  | none => .allow

def action : SafetyAction :=
  match input.safetyPolicy with
  | some policy => chosenAction policy.1 x.toolName
  | none => .allow

theorem action_of_noPolicy {x : PipelineExecutor} {input : PipelineInput}
    (hpolicy : input.safetyPolicy = none) : action x input = .allow := by
  simp [action, hpolicy]

def requested : ToolInvocation :=
  (invocationParts rt x input).normalized

def reviewed : ToolInvocation :=
  { requested rt x input with
    approvalState := if action x input = .requireApproval then .pending else .notRequired }

def decision (policy : ApprovalSafetyPolicy) : SafetyDecision :=
  (decisionParts rt x.toolName policy input.runId).normalized

def decisionTrace (outcome : PolicyOutcomeType) (decision : SafetyDecision) : PolicyTrace where
  policyName := "approval_safety"
  outcome := outcome
  riskLevel := some decision.riskLevel.value
  reason := strip decision.decisionReason

def reviewStep : ExecutionStepResult :=
  match input.safetyPolicy with
  | some policy =>
      let decision := decision rt x input policy.1
      match decision.safetyAction with
      | .block =>
          decisionStep rt .policyCheck .blocked (reviewed rt x input) decision
            (decisionTrace .blocked decision)
      | .requireApproval =>
          decisionStep rt .approval .success (reviewed rt x input) decision
            (decisionTrace .requiredApproval decision)
      | .allow =>
          decisionStep rt .policyCheck .success (reviewed rt x input) decision
            (decisionTrace .allowed decision)
  | none =>
      noPolicyStep rt (reviewed rt x input)
        { policyName := "approval_safety"
          outcome := .allowed
          reason := "no policy, default allow" }

def reviewEvents : SafetyAction → List (RunEvent × GuardResults)
  | .block => [(.approvalRequired, []), (.approvalRejected, [])]
  | .requireApproval => [(.approvalRequired, []), (.approvalGranted, approvalGrantedIfRequired)]
  | .allow => [(.toolApprovedOrNotRequired, [])]

/-- The session after a review in which every event was accepted. -/
def review (s : Session) : Option Session :=
  match action x input with
  | .requireApproval =>
      (follow rt s [(.approvalRequired, [])]).bind fun t =>
        follow rt ((t.holding (reviewed rt x input)).recording (reviewStep rt x input))
          [(.approvalGranted, approvalGrantedIfRequired)]
  | .block => (follow rt s (reviewEvents .block)).map (·.recording (reviewStep rt x input))
  | .allow => (follow rt s (reviewEvents .allow)).map (·.recording (reviewStep rt x input))

theorem not_isBlank_toolName : ¬ IsBlank x.toolName := by
  unfold PipelineExecutor.toolName
  split <;> decide

theorem invocationParts_validate_eq_ok (invocation : ToolInvocation) :
    (invocationParts rt x input).validate = .ok invocation ↔
      (¬ IsBlank input.taskContract.1.taskId ∧ ¬ IsBlank input.modelName) ∧
        requested rt x input = invocation := by
  have hid : ¬ IsBlank ("inv-" ++ rt.uuidHex .invocation) := not_isBlank_append (by decide)
  rw [ToolInvocation.validate_eq_ok]
  simp [invocationParts, requested, hid, not_isBlank_toolName]

theorem strip_toolName : strip x.toolName = x.toolName := by
  unfold PipelineExecutor.toolName
  split <;> decide

theorem not_isBlank_reviewed :
    ¬ IsBlank (reviewed rt x input).invocationId ∧ ¬ IsBlank (reviewed rt x input).toolName := by
  constructor
  · change ¬ IsBlank (strip ("inv-" ++ rt.uuidHex .invocation))
    rw [isBlank_strip]
    exact not_isBlank_append (by decide)
  · change ¬ IsBlank (strip x.toolName)
    rw [isBlank_strip]
    exact not_isBlank_toolName x

theorem decisionParts_safetyAction (toolName : String) (policy : ApprovalSafetyPolicy)
    (runId : String) :
    (decisionParts rt toolName policy runId).safetyAction = chosenAction policy toolName := by
  unfold decisionParts chosenAction
  cases policy.rules.find? _ <;> rfl

/-- The text in front of a rule's rationale keeps the reason of a decision from
being blank. -/
theorem makeSafetyDecision_eq_ok (invocation : ToolInvocation) (policy : ApprovalSafetyPolicy)
    (runId : String) (decision : SafetyDecision) :
    makeSafetyDecision rt invocation policy runId = .ok decision ↔
      (¬ IsBlank runId ∧ ¬ IsBlank invocation.toolName) ∧
        (decisionParts rt invocation.toolName policy runId).normalized = decision := by
  have hid : ¬ IsBlank ("dec-" ++ rt.uuidHex .decision) := not_isBlank_append (by decide)
  have hnone : ¬ IsBlank "no matching rule, default allow" := by decide
  rw [makeSafetyDecision, construct_eq_ok, SafetyDecision.validate_eq_ok]
  unfold decisionParts
  split
  · rename_i rule hrule
    have hreason : ¬ IsBlank ("matched rule: " ++ rule.rationale) :=
      not_isBlank_append (by decide)
    simp [hid, hreason, and_assoc]
  · simp [hid, hnone, and_assoc]

theorem makeSafetyDecision_requested (policy : ApprovalSafetyPolicy) (d : SafetyDecision) :
    makeSafetyDecision rt (requested rt x input) policy input.runId = .ok d ↔
      ¬ IsBlank input.runId ∧ decision rt x input policy = d := by
  have hname : (requested rt x input).toolName = x.toolName := strip_toolName x
  rw [makeSafetyDecision_eq_ok, hname, and_iff_left (not_isBlank_toolName x)]
  rfl

theorem not_isBlank_decisionReason (policy : ApprovalSafetyPolicy) :
    ¬ IsBlank (decision rt x input policy).decisionReason := by
  unfold decision decisionParts
  split
  · change ¬ IsBlank (strip _)
    rw [isBlank_strip]
    exact not_isBlank_append (by decide)
  · change ¬ IsBlank (strip "no matching rule, default allow")
    decide

theorem policyTrace_eq_ok (outcome : PolicyOutcomeType) (decision : SafetyDecision)
    (pt : PolicyTrace) :
    policyTrace outcome decision = .ok pt ↔
      ¬ IsBlank decision.decisionReason ∧ decisionTrace outcome decision = pt := by
  have hname : ¬ IsBlank "approval_safety" := by decide
  have hstrip : strip "approval_safety" = "approval_safety" := by decide
  simp [policyTrace, PolicyTrace.validate, decisionTrace, hname, hstrip]

theorem reviewed_of_ne (h : action x input ≠ .requireApproval) :
    reviewed rt x input = requested rt x input := by
  simp only [reviewed, if_neg h]
  rfl

theorem reviewed_of_eq (h : action x input = .requireApproval) :
    reviewed rt x input = { requested rt x input with approvalState := .pending } := by
  simp only [reviewed, if_pos h]

theorem decision_safetyAction {policy : Accepted ApprovalSafetyPolicy}
    (hpolicy : input.safetyPolicy = some policy) :
    (decision rt x input policy.1).safetyAction = action x input := by
  simp only [action, hpolicy]
  exact decisionParts_safetyAction rt x.toolName policy.1 input.runId

theorem reviewStep_of_policy {policy : Accepted ApprovalSafetyPolicy}
    (hpolicy : input.safetyPolicy = some policy) :
    reviewStep rt x input =
      match action x input with
      | .block =>
          decisionStep rt .policyCheck .blocked (reviewed rt x input)
            (decision rt x input policy.1) (decisionTrace .blocked (decision rt x input policy.1))
      | .requireApproval =>
          decisionStep rt .approval .success (reviewed rt x input)
            (decision rt x input policy.1)
            (decisionTrace .requiredApproval (decision rt x input policy.1))
      | .allow =>
          decisionStep rt .policyCheck .success (reviewed rt x input)
            (decision rt x input policy.1)
            (decisionTrace .allowed (decision rt x input policy.1)) := by
  simp only [reviewStep, hpolicy, decision_safetyAction rt x input hpolicy]

theorem followDecision_eq_ok {policy : Accepted ApprovalSafetyPolicy}
    (hpolicy : input.safetyPolicy = some policy) (s t : Session) (invocation : ToolInvocation) :
    (followDecision rt (requested rt x input) (decision rt x input policy.1)).run s =
        .ok invocation t ↔
      action x input ≠ .block ∧ review rt x input s = some t ∧
        reviewed rt x input = invocation := by
  have hreason := not_isBlank_decisionReason rt x input policy.1
  unfold followDecision review
  rw [decision_safetyAction rt x input hpolicy, reviewStep_of_policy rt x input hpolicy]
  cases haction : action x input with
  | block =>
      simp only [run_bind_eq_ok, run_exit_ne_ok, and_false, exists_false, ne_eq,
        not_true_eq_false, false_and]
  | requireApproval =>
      simp only [run_bind_eq_ok, run_trigger_eq_ok, run_update_eq_ok, run_attempt_eq_ok,
        run_record_eq_ok, run_pure_eq_ok, policyTrace_eq_ok, Option.bind_eq_some_iff,
        reviewed_of_eq rt x input haction]
      constructor
      · rintro ⟨-, s₁, hrequired, -, _, rfl, _, _, ⟨⟨-, rfl⟩, rfl⟩, -, _, rfl, -, _, hgranted,
          rfl, rfl⟩
        exact ⟨by simp, ⟨s₁, hrequired, hgranted⟩, rfl⟩
      · rintro ⟨-, ⟨s₁, hrequired, hgranted⟩, rfl⟩
        exact ⟨(), s₁, hrequired, (), _, rfl, _, _, ⟨⟨hreason, rfl⟩, rfl⟩, (), _, rfl, (), _,
          hgranted, rfl, rfl⟩
  | allow =>
      simp only [run_bind_eq_ok, run_trigger_eq_ok, run_attempt_eq_ok, run_record_eq_ok,
        run_pure_eq_ok, policyTrace_eq_ok, Option.map_eq_some_iff, reviewEvents,
        reviewed_of_ne rt x input (by rw [haction]; decide)]
      constructor
      · rintro ⟨-, s₁, hallowed, _, _, ⟨⟨-, rfl⟩, rfl⟩, -, _, rfl, rfl, rfl⟩
        exact ⟨by simp, ⟨s₁, hallowed, rfl⟩, rfl⟩
      · rintro ⟨-, ⟨s₁, hallowed, rfl⟩, rfl⟩
        exact ⟨(), s₁, hallowed, _, _, ⟨⟨hreason, rfl⟩, rfl⟩, (), _, rfl, rfl, rfl⟩

theorem exits_followDecision (invocation : ToolInvocation) {d : SafetyDecision}
    (hgo : d.safetyAction ≠ .block) : Exits IsRaised (followDecision rt invocation d) := by
  unfold followDecision
  split
  · contradiction
  · refine Exits.bind (exits_trigger_raised _ _ _) fun _ => ?_
    refine Exits.bind (Exits.update _) fun _ => ?_
    refine Exits.bind (exits_attempt _) fun _ => ?_
    refine Exits.bind (Exits.update _) fun _ => ?_
    exact Exits.bind (exits_trigger_raised _ _ _) fun _ => Exits.pure _
  · refine Exits.bind (exits_trigger_raised _ _ _) fun _ => ?_
    refine Exits.bind (exits_attempt _) fun _ => ?_
    exact Exits.bind (Exits.update _) fun _ => Exits.pure _

theorem exits_followNoPolicy (invocation : ToolInvocation) :
    Exits IsRaised (followNoPolicy rt invocation) := by
  refine Exits.bind (exits_trigger_raised _ _ _) fun _ => ?_
  refine Exits.bind (exits_attempt _) fun _ => ?_
  exact Exits.bind (Exits.update _) fun _ => Exits.pure _

theorem followDecision_eq_returns {policy : Accepted ApprovalSafetyPolicy}
    (hpolicy : input.safetyPolicy = some policy) (s t : Session) (error : Option String) :
    (followDecision rt (requested rt x input) (decision rt x input policy.1)).run s =
        .error (.returns error) t ↔
      action x input = .block ∧ review rt x input s = some t ∧ error = none := by
  have hreason := not_isBlank_decisionReason rt x input policy.1
  have hdecision := decision_safetyAction rt x input hpolicy
  by_cases haction : action x input = .block
  · unfold followDecision review
    rw [hdecision, reviewStep_of_policy rt x input hpolicy]
    simp only [haction, run_bind_eq_returns (exits_trigger_raised _ _ _),
      run_bind_eq_returns (exits_attempt _), run_bind_eq_returns (Exits.update _), record,
      run_trigger_eq_ok, run_attempt_eq_ok, run_update_eq_ok,
      run_exit_eq_error, policyTrace_eq_ok, Option.map_eq_some_iff, reviewEvents,
      reviewed_of_ne rt x input (by rw [haction]; decide)]
    have hboth := follow_append rt s [(.approvalRequired, [])] [(.approvalRejected, [])]
    rw [List.singleton_append] at hboth
    rw [hboth]
    simp only [Option.bind_eq_some_iff]
    constructor
    · rintro ⟨-, s₁, hrequired, -, s₂, hrejected, _, _, ⟨⟨-, rfl⟩, rfl⟩, -, _, rfl, hexit, rfl⟩
      exact ⟨trivial, ⟨s₂, ⟨s₁, hrequired, hrejected⟩, rfl⟩, (Exit.returns.inj hexit).symm⟩
    · rintro ⟨-, ⟨s₂, ⟨s₁, hrequired, hrejected⟩, rfl⟩, rfl⟩
      exact ⟨(), s₁, hrequired, (), s₂, hrejected, _, _, ⟨⟨hreason, rfl⟩, rfl⟩, (), _, rfl,
        rfl, rfl⟩
  · simp only [haction, false_and, iff_false]
    intro h
    obtain ⟨ex, hex⟩ := exits_followDecision rt _ (hdecision ▸ haction) s _ t h
    simp at hex

theorem followNoPolicy_eq_ok (hpolicy : input.safetyPolicy = none) (s t : Session)
    (invocation : ToolInvocation) :
    (followNoPolicy rt (requested rt x input)).run s = .ok invocation t ↔
      review rt x input s = some t ∧ reviewed rt x input = invocation := by
  have haction : action x input = .allow := action_of_noPolicy hpolicy
  have hname : ¬ IsBlank "approval_safety" := by decide
  have hnameStrip : strip "approval_safety" = "approval_safety" := by decide
  have hreason : ¬ IsBlank "no policy, default allow" := by decide
  have hreasonStrip : strip "no policy, default allow" = "no policy, default allow" := by decide
  unfold followNoPolicy review
  simp only [haction, run_bind_eq_ok, run_trigger_eq_ok, run_attempt_eq_ok, run_record_eq_ok,
    run_pure_eq_ok, construct_eq_ok, PolicyTrace.validate, fields_eq_ok, List.append_eq_nil_iff,
    nonBlank_eq_nil, hnameStrip, hreasonStrip, Option.map_eq_some_iff, reviewEvents, reviewStep,
    hpolicy, reviewed_of_ne rt x input (by rw [haction]; decide)]
  constructor
  · rintro ⟨-, s₁, hallowed, _, _, ⟨⟨-, rfl⟩, rfl⟩, -, _, rfl, rfl, rfl⟩
    exact ⟨⟨s₁, hallowed, rfl⟩, rfl⟩
  · rintro ⟨⟨s₁, hallowed, rfl⟩, rfl⟩
    exact ⟨(), s₁, hallowed, _, _, ⟨⟨⟨hname, hreason⟩, rfl⟩, rfl⟩, (), _, rfl, rfl, rfl⟩

theorem run_approvalSafety (htask : ¬ IsBlank input.taskContract.1.taskId)
    (hrun : ¬ IsBlank input.runId) (hmodel : ¬ IsBlank input.modelName) (s : Session) :
    (approvalSafety rt x input).run s =
      match input.safetyPolicy with
      | some policy =>
          (followDecision rt (requested rt x input) (decision rt x input policy.1)).run
            (s.holding (requested rt x input))
      | none => (followNoPolicy rt (requested rt x input)).run (s.holding (requested rt x input)) := by
  have hinvocation : construct "ToolInvocation" (invocationParts rt x input).validate =
      .ok (requested rt x input) := by
    rw [construct_eq_ok, invocationParts_validate_eq_ok]
    exact ⟨⟨htask, hmodel⟩, rfl⟩
  rw [approvalSafety, hinvocation, attempt, run_ofExcept_ok_bind, run_update_bind]
  rcases hpolicy : input.safetyPolicy with _ | policy
  · rfl
  · have hdecision := (makeSafetyDecision_requested rt x input policy.1 _).mpr ⟨hrun, rfl⟩
    simp only [attempt, hdecision, run_ofExcept_ok_bind]

theorem approvalSafety_raises
    (h : ¬ (¬ IsBlank input.taskContract.1.taskId ∧ ¬ IsBlank input.modelName)) (s : Session) :
    ∃ ex, (approvalSafety rt x input).run s = .error (.raises ex) s := by
  have hinvocation : ∃ ex, construct "ToolInvocation" (invocationParts rt x input).validate =
      .error ex := by
    rcases hparts : construct "ToolInvocation" (invocationParts rt x input).validate with ex | invocation
    · exact ⟨ex, rfl⟩
    · rw [construct_eq_ok, invocationParts_validate_eq_ok] at hparts
      exact absurd hparts.1 h
  obtain ⟨ex, hex⟩ := hinvocation
  refine ⟨ex, ?_⟩
  unfold approvalSafety
  rw [hex]
  rfl

theorem approvalSafety_eq_ok (hrun : ¬ IsBlank input.runId) (s t : Session)
    (invocation : ToolInvocation) :
    (approvalSafety rt x input).run s = .ok invocation t ↔
      (¬ IsBlank input.taskContract.1.taskId ∧ ¬ IsBlank input.modelName) ∧
        action x input ≠ .block ∧
        review rt x input (s.holding (requested rt x input)) = some t ∧
        reviewed rt x input = invocation := by
  by_cases hfilled : ¬ IsBlank input.taskContract.1.taskId ∧ ¬ IsBlank input.modelName
  · rw [run_approvalSafety rt x input hfilled.1 hrun hfilled.2]
    rcases hpolicy : input.safetyPolicy with _ | policy
    · simp only [followNoPolicy_eq_ok rt x input hpolicy, hfilled, action_of_noPolicy hpolicy]
      simp
    · simp only [followDecision_eq_ok rt x input hpolicy, hfilled]
      simp
  · obtain ⟨ex, hex⟩ := approvalSafety_raises rt x input hfilled s
    simp [hex, hfilled]

theorem approvalSafety_eq_returns (hrun : ¬ IsBlank input.runId) (s t : Session)
    (error : Option String) :
    (approvalSafety rt x input).run s = .error (.returns error) t ↔
      (¬ IsBlank input.taskContract.1.taskId ∧ ¬ IsBlank input.modelName) ∧
        action x input = .block ∧
        review rt x input (s.holding (requested rt x input)) = some t ∧ error = none := by
  by_cases hfilled : ¬ IsBlank input.taskContract.1.taskId ∧ ¬ IsBlank input.modelName
  · rw [run_approvalSafety rt x input hfilled.1 hrun hfilled.2]
    rcases hpolicy : input.safetyPolicy with _ | policy
    · simp only [action_of_noPolicy hpolicy, reduceCtorEq, false_and, and_false, iff_false]
      intro h
      obtain ⟨ex, hex⟩ := exits_followNoPolicy rt _ _ _ t h
      simp at hex
    · simp only [followDecision_eq_returns rt x input hpolicy, hfilled]
      simp
  · obtain ⟨ex, hex⟩ := approvalSafety_raises rt x input hfilled s
    simp [hex, hfilled]

end Review

section Preparation

def advanceEvents : List (RunEvent × GuardResults) :=
  [(.promptReady, []), (.modelResponseReceived, []), (.toolCallRequested, [])]

/-- The session before the back end is called, or when a review has stopped the
run, if every event was accepted. -/
def prepared (s : Session) : Option Session :=
  (follow rt s [(.startRun, [])]).bind fun s₁ =>
    (follow rt (s₁.recording (promptStep rt)) advanceEvents).bind fun s₂ =>
      review rt x input (s₂.holding (requested rt x input))

theorem startRun_eq_ok (s t : Session) (u : Unit) :
    (startRun rt).run s = .ok u t ↔ follow rt s [(.startRun, [])] = some t := by
  rw [startRun, run_orReturn_eq_ok, run_trigger_eq_ok]
  rfl

theorem assemblePrompt_eq_ok (s t : Session) (u : Unit) :
    (assemblePrompt rt input).run s = .ok u t ↔
      (¬ IsBlank input.taskContract.1.taskId ∧ ¬ IsBlank input.runId ∧
        ¬ IsBlank input.taskContract.1.inputs.userRequest) ∧
      s.recording (promptStep rt) = t := by
  have hbundle := exists_buildContextBundle input.taskContract
  have hassembly := exists_buildPromptAssembly rt 0 input.taskContract input.runId
  simp only [assemblePrompt, run_bind_eq_ok, run_attempt_eq_ok, run_record_eq_ok]
  constructor
  · rintro ⟨bundle, _, ⟨hb, rfl⟩, assembly, _, ⟨ha, rfl⟩, rfl⟩
    obtain ⟨hrun, hrequest⟩ := hassembly.mp ⟨assembly, ha⟩
    exact ⟨⟨hbundle.mp ⟨bundle, hb⟩, hrun, hrequest⟩, rfl⟩
  · rintro ⟨⟨htask, hrun, hrequest⟩, rfl⟩
    obtain ⟨bundle, hb⟩ := hbundle.mpr htask
    obtain ⟨assembly, ha⟩ := hassembly.mpr ⟨hrun, hrequest⟩
    exact ⟨bundle, s, ⟨hb, rfl⟩, assembly, s, ⟨ha, rfl⟩, rfl⟩

theorem advance_eq_ok (s t : Session) (u : Unit) :
    (advance rt).run s = .ok u t ↔ follow rt s advanceEvents = some t := by
  have hfirst := follow_append rt s [(.promptReady, [])]
    [(.modelResponseReceived, []), (.toolCallRequested, [])]
  have hsecond := fun s' => follow_append rt s' [(.modelResponseReceived, [])]
    [(.toolCallRequested, [])]
  simp only [List.cons_append, List.nil_append] at hfirst hsecond
  rw [advance, run_orReturn_eq_ok, advanceEvents, hfirst]
  simp only [hsecond, run_bind_eq_ok, run_trigger_eq_ok, Option.bind_eq_some_iff]
  constructor
  · rintro ⟨-, s₁, h₁, -, s₂, h₂, h₃⟩
    exact ⟨s₁, h₁, s₂, h₂, h₃⟩
  · rintro ⟨s₁, h₁, s₂, h₂, h₃⟩
    exact ⟨(), s₁, h₁, (), s₂, h₂, h₃⟩

theorem exits_startRun : Exits IsFailure (startRun rt) :=
  exits_orReturn (exits_trigger rt .startRun none)

theorem exits_assemblePrompt : Exits IsRaised (assemblePrompt rt input) := by
  refine Exits.bind (exits_attempt _) fun _ => ?_
  exact Exits.bind (exits_attempt _) fun _ => Exits.update _

theorem exits_advance : Exits IsFailure (advance rt) := by
  apply exits_orReturn
  refine Exits.bind (exits_trigger rt .promptReady none) fun _ => ?_
  refine Exits.bind (exits_trigger rt .modelResponseReceived none) fun _ => ?_
  exact exits_trigger rt .toolCallRequested none

/-- The run gets to the back end exactly when the records accept their texts, the
driver accepts the events, and the review does not block. -/
theorem prepare_eq_ok (s t : Session) (invocation : ToolInvocation) :
    (prepare rt x input).run s = .ok invocation t ↔
      FilledIn input ∧ action x input ≠ .block ∧ prepared rt x input s = some t ∧
        reviewed rt x input = invocation := by
  simp only [prepare, run_bind_eq_ok, startRun_eq_ok, assemblePrompt_eq_ok, advance_eq_ok,
    prepared, Option.bind_eq_some_iff]
  constructor
  · rintro ⟨-, s₁, hstart, -, _, ⟨⟨htask, hrun, hrequest⟩, rfl⟩, -, s₂, hadvance, hsafety⟩
    obtain ⟨⟨-, hmodel⟩, hgo, hreview, rfl⟩ :=
      (approvalSafety_eq_ok rt x input hrun s₂ t invocation).mp hsafety
    exact ⟨⟨htask, hrun, hrequest, hmodel⟩, hgo, ⟨s₁, hstart, s₂, hadvance, hreview⟩, rfl⟩
  · rintro ⟨⟨htask, hrun, hrequest, hmodel⟩, hgo, ⟨s₁, hstart, s₂, hadvance, hreview⟩, rfl⟩
    have hsafety := (approvalSafety_eq_ok rt x input hrun s₂ t _).mpr
      ⟨⟨htask, hmodel⟩, hgo, hreview, rfl⟩
    exact ⟨(), s₁, hstart, (), s₁.recording (promptStep rt), ⟨⟨htask, hrun, hrequest⟩, rfl⟩,
      (), s₂, hadvance, hsafety⟩

/-- Before the back end, a run returns either with an error that says something,
when the driver turned an event down, or after a review that blocks. -/
theorem prepare_eq_returns {s t : Session} {error : Option String}
    (h : (prepare rt x input).run s = .error (.returns error) t) :
    ((∃ msg, error = some msg ∧ msg ≠ "") ∧ prepared rt x input s = none) ∨
      (error = none ∧ FilledIn input ∧ action x input = .block ∧
        prepared rt x input s = some t) := by
  have hfailure : ∀ {p : RunM Unit} {m t' : Session}, Exits IsFailure p →
      p.run m = .error (.returns error) t' → ∃ msg, error = some msg ∧ msg ≠ "" := by
    intro p m t' hp hrun
    rcases hp m _ t' hrun with ⟨ex, hex⟩ | ⟨msg, hmsg, hne⟩
    · simp at hex
    · exact ⟨msg, Exit.returns.inj hmsg, hne⟩
  rcases (run_bind_eq_error _ _ _ s t).mp h with hstart | ⟨_, s₁, hstart, h₁⟩
  · refine .inl ⟨hfailure (exits_startRun rt) hstart, ?_⟩
    have hfollow := (startRun_eq_ok rt s · ())
    simp only [hstart, reduceCtorEq, false_iff] at hfollow
    rw [prepared, Option.eq_none_iff_forall_ne_some.mpr hfollow, Option.bind_none]
  · obtain ⟨_, s', hassemble, h₂⟩ :=
      (run_bind_eq_returns (exits_assemblePrompt rt input) _ error s₁ t).mp h₁
    obtain ⟨⟨htask, hrun, hrequest⟩, rfl⟩ := (assemblePrompt_eq_ok rt input s₁ s' ()).mp hassemble
    rcases (run_bind_eq_error _ _ _ _ t).mp h₂ with hadvance | ⟨_, s₂, hadvance, h₃⟩
    · refine .inl ⟨hfailure (exits_advance rt) hadvance, ?_⟩
      have hfollow := (advance_eq_ok rt (s₁.recording (promptStep rt)) · ())
      simp only [hadvance, reduceCtorEq, false_iff] at hfollow
      rw [prepared, (startRun_eq_ok rt s s₁ ()).mp hstart, Option.bind_some,
        Option.eq_none_iff_forall_ne_some.mpr hfollow, Option.bind_none]
    · right
      obtain ⟨⟨-, hmodel⟩, hblock, hreview, hnone⟩ :=
        (approvalSafety_eq_returns rt x input hrun s₂ t error).mp h₃
      refine ⟨hnone, ⟨htask, hrun, hrequest, hmodel⟩, hblock, ?_⟩
      simp only [prepared, Option.bind_eq_some_iff]
      exact ⟨s₁, (startRun_eq_ok rt s s₁ ()).mp hstart, s₂,
        (advance_eq_ok rt _ s₂ ()).mp hadvance, hreview⟩

theorem prepare_blocked {s t : Session} (hfilled : FilledIn input)
    (hblock : action x input = .block) (hprepared : prepared rt x input s = some t) :
    (prepare rt x input).run s = .error (.returns none) t := by
  simp only [prepared, Option.bind_eq_some_iff] at hprepared
  obtain ⟨s₁, hstart, s₂, hadvance, hreview⟩ := hprepared
  refine (run_bind_eq_error _ _ _ s t).mpr (.inr ⟨(), s₁, ?_, ?_⟩)
  · exact (startRun_eq_ok rt s s₁ ()).mpr hstart
  · refine (run_bind_eq_error _ _ _ s₁ t).mpr (.inr ⟨(), s₁.recording (promptStep rt), ?_, ?_⟩)
    · exact (assemblePrompt_eq_ok rt input s₁ _ ()).mpr
        ⟨⟨hfilled.taskId, hfilled.runId, hfilled.userRequest⟩, rfl⟩
    · refine (run_bind_eq_error _ _ _ _ t).mpr (.inr ⟨(), s₂, ?_, ?_⟩)
      · exact (advance_eq_ok rt _ s₂ ()).mpr hadvance
      · exact (approvalSafety_eq_returns rt x input hfilled.runId s₂ t none).mpr
          ⟨⟨hfilled.taskId, hfilled.modelName⟩, hblock, hreview, rfl⟩

end Preparation

section Outcome

/-- The events of a run up to the back end. -/
def route (a : SafetyAction) : List (RunEvent × GuardResults) :=
  [(.startRun, [])] ++ (advanceEvents ++ reviewEvents a)

theorem map_state_bind {m : OrchestrationStateMachine} {start : RunState}
    {events events' : List (RunEvent × GuardResults)} {o : Option Session}
    {f : Session → Option Session} (ho : o.map state = m.walk start events)
    (hf : ∀ s, o = some s → (f s).map state = m.walk (state s) events') :
    (o.bind f).map state = m.walk start (events ++ events') := by
  rw [OrchestrationStateMachine.walk_append, ← ho]
  rcases o with _ | s
  · rfl
  · exact hf s rfl

theorem map_state_review (s : Session) :
    (review rt x input s).map state =
      s.driver.machine.walk (state s) (reviewEvents (action x input)) := by
  unfold review
  cases action x input with
  | block =>
      rw [Option.map_map]
      exact map_state_follow rt s _
  | requireApproval =>
      refine map_state_bind (map_state_follow rt s [(.approvalRequired, [])]) ?_
      intro t ht
      rw [map_state_follow]
      change t.driver.machine.walk _ _ = _
      rw [(follow_keeps rt ht).1]
      rfl
  | allow =>
      rw [Option.map_map]
      exact map_state_follow rt s _

theorem map_state_prepared (s : Session) :
    (prepared rt x input s).map state =
      s.driver.machine.walk (state s) (route (action x input)) := by
  refine map_state_bind (map_state_follow rt s [(.startRun, [])]) ?_
  intro s₁ h₁
  have hmachine₁ := (follow_keeps rt h₁).1
  rw [← hmachine₁]
  refine map_state_bind (map_state_follow rt (s₁.recording (promptStep rt)) advanceEvents) ?_
  intro s₂ h₂
  have hmachine₂ := (follow_keeps rt h₂).1
  rw [map_state_review]
  change s₂.driver.machine.walk _ _ = _
  rw [hmachine₂]
  rfl

theorem isSome_prepared_iff (s : Session) :
    (prepared rt x input s).isSome ↔
      (s.driver.machine.walk (state s) (route (action x input))).isSome := by
  rw [← map_state_prepared rt x input s, Option.isSome_map]

structure Prepared (s t : Session) : Prop where
  machine : t.driver.machine = s.driver.machine
  stepResults : t.stepResults = s.stepResults ++ [promptStep rt, reviewStep rt x input]
  invocation : t.invocation = some (reviewed rt x input)
  calls : calls t = calls s
  history : t.driver.history.map (·.event) =
    s.driver.history.map (·.event) ++ (route (action x input)).map (·.1)

/-- A review that nobody is asked about records its step after the events. -/
theorem unasked_keeps {s t : Session} {a : SafetyAction} (haction : action x input = a)
    (hno : a ≠ .requireApproval)
    (h : (follow rt s (reviewEvents a)).map (·.recording (reviewStep rt x input)) = some t)
    (hs : s.invocation = some (requested rt x input)) :
    t.driver.machine = s.driver.machine ∧
      t.stepResults = s.stepResults ++ [reviewStep rt x input] ∧
      t.invocation = some (reviewed rt x input) ∧ calls t = calls s ∧
      t.driver.history.map (·.event) =
        s.driver.history.map (·.event) ++ (reviewEvents a).map (·.1) := by
  obtain ⟨s₁, hfollow, rfl⟩ := Option.map_eq_some_iff.mp h
  obtain ⟨hmachine, hsteps, hinvocation, hcalls, hhistory⟩ := follow_keeps rt hfollow
  refine ⟨hmachine, congrArg (· ++ [_]) hsteps, ?_, hcalls, hhistory⟩
  rw [reviewed_of_ne rt x input (haction ▸ hno)]
  exact hinvocation.trans hs

theorem review_keeps {s t : Session} (h : review rt x input s = some t)
    (hs : s.invocation = some (requested rt x input)) :
    t.driver.machine = s.driver.machine ∧
      t.stepResults = s.stepResults ++ [reviewStep rt x input] ∧
      t.invocation = some (reviewed rt x input) ∧ calls t = calls s ∧
      t.driver.history.map (·.event) =
        s.driver.history.map (·.event) ++ (reviewEvents (action x input)).map (·.1) := by
  unfold review at h
  cases haction : action x input with
  | block =>
      simp only [haction] at h
      exact unasked_keeps rt x input haction (by decide) h hs
  | requireApproval =>
      simp only [haction, Option.bind_eq_some_iff] at h
      obtain ⟨s₁, hrequired, hgranted⟩ := h
      obtain ⟨hmachine, hsteps, -, hcalls, hhistory⟩ := follow_keeps rt hrequired
      obtain ⟨hmachine', hsteps', hinvocation', hcalls', hhistory'⟩ := follow_keeps rt hgranted
      refine ⟨hmachine'.trans hmachine, ?_, hinvocation', hcalls'.trans hcalls, ?_⟩
      · rw [hsteps', ← hsteps]
        rfl
      · rw [hhistory']
        change s₁.driver.history.map _ ++ _ = _
        rw [hhistory]
        simp [reviewEvents]
  | allow =>
      simp only [haction] at h
      exact unasked_keeps rt x input haction (by decide) h hs

theorem prepared_keeps {s t : Session} (h : prepared rt x input s = some t) :
    Prepared rt x input s t := by
  simp only [prepared, Option.bind_eq_some_iff] at h
  obtain ⟨s₁, hstart, s₂, hadvance, hreview⟩ := h
  obtain ⟨hmachine₁, hsteps₁, -, hcalls₁, hhistory₁⟩ := follow_keeps rt hstart
  obtain ⟨hmachine₂, hsteps₂, -, hcalls₂, hhistory₂⟩ := follow_keeps rt hadvance
  obtain ⟨hmachine₃, hsteps₃, hinvocation, hcalls₃, hhistory₃⟩ :=
    review_keeps rt x input hreview rfl
  constructor
  · exact hmachine₃.trans (hmachine₂.trans hmachine₁)
  · rw [hsteps₃]
    change s₂.stepResults ++ _ = _
    rw [hsteps₂, ← hsteps₁]
    simp [Session.recording]
  · exact hinvocation
  · exact hcalls₃.trans (hcalls₂.trans hcalls₁)
  · rw [hhistory₃]
    change s₂.driver.history.map _ ++ _ = _
    rw [hhistory₂]
    change s₁.driver.history.map _ ++ _ ++ _ = _
    rw [hhistory₁]
    simp [route]

end Outcome

end NovaHarness.PipelinePhases
