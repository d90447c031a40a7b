import NovaHarness.RecordValidation

namespace NovaHarness.ApprovalSafetySchema

open NovaHarness.Text
open NovaHarness.RecordValidation

inductive RiskLevel where
  | low
  | medium
  | high
  | critical
  deriving DecidableEq, Repr

def RiskLevel.value : RiskLevel → String
  | .low => "low"
  | .medium => "medium"
  | .high => "high"
  | .critical => "critical"

inductive SafetyAction where
  | allow
  | requireApproval
  | block
  deriving DecidableEq, Repr

inductive ResourceType where
  | filesystem
  | network
  | secret
  | process
  | externalSideEffect
  deriving DecidableEq, Repr

structure ApprovalRequirement where
  requireHuman : Bool := false
  approverRole : Option String := none
  reasonRequired : Bool := true
  expiresInSeconds : Option Int := none
  deriving DecidableEq, Repr

def ApprovalRequirement.validate (raw : ApprovalRequirement) : Validated ApprovalRequirement :=
  fields
    (check "expires_in_seconds" "expires_in_seconds must be positive"
      (∀ n ∈ raw.expiresInSeconds, 0 < n))
    raw

structure ActionRiskRule where
  ruleId : String
  actionName : String
  resourceType : ResourceType
  riskLevel : RiskLevel
  safetyAction : SafetyAction
  rationale : String
  allowedPathPrefixes : List String := []
  allowedHosts : List String := []
  allowedSecretNames : List String := []
  approvalRequirement : Option ApprovalRequirement := none
  deriving DecidableEq, Repr

namespace ActionRiskRule

def normalized (raw : ActionRiskRule) : ActionRiskRule :=
  { raw with
    ruleId := strip raw.ruleId
    actionName := strip raw.actionName
    rationale := strip raw.rationale }

def validate (raw : ActionRiskRule) : Validated ActionRiskRule := do
  let rule ← fields
    (nonBlank "rule_id" "must not be empty" raw.ruleId ++
      nonBlank "action_name" "must not be empty" raw.actionName ++
      nonBlank "rationale" "must not be empty" raw.rationale ++
      raw.approvalRequirement.toList.flatMap fun a =>
        errorsUnder "approval_requirement" a.validate)
    raw.normalized
  require (rule.safetyAction = .requireApproval → rule.approvalRequirement ≠ none)
    "approval_requirement is required when safety_action is REQUIRE_APPROVAL"
  require (rule.resourceType = .network → rule.safetyAction = .allow → rule.allowedHosts ≠ [])
    "network ALLOW rules must specify allowed_hosts"
  require (rule.resourceType = .secret → rule.allowedSecretNames ≠ [])
    "secret access rules must specify allowed_secret_names"
  return rule

end ActionRiskRule

structure SafetyDecision where
  decisionId : String
  runId : String
  actionName : String
  riskLevel : RiskLevel
  safetyAction : SafetyAction
  approved : Option Bool := none
  approverId : Option String := none
  decisionReason : String
  deriving DecidableEq, Repr

namespace SafetyDecision

def normalized (raw : SafetyDecision) : SafetyDecision :=
  { raw with
    decisionId := strip raw.decisionId
    runId := strip raw.runId
    actionName := strip raw.actionName
    decisionReason := strip raw.decisionReason }

def validate (raw : SafetyDecision) : Validated SafetyDecision := do
  let decision ← fields
    (nonBlank "decision_id" "must not be empty" raw.decisionId ++
      nonBlank "run_id" "must not be empty" raw.runId ++
      nonBlank "action_name" "must not be empty" raw.actionName ++
      nonBlank "decision_reason" "must not be empty" raw.decisionReason)
    raw.normalized
  require (decision.approved = some true → decision.approverId.getD "" ≠ "")
    "approver_id is required when approved is True"
  require (¬ (decision.safetyAction = .block ∧ decision.approved = some true))
    "cannot override BLOCK safety action with approved=True"
  return decision

theorem validate_eq_ok (raw decision : SafetyDecision) :
    raw.validate = .ok decision ↔
      (¬ IsBlank raw.decisionId ∧ ¬ IsBlank raw.runId ∧ ¬ IsBlank raw.actionName ∧
        ¬ IsBlank raw.decisionReason) ∧
      (raw.approved = some true → raw.approverId.getD "" ≠ "") ∧
      ¬ (raw.safetyAction = .block ∧ raw.approved = some true) ∧
      raw.normalized = decision := by
  simp only [validate, normalized, bind_eq_ok, fields_eq_ok, require_eq_ok, pure_eq_ok,
    List.append_eq_nil_iff, nonBlank_eq_nil]
  constructor
  · rintro ⟨_, ⟨⟨⟨⟨hid, hrun⟩, haction⟩, hreason⟩, rfl⟩, _, happrover, _, hblock, rfl⟩
    exact ⟨⟨hid, hrun, haction, hreason⟩, happrover, hblock, rfl⟩
  · rintro ⟨⟨hid, hrun, haction, hreason⟩, happrover, hblock, rfl⟩
    exact ⟨_, ⟨⟨⟨⟨hid, hrun⟩, haction⟩, hreason⟩, rfl⟩, (), happrover, (), hblock, rfl⟩

end SafetyDecision

structure ApprovalSafetyPolicy where
  policyId : String
  rules : List ActionRiskRule := []
  deriving DecidableEq, Repr

namespace ApprovalSafetyPolicy

def normalized (raw : ApprovalSafetyPolicy) : ApprovalSafetyPolicy where
  policyId := strip raw.policyId
  rules := listValues ActionRiskRule.validate raw.rules

def validate (raw : ApprovalSafetyPolicy) : Validated ApprovalSafetyPolicy := do
  let policy ← fields
    (nonBlank "policy_id" "policy_id must not be empty" raw.policyId ++
      listErrors "rules" ActionRiskRule.validate raw.rules)
    raw.normalized
  require (firstRepeat [] (policy.rules.map (·.ruleId)) = none)
    ("duplicate rule_id: " ++ (firstRepeat [] (policy.rules.map (·.ruleId))).getD "")
  return policy

instance : Schema ApprovalSafetyPolicy := ⟨fun _ => validate⟩

end ApprovalSafetyPolicy

/-- A policy with rules for the default tool only, given by their ids and actions. -/
def mockToolPolicy (rules : List (String × SafetyAction)) : ApprovalSafetyPolicy where
  policyId := "mock-tool"
  rules := rules.map fun r =>
    { ruleId := r.1
      actionName := "mock_tool"
      resourceType := .filesystem
      riskLevel := .critical
      safetyAction := r.2
      rationale := "testing"
      approvalRequirement := some {} }

end NovaHarness.ApprovalSafetySchema
