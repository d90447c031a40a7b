import Mathlib.Algebra.Order.Ring.Rat
import Mathlib.Data.Finset.Card
import NovaHarness.RecordValidation

/-!
The envelope in which a risk is assessed, escalated, approved by humans and
decided.  Scores are exact; times are not looked at by any validator.
-/

namespace NovaHarness.RiskApprovalSchema

open NovaHarness.Text
open NovaHarness.RecordValidation

inductive RiskLevel where
  | low
  | medium
  | high
  | critical
  deriving DecidableEq, Repr

inductive ApprovalStatus where
  | notRequired
  | pending
  | approved
  | rejected
  | timedOut
  | withdrawn
  deriving DecidableEq, Repr

inductive EscalationDisposition where
  | proceed
  | proceedWithConstraints
  | pauseForReview
  | returnForRework
  | reject
  | escalateFurther
  deriving DecidableEq, Repr

/-- `Field(ge=0.0, le=100.0)`. -/
def percentage (loc : String) (value : ℚ) : List FieldError :=
  atLeast loc "0" 0 value ++ atMost loc "100" 100 value

structure RiskAssessmentRecord where
  riskAssessmentId : String
  scopeRef : String
  riskScore : ℚ := 0
  uncertaintyScore : ℚ := 0
  deriving DecidableEq, Repr

def RiskAssessmentRecord.validate (raw : RiskAssessmentRecord) : Validated RiskAssessmentRecord :=
  fields
    (idField "risk_assessment_id" "risk_assessment_id must not be blank" raw.riskAssessmentId ++
      idField "scope_ref" "scope_ref must not be blank" raw.scopeRef ++
      percentage "risk_score" raw.riskScore ++
      percentage "uncertainty_score" raw.uncertaintyScore)
    { raw with
      riskAssessmentId := strip raw.riskAssessmentId
      scopeRef := strip raw.scopeRef }

structure RiskThresholdPolicy where
  thresholdPolicyId : String
  minimumRiskLevel : RiskLevel
  minimumRiskScore : ℚ := 0
  uncertaintyThreshold : ℚ := 50
  requiresHumanApproval : Bool := false
  defaultDisposition : Option EscalationDisposition := none
  timeoutSlaSeconds : Option Int := none
  deriving DecidableEq, Repr

def RiskThresholdPolicy.validate (raw : RiskThresholdPolicy) : Validated RiskThresholdPolicy := do
  let policy ← fields
    (idField "threshold_policy_id" "threshold_policy_id must not be blank" raw.thresholdPolicyId ++
      percentage "minimum_risk_score" raw.minimumRiskScore ++
      percentage "uncertainty_threshold" raw.uncertaintyThreshold ++
      optionAtLeast "timeout_sla_seconds" "0" 0 raw.timeoutSlaSeconds)
    { raw with thresholdPolicyId := strip raw.thresholdPolicyId }
  require (policy.requiresHumanApproval = true → policy.defaultDisposition ≠ some .proceed)
    "requires_human_approval=True cannot have default_disposition=proceed"
  require (policy.minimumRiskLevel ∈ [.high, .critical] → policy.requiresHumanApproval = true)
    "minimum_risk_level high/critical requires requires_human_approval=True"
  return policy

structure EscalationRequestRecord where
  escalationRequestId : String
  scopeRef : String
  summary : String
  deriving DecidableEq, Repr

def EscalationRequestRecord.validate (raw : EscalationRequestRecord) :
    Validated EscalationRequestRecord :=
  fields
    (idField "escalation_request_id" "escalation_request_id must not be blank"
        raw.escalationRequestId ++
      idField "scope_ref" "scope_ref must not be blank" raw.scopeRef ++
      idField "summary" "summary must not be blank" raw.summary)
    { escalationRequestId := strip raw.escalationRequestId
      scopeRef := strip raw.scopeRef
      summary := strip raw.summary }

structure ApprovalRequirementRecord where
  approvalRequirementId : String
  escalationRequestId : String
  requiredApproverCount : Int := 1
  deriving DecidableEq, Repr

def ApprovalRequirementRecord.validate (raw : ApprovalRequirementRecord) :
    Validated ApprovalRequirementRecord :=
  fields
    (idField "approval_requirement_id" "approval_requirement_id must not be blank"
        raw.approvalRequirementId ++
      idField "escalation_request_id" "escalation_request_id must not be blank"
        raw.escalationRequestId ++
      atLeast "required_approver_count" "1" 1 raw.requiredApproverCount)
    { raw with
      approvalRequirementId := strip raw.approvalRequirementId
      escalationRequestId := strip raw.escalationRequestId }

structure HumanApprovalRecord where
  approvalId : String
  approvalRequirementId : String
  approverRef : Option String := none
  approvalStatus : ApprovalStatus
  decisionNotes : Option String := none
  deriving DecidableEq, Repr

def HumanApprovalRecord.validate (raw : HumanApprovalRecord) : Validated HumanApprovalRecord := do
  let record ← fields
    (idField "approval_id" "approval_id must not be blank" raw.approvalId ++
      idField "approval_requirement_id" "approval_requirement_id must not be blank"
        raw.approvalRequirementId)
    { raw with
      approvalId := strip raw.approvalId
      approvalRequirementId := strip raw.approvalRequirementId }
  whenever (record.approvalStatus ∈ [.approved, .rejected]) do
    requireText record.approverRef "approved/rejected requires approver_ref"
    requireText record.decisionNotes "approved/rejected requires decision_notes"
  return record

structure EscalationPathRecord where
  pathId : String
  escalationRequestId : String
  escalationOrder : Int := 0
  autoEscalateOnTimeout : Bool := false
  nextTimeoutSlaSeconds : Option Int := none
  deriving DecidableEq, Repr

def EscalationPathRecord.validate (raw : EscalationPathRecord) :
    Validated EscalationPathRecord := do
  let path ← fields
    (idField "path_id" "path_id must not be blank" raw.pathId ++
      idField "escalation_request_id" "escalation_request_id must not be blank"
        raw.escalationRequestId ++
      atLeast "escalation_order" "0" 0 raw.escalationOrder ++
      optionAtLeast "next_timeout_sla_seconds" "0" 0 raw.nextTimeoutSlaSeconds)
    { raw with
      pathId := strip raw.pathId
      escalationRequestId := strip raw.escalationRequestId }
  require (path.autoEscalateOnTimeout = true → path.nextTimeoutSlaSeconds ≠ none)
    "auto_escalate_on_timeout requires next_timeout_sla_seconds"
  return path

structure EscalationDecisionRecord where
  decisionId : String
  escalationRequestId : String
  approvalStatus : ApprovalStatus
  escalationDisposition : EscalationDisposition
  finalDeciderRef : Option String := none
  decisionReason : Option String := none
  resumeConstraints : List String := []
  deriving DecidableEq, Repr

def EscalationDecisionRecord.validate (raw : EscalationDecisionRecord) :
    Validated EscalationDecisionRecord := do
  let decision ← fields
    (idField "decision_id" "decision_id must not be blank" raw.decisionId ++
      idField "escalation_request_id" "escalation_request_id must not be blank"
        raw.escalationRequestId)
    { raw with
      decisionId := strip raw.decisionId
      escalationRequestId := strip raw.escalationRequestId }
  whenever (decision.approvalStatus ∈ [.approved, .rejected]) do
    requireText decision.finalDeciderRef "approved/rejected requires final_decider_ref"
    requireText decision.decisionReason "approved/rejected requires decision_reason"
  require
    (decision.escalationDisposition = .proceedWithConstraints → decision.resumeConstraints ≠ [])
    "proceed_with_constraints requires resume_constraints"
  return decision

structure RiskEscalationApprovalEnvelope where
  envelopeId : String
  riskAssessment : RiskAssessmentRecord
  thresholdPolicy : Option RiskThresholdPolicy := none
  escalationRequest : Option EscalationRequestRecord := none
  approvalRequirement : Option ApprovalRequirementRecord := none
  approvalRecords : List HumanApprovalRecord := []
  escalationPath : Option EscalationPathRecord := none
  decision : Option EscalationDecisionRecord := none
  deriving DecidableEq, Repr

namespace RiskEscalationApprovalEnvelope

variable (envelope : RiskEscalationApprovalEnvelope)

def requiresHumanApproval : Prop :=
  ∃ policy ∈ envelope.thresholdPolicy, policy.requiresHumanApproval = true

instance : Decidable envelope.requiresHumanApproval :=
  inferInstanceAs (Decidable (∃ policy ∈ envelope.thresholdPolicy, _))

def disposition : Option EscalationDisposition :=
  envelope.decision.map (·.escalationDisposition)

def approvedRecords : List HumanApprovalRecord :=
  envelope.approvalRecords.filter fun r => r.approvalStatus = .approved

/-- `req.required_approver_count if req else 1`. -/
def needed : Int :=
  match envelope.approvalRequirement with
  | some req => req.requiredApproverCount
  | none => 1

def normalized (raw : RiskEscalationApprovalEnvelope) : RiskEscalationApprovalEnvelope where
  envelopeId := strip raw.envelopeId
  riskAssessment := valueD raw.riskAssessment.validate raw.riskAssessment
  thresholdPolicy := optionValue RiskThresholdPolicy.validate raw.thresholdPolicy
  escalationRequest := optionValue EscalationRequestRecord.validate raw.escalationRequest
  approvalRequirement := optionValue ApprovalRequirementRecord.validate raw.approvalRequirement
  approvalRecords := listValues HumanApprovalRecord.validate raw.approvalRecords
  escalationPath := optionValue EscalationPathRecord.validate raw.escalationPath
  decision := optionValue EscalationDecisionRecord.validate raw.decision

def validate (raw : RiskEscalationApprovalEnvelope) :
    Validated RiskEscalationApprovalEnvelope := do
  let envelope ← fields
    (idField "envelope_id" "envelope_id must not be blank" raw.envelopeId ++
      errorsUnder "risk_assessment" raw.riskAssessment.validate ++
      optionErrors "threshold_policy" RiskThresholdPolicy.validate raw.thresholdPolicy ++
      optionErrors "escalation_request" EscalationRequestRecord.validate raw.escalationRequest ++
      optionErrors "approval_requirement" ApprovalRequirementRecord.validate
        raw.approvalRequirement ++
      listErrors "approval_records" HumanApprovalRecord.validate raw.approvalRecords ++
      optionErrors "escalation_path" EscalationPathRecord.validate raw.escalationPath ++
      optionErrors "decision" EscalationDecisionRecord.validate raw.decision)
    raw.normalized
  require
    (envelope.requiresHumanApproval → envelope.disposition = some .proceed →
      ¬ (envelope.approvedRecords.length : Int) < envelope.needed)
    "requires_human_approval=True but insufficient approved records to proceed"
  require
    ((∃ r ∈ envelope.approvalRecords, r.approvalStatus = .timedOut) →
      envelope.escalationPath ≠ none)
    "timed_out approval requires escalation_path"
  -- the validator for parallel approval only looks and complains about nothing
  return envelope

instance : Schema RiskEscalationApprovalEnvelope := ⟨fun _ => validate⟩

/-- What an accepted envelope has been checked for, as far as approvals go. -/
structure Checked : Prop where
  requirement : ∀ req ∈ envelope.approvalRequirement,
    ∃ raw : ApprovalRequirementRecord, raw.validate = .ok req
  records : ∀ r ∈ envelope.approvalRecords, ∃ raw : HumanApprovalRecord, raw.validate = .ok r
  autoProceed : envelope.requiresHumanApproval → envelope.disposition = some .proceed →
    envelope.needed ≤ envelope.approvedRecords.length

theorem checked (envelope : Accepted RiskEscalationApprovalEnvelope) : envelope.1.Checked := by
  obtain ⟨tables, raw, h⟩ := envelope.2
  change raw.validate = .ok envelope.1 at h
  simp only [validate, bind_eq_ok, fields_eq_ok, List.append_eq_nil_iff, optionErrors_eq_nil,
    listErrors_eq_nil, require_eq_ok, pure_eq_ok] at h
  obtain ⟨_, ⟨⟨⟨⟨⟨-, hreq⟩, hrecords⟩, -⟩, -⟩, hnormal⟩, _, hcount, _, -, rfl⟩ := h
  refine ⟨fun req hmem => ?_, fun r hmem => ?_, fun hrequires hproceed => ?_⟩
  · rw [← hnormal] at hmem
    obtain ⟨rawReq, -, hvalid⟩ := exists_of_mem_optionValue hreq hmem
    exact ⟨rawReq, hvalid⟩
  · rw [← hnormal] at hmem
    obtain ⟨rawRecord, -, hvalid⟩ := exists_of_mem_listValues hrecords hmem
    exact ⟨rawRecord, hvalid⟩
  · exact Int.not_lt.mp (hcount hrequires hproceed)

end RiskEscalationApprovalEnvelope

end NovaHarness.RiskApprovalSchema
