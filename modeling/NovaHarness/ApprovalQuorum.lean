import NovaHarness.RiskApprovalSchema

namespace NovaHarness.ApprovalQuorum

open NovaHarness.Text
open NovaHarness.RecordValidation
open NovaHarness.RiskApprovalSchema

section Validated

theorem one_le_requiredApproverCount {raw req : ApprovalRequirementRecord}
    (h : raw.validate = .ok req) : 1 ≤ req.requiredApproverCount := by
  simp only [ApprovalRequirementRecord.validate, fields_eq_ok, List.append_eq_nil_iff,
    atLeast_eq_nil] at h
  obtain ⟨⟨-, hcount⟩, rfl⟩ := h
  exact hcount

/-- An approved record names an approver and gives a reason. -/
theorem signed_of_approved {raw record : HumanApprovalRecord} (h : raw.validate = .ok record)
    (happroved : record.approvalStatus = .approved) :
    (∃ approver, record.approverRef = some approver ∧ approver ≠ "") ∧
      ∃ notes, record.decisionNotes = some notes ∧ notes ≠ "" := by
  simp only [HumanApprovalRecord.validate, bind_eq_ok, whenever_eq_ok, requireText_eq_ok,
    pure_eq_ok] at h
  obtain ⟨checked, -, _, hsigned, rfl⟩ := h
  obtain ⟨_, happrover, hnotes⟩ := hsigned (by simp [happroved])
  exact ⟨happrover, hnotes⟩

end Validated

section Quorum

variable (envelope : RiskEscalationApprovalEnvelope)

/-- The approved records that are about the envelope's own requirement. -/
def countingRecords : List HumanApprovalRecord :=
  envelope.approvedRecords.filter fun r =>
    ∀ req ∈ envelope.approvalRequirement, r.approvalRequirementId = req.approvalRequirementId

def distinctApprovers (records : List HumanApprovalRecord) : Finset (Option String) :=
  (records.map (·.approverRef)).toFinset

/-- Execution goes on only with as many different approvers as are required. -/
def Quorum : Prop :=
  envelope.requiresHumanApproval →
    envelope.disposition = some .proceed ∨ envelope.disposition = some .proceedWithConstraints →
      envelope.needed ≤ (distinctApprovers (countingRecords envelope)).card

instance : Decidable (Quorum envelope) :=
  inferInstanceAs (Decidable (_ → _ → _))

end Quorum

section Accepted

variable (envelope : Accepted RiskEscalationApprovalEnvelope)

theorem one_le_needed : 1 ≤ envelope.1.needed := by
  unfold RiskEscalationApprovalEnvelope.needed
  rcases hsome : envelope.1.approvalRequirement with _ | req
  · exact le_refl 1
  · obtain ⟨raw, hvalid⟩ := (RiskEscalationApprovalEnvelope.checked envelope).requirement req hsome
    exact one_le_requiredApproverCount hvalid

theorem signed {r : HumanApprovalRecord} (hr : r ∈ envelope.1.approvedRecords) :
    (∃ approver, r.approverRef = some approver ∧ approver ≠ "") ∧
      ∃ notes, r.decisionNotes = some notes ∧ notes ≠ "" := by
  obtain ⟨hr, happroved⟩ := List.mem_filter.mp hr
  obtain ⟨raw, hvalid⟩ := (RiskEscalationApprovalEnvelope.checked envelope).records r hr
  exact signed_of_approved hvalid (by simpa using happroved)

/-- What proceeding under such a policy rests on: enough approved records, each
signed, so at least one approver.  Only where the records name different
approvers and are all about the requirement do they add up to a quorum. -/
theorem approved_to_proceed (hrequires : envelope.1.requiresHumanApproval)
    (hproceed : envelope.1.disposition = some .proceed) :
    1 ≤ envelope.1.needed ∧
      envelope.1.needed ≤ envelope.1.approvedRecords.length ∧
      (∀ r ∈ envelope.1.approvedRecords,
        (∃ approver, r.approverRef = some approver ∧ approver ≠ "") ∧
          ∃ notes, r.decisionNotes = some notes ∧ notes ≠ "") ∧
      1 ≤ (distinctApprovers envelope.1.approvedRecords).card ∧
      ((envelope.1.approvedRecords.map (·.approverRef)).Nodup →
        (∀ req ∈ envelope.1.approvalRequirement, ∀ r ∈ envelope.1.approvedRecords,
          r.approvalRequirementId = req.approvalRequirementId) →
        envelope.1.needed ≤ (distinctApprovers (countingRecords envelope.1)).card) := by
  have hone := one_le_needed envelope
  have hcount :=
    (RiskEscalationApprovalEnvelope.checked envelope).autoProceed hrequires hproceed
  refine ⟨hone, hcount, fun r => signed envelope, ?_, ?_⟩
  · have hne : envelope.1.approvedRecords ≠ [] := by
      apply List.ne_nil_of_length_pos
      omega
    obtain ⟨r, hr⟩ := List.exists_mem_of_ne_nil _ hne
    rw [Nat.one_le_iff_ne_zero, ne_eq, Finset.card_eq_zero]
    apply Finset.ne_empty_of_mem
    exact List.mem_toFinset.mpr (List.mem_map_of_mem hr)
  · intro hnodup habout
    have hall : countingRecords envelope.1 = envelope.1.approvedRecords := by
      apply List.filter_eq_self.mpr
      intro r hr
      simpa using fun req hreq => habout req hreq r hr
    rw [hall, distinctApprovers, List.toFinset_card_of_nodup hnodup, List.length_map]
    exact hcount

end Accepted

section Envelopes

def policyRequiringApproval : RiskThresholdPolicy where
  thresholdPolicyId := "tp-001"
  minimumRiskLevel := .high
  requiresHumanApproval := true

def approvalBy (approver requirement : String) : HumanApprovalRecord where
  approvalId := "ha-001"
  approvalRequirementId := requirement
  approverRef := some approver
  approvalStatus := .approved
  decisionNotes := some "Reviewed."

def decisionTo (disposition : EscalationDisposition) : EscalationDecisionRecord where
  decisionId := "ed-001"
  escalationRequestId := "er-001"
  approvalStatus := .approved
  escalationDisposition := disposition
  finalDeciderRef := some "user-alpha"
  decisionReason := some "Looks fine"
  resumeConstraints := ["monitor closely"]

/-- Two approvers are required. -/
def envelopeWith (records : List HumanApprovalRecord) (disposition : EscalationDisposition) :
    RiskEscalationApprovalEnvelope where
  envelopeId := "env-risk-001"
  riskAssessment := { riskAssessmentId := "ra-001", scopeRef := "task-001", riskScore := 75 }
  thresholdPolicy := some policyRequiringApproval
  approvalRequirement := some
    { approvalRequirementId := "ar-001"
      escalationRequestId := "er-001"
      requiredApproverCount := 2 }
  approvalRecords := records
  decision := some (decisionTo disposition)

def approvedTwice : Accepted RiskEscalationApprovalEnvelope :=
  build
    (envelopeWith [approvalBy "user-alpha" "ar-001", approvalBy "user-alpha" "ar-001"] .proceed)
    (by decide)

def approvedElsewhere : Accepted RiskEscalationApprovalEnvelope :=
  build
    (envelopeWith [approvalBy "user-alpha" "ar-001", approvalBy "user-beta" "ar-002"] .proceed)
    (by decide)

def approvedByTwo : Accepted RiskEscalationApprovalEnvelope :=
  build
    (envelopeWith [approvalBy "user-alpha" "ar-001", approvalBy "user-beta" "ar-001"] .proceed)
    (by decide)

def constrainedUnapproved : Accepted RiskEscalationApprovalEnvelope :=
  build (envelopeWith [] .proceedWithConstraints) (by decide)

theorem approved_to_proceed_approvedByTwo :
    approvedByTwo.1.needed ≤ approvedByTwo.1.approvedRecords.length ∧
      approvedByTwo.1.needed ≤ (distinctApprovers (countingRecords approvedByTwo.1)).card :=
  have h := approved_to_proceed approvedByTwo (by decide) (by decide)
  ⟨h.2.1, h.2.2.2.2 (by decide) (by decide)⟩

/-- Nothing makes the approvers differ, the records be about the requirement,
or proceeding under constraints wait for any record. -/
theorem no_quorum :
    ¬ Quorum approvedTwice.1 ∧ ¬ Quorum approvedElsewhere.1 ∧
      ¬ Quorum constrainedUnapproved.1 := by
  decide

end Envelopes

end NovaHarness.ApprovalQuorum
