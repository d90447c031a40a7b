import NovaHarness.RecordValidation

/-!
Approval by humans: a request with the approvers that are eligible for it, the
decision one of them takes, and the steps of an escalation.  All texts are
checked by whole-record validators, which return the record as it was given.
-/

namespace NovaHarness.HumanApprovals

open NovaHarness.Text
open NovaHarness.RecordValidation

section Records

inductive ApprovalStatus where
  | pending
  | approved
  | denied
  | expired
  | escalated
  | cancelled
  deriving DecidableEq, Repr

inductive ApprovalDecisionType where
  | approve
  | deny
  | escalate
  | override
  deriving DecidableEq, Repr

/-- One step of the validators `check_non_empty`. -/
def checkNonEmpty (field value : String) : Validated Unit :=
  require (¬ IsBlank value) (field ++ " must be non-empty")

structure ApproverRef where
  approverId : String
  approverRole : String
  deriving DecidableEq, Repr

def ApproverRef.rules (approver : ApproverRef) : Validated Unit := do
  checkNonEmpty "approver_id" approver.approverId
  checkNonEmpty "approver_role" approver.approverRole

def ApproverRef.validate (raw : ApproverRef) : Validated ApproverRef :=
  twoLayers [] raw ApproverRef.rules

instance : Schema ApproverRef := ⟨fun _ => ApproverRef.validate⟩

structure ApprovalContext where
  subjectRef : String
  summary : String
  deriving DecidableEq, Repr

def ApprovalContext.rules (context : ApprovalContext) : Validated Unit := do
  checkNonEmpty "subject_ref" context.subjectRef
  checkNonEmpty "summary" context.summary

def ApprovalContext.validate (raw : ApprovalContext) : Validated ApprovalContext :=
  twoLayers [] raw ApprovalContext.rules

structure ApprovalRequest where
  approvalRequestId : String
  runId : String
  requestedBy : String
  status : ApprovalStatus
  context : ApprovalContext
  eligibleApprovers : List ApproverRef := []
  deriving DecidableEq, Repr

namespace ApprovalRequest

def checkEligibleApproversForPending (request : ApprovalRequest) : Validated Unit :=
  require (¬ (request.status = .pending ∧ request.eligibleApprovers = []))
    "PENDING requests must have at least one eligible_approver"

def rules (request : ApprovalRequest) : Validated Unit := do
  checkNonEmpty "approval_request_id" request.approvalRequestId
  checkNonEmpty "run_id" request.runId
  checkNonEmpty "requested_by" request.requestedBy
  request.checkEligibleApproversForPending

def validate (raw : ApprovalRequest) : Validated ApprovalRequest :=
  twoLayers
    (errorsUnder "context" raw.context.validate ++
      listErrors "eligible_approvers" ApproverRef.validate raw.eligibleApprovers)
    { raw with
      context := valueD raw.context.validate raw.context
      eligibleApprovers := listValues ApproverRef.validate raw.eligibleApprovers }
    rules

end ApprovalRequest

structure ApprovalDecision where
  approvalDecisionId : String
  approvalRequestId : String
  decidedBy : ApproverRef
  decision : ApprovalDecisionType
  justification : String
  decidedAt : String
  deriving DecidableEq, Repr

namespace ApprovalDecision

def checkOverrideRestricted (tables : UnicodeTables) (decision : ApprovalDecision) :
    Validated Unit :=
  require
    (¬ (decision.decision = .override ∧
      contains (tables.lower decision.decidedBy.approverRole) "override" = false))
    "OVERRIDE decision requires an approver_role containing 'override' or higher authority"

def rules (tables : UnicodeTables) (decision : ApprovalDecision) : Validated Unit := do
  checkNonEmpty "approval_decision_id" decision.approvalDecisionId
  checkNonEmpty "approval_request_id" decision.approvalRequestId
  checkNonEmpty "justification" decision.justification
  checkNonEmpty "decided_at" decision.decidedAt
  checkOverrideRestricted tables decision

def validate (tables : UnicodeTables) (raw : ApprovalDecision) : Validated ApprovalDecision :=
  twoLayers (errorsUnder "decided_by" raw.decidedBy.validate)
    { raw with decidedBy := valueD raw.decidedBy.validate raw.decidedBy }
    (rules tables)

end ApprovalDecision

structure EscalationStep where
  escalationStepId : String
  approvalRequestId : String
  toRole : String
  deriving DecidableEq, Repr

def EscalationStep.rules (step : EscalationStep) : Validated Unit := do
  checkNonEmpty "escalation_step_id" step.escalationStepId
  checkNonEmpty "approval_request_id" step.approvalRequestId
  checkNonEmpty "to_role" step.toRole

def EscalationStep.validate (raw : EscalationStep) : Validated EscalationStep :=
  twoLayers [] raw EscalationStep.rules

structure ApprovalEnvelope where
  envelopeId : String
  request : ApprovalRequest
  decision : Option ApprovalDecision := none
  escalationSteps : List EscalationStep := []
  deriving DecidableEq, Repr

namespace ApprovalEnvelope

/-- The envelope holds a decision, and it is one of these. -/
def Decided (envelope : ApprovalEnvelope) (types : List ApprovalDecisionType) : Prop :=
  ∃ d ∈ envelope.decision, d.decision ∈ types

instance (envelope : ApprovalEnvelope) (types : List ApprovalDecisionType) :
    Decidable (envelope.Decided types) :=
  inferInstanceAs (Decidable (∃ d ∈ envelope.decision, d.decision ∈ types))

def checkDecisionMatchesRequest (envelope : ApprovalEnvelope) : Validated Unit :=
  require (∀ d ∈ envelope.decision, d.approvalRequestId = envelope.request.approvalRequestId)
    "decision.approval_request_id must match request.approval_request_id"

def checkEscalationMatchesRequest (envelope : ApprovalEnvelope) : Validated Unit :=
  envelope.escalationSteps |> forEach fun step =>
    require (step.approvalRequestId = envelope.request.approvalRequestId)
      "escalation_step.approval_request_id must match request.approval_request_id"

def checkEscalatedDecisionHasSteps (envelope : ApprovalEnvelope) : Validated Unit :=
  require (¬ (envelope.Decided [.escalate] ∧ envelope.escalationSteps = []))
    "ESCALATE decision must have at least one escalation_step"

def checkExpiredNotAllowed (envelope : ApprovalEnvelope) : Validated Unit :=
  require (¬ (envelope.request.status = .expired ∧ envelope.Decided [.approve, .override]))
    "EXPIRED request must not have APPROVE or OVERRIDE decision"

def rules (envelope : ApprovalEnvelope) : Validated Unit := do
  checkNonEmpty "envelope_id" envelope.envelopeId
  envelope.checkDecisionMatchesRequest
  envelope.checkEscalationMatchesRequest
  envelope.checkEscalatedDecisionHasSteps
  envelope.checkExpiredNotAllowed

def validate (tables : UnicodeTables) (raw : ApprovalEnvelope) : Validated ApprovalEnvelope :=
  twoLayers
    (errorsUnder "request" raw.request.validate ++
      optionErrors "decision" (ApprovalDecision.validate tables) raw.decision ++
      listErrors "escalation_steps" EscalationStep.validate raw.escalationSteps)
    { raw with
      request := valueD raw.request.validate raw.request
      decision := optionValue (ApprovalDecision.validate tables) raw.decision
      escalationSteps := listValues EscalationStep.validate raw.escalationSteps }
    rules

instance : Schema ApprovalEnvelope := ⟨validate⟩

end ApprovalEnvelope

end Records

section Returned

theorem unchanged_approverRef : Unchanged ApproverRef.validate :=
  unchanged_twoLayers ApproverRef.rules

theorem unchanged_approvalContext : Unchanged ApprovalContext.validate :=
  unchanged_twoLayers ApprovalContext.rules

theorem unchanged_escalationStep : Unchanged EscalationStep.validate :=
  unchanged_twoLayers EscalationStep.rules

theorem unchanged_approvalRequest : Unchanged ApprovalRequest.validate := by
  intro raw request h
  obtain ⟨⟨herrors, -⟩, hrequest⟩ := (twoLayers_eq_ok _ _ _ _).mp h
  simp only [List.append_eq_nil_iff, errorsUnder_eq_nil, listErrors_eq_nil] at herrors
  obtain ⟨hcontext, happrovers⟩ := herrors
  rw [unchanged_approvalContext.validate_eq_self hcontext, valueD_ok,
    listValues_eq_self fun a ha => unchanged_approverRef.validate_eq_self (happrovers a ha)]
    at hrequest
  exact hrequest

theorem unchanged_approvalDecision (tables : UnicodeTables) :
    Unchanged (ApprovalDecision.validate tables) := by
  intro raw decision h
  obtain ⟨⟨herrors, -⟩, hdecision⟩ := (twoLayers_eq_ok _ _ _ _).mp h
  rw [errorsUnder_eq_nil] at herrors
  rw [unchanged_approverRef.validate_eq_self herrors, valueD_ok] at hdecision
  exact hdecision

end Returned

section Accepted

/-- The parts of an envelope that pass by themselves. -/
structure PartsAccepted (tables : UnicodeTables) (envelope : ApprovalEnvelope) : Prop where
  request : envelope.request.validate = .ok envelope.request
  decision : ∀ d ∈ envelope.decision, d.validate tables = .ok d
  escalationSteps : ∀ step ∈ envelope.escalationSteps, step.validate = .ok step

theorem validate_eq_ok (tables : UnicodeTables) (raw envelope : ApprovalEnvelope) :
    raw.validate tables = .ok envelope ↔
      (PartsAccepted tables envelope ∧ envelope.rules = .ok ()) ∧ raw = envelope := by
  simp only [ApprovalEnvelope.validate, twoLayers_eq_ok, List.append_eq_nil_iff,
    errorsUnder_eq_nil, optionErrors_eq_nil, listErrors_eq_nil]
  constructor
  · rintro ⟨⟨⟨⟨hrequest, hdecision⟩, hsteps⟩, hrules⟩, heq⟩
    have hrequest := unchanged_approvalRequest.validate_eq_self hrequest
    have hdecision : ∀ d ∈ raw.decision, d.validate tables = .ok d := fun d hd =>
      (unchanged_approvalDecision tables).validate_eq_self (hdecision d hd)
    have hsteps : ∀ step ∈ raw.escalationSteps, step.validate = .ok step := fun step hstep =>
      unchanged_escalationStep.validate_eq_self (hsteps step hstep)
    rw [hrequest, valueD_ok, optionValue_eq_self hdecision, listValues_eq_self hsteps] at heq
    have heq : raw = envelope := heq
    subst heq
    exact ⟨⟨⟨hrequest, hdecision, hsteps⟩, hrules⟩, rfl⟩
  · rintro ⟨⟨⟨hrequest, hdecision, hsteps⟩, hrules⟩, rfl⟩
    refine ⟨⟨⟨⟨⟨_, hrequest⟩, fun d hd => ⟨d, hdecision d hd⟩⟩,
      fun step hstep => ⟨step, hsteps step hstep⟩⟩, hrules⟩, ?_⟩
    rw [hrequest, valueD_ok, optionValue_eq_self hdecision, listValues_eq_self hsteps]

theorem decision_eq_ok (tables : UnicodeTables) (d : ApprovalDecision) :
    d.validate tables = .ok d ↔
      d.decidedBy.validate = .ok d.decidedBy ∧ d.rules tables = .ok () := by
  simp only [ApprovalDecision.validate, twoLayers_eq_ok, errorsUnder_eq_nil]
  constructor
  · rintro ⟨⟨happrover, hrules⟩, -⟩
    exact ⟨unchanged_approverRef.validate_eq_self happrover, hrules⟩
  · rintro ⟨happrover, hrules⟩
    rw [happrover, valueD_ok]
    exact ⟨⟨⟨_, rfl⟩, hrules⟩, rfl⟩

theorem rules_eq_ok (envelope : ApprovalEnvelope) :
    envelope.rules = .ok () ↔
      ¬ IsBlank envelope.envelopeId ∧
      (∀ d ∈ envelope.decision, d.approvalRequestId = envelope.request.approvalRequestId) ∧
      (∀ step ∈ envelope.escalationSteps,
        step.approvalRequestId = envelope.request.approvalRequestId) ∧
      ¬ (envelope.Decided [.escalate] ∧ envelope.escalationSteps = []) ∧
      ¬ (envelope.request.status = .expired ∧ envelope.Decided [.approve, .override]) := by
  simp only [ApprovalEnvelope.rules, unit_bind_eq_ok, checkNonEmpty,
    ApprovalEnvelope.checkDecisionMatchesRequest, ApprovalEnvelope.checkEscalationMatchesRequest,
    ApprovalEnvelope.checkEscalatedDecisionHasSteps, ApprovalEnvelope.checkExpiredNotAllowed,
    forEach_eq_ok, require_eq_ok]

/-- Who decides matters to no rule but the one for overrides. -/
theorem rules_decidedBy (tables : UnicodeTables) {d : ApprovalDecision}
    (hoverride : d.decision ≠ .override) (approver : ApproverRef) :
    { d with decidedBy := approver }.rules tables = d.rules tables := by
  simp only [ApprovalDecision.rules, ApprovalDecision.checkOverrideRestricted, hoverride,
    false_and]

theorem approvers_of_pending {request : ApprovalRequest}
    (h : request.validate = .ok request) (hpending : request.status = .pending) :
    request.eligibleApprovers ≠ [] := by
  have hrules := rules_of_twoLayers h
  simp only [ApprovalRequest.rules, unit_bind_eq_ok] at hrules
  obtain ⟨-, -, -, hrule⟩ := hrules
  rw [ApprovalRequest.checkEligibleApproversForPending, require_eq_ok] at hrule
  exact fun hnone => hrule ⟨hpending, hnone⟩

end Accepted

section Deciding

/-- An approval comes from the list of the request, which is still alive. -/
def OnlyEligible (envelope : ApprovalEnvelope) : Prop :=
  ∀ d ∈ envelope.decision, d.decision = .approve → envelope.request.eligibleApprovers ≠ [] →
    (∃ approver ∈ envelope.request.eligibleApprovers,
      approver.approverId = d.decidedBy.approverId) ∧
    envelope.request.status ∉ [ApprovalStatus.denied, .cancelled, .expired]

instance (envelope : ApprovalEnvelope) : Decidable (OnlyEligible envelope) :=
  inferInstanceAs (Decidable (∀ d ∈ envelope.decision, _ → _ → _))

/-- What an approval is compared with. -/
structure ApprovalChecked (request : ApprovalRequest) (d : ApprovalDecision) : Prop where
  sameRequest : d.approvalRequestId = request.approvalRequestId
  notExpired : request.status ≠ .expired
  approverGiven : ¬ IsBlank d.decidedBy.approverId ∧ ¬ IsBlank d.decidedBy.approverRole
  pending : request.status = .pending → request.eligibleApprovers ≠ []

/-- The decision in the name of somebody else. -/
def inNameOf (d : ApprovalDecision) (approver : ApproverRef) : ApprovalDecision :=
  { d with decidedBy := approver }

theorem approverGiven_of_validate {approver : ApproverRef}
    (h : approver.validate = .ok approver) :
    ¬ IsBlank approver.approverId ∧ ¬ IsBlank approver.approverRole := by
  have hrules := rules_of_twoLayers h
  simpa only [ApproverRef.rules, checkNonEmpty, unit_bind_eq_ok, require_eq_ok] using hrules

/-- A decision that is no override passes in any name. -/
theorem accepted_inNameOf (envelope : Accepted ApprovalEnvelope) {d : ApprovalDecision}
    (hdecision : envelope.1.decision = some d) (hoverride : d.decision ≠ .override)
    (approver : Accepted ApproverRef) :
    ∃ other : Accepted ApprovalEnvelope,
      other.1 = { envelope.1 with decision := some (inNameOf d approver.1) } := by
  obtain ⟨tables, raw, h⟩ := envelope.2
  obtain ⟨⟨hparts, hrules⟩, -⟩ := (validate_eq_ok tables raw envelope.1).mp h
  obtain ⟨-, hdrules⟩ := (decision_eq_ok tables d).mp (hparts.decision d hdecision)
  have happrover : approver.1.validate = .ok approver.1 :=
    unchanged_approverRef.stable.of_accepted (fun _ _ => by rfl) approver
  have hvalid : (inNameOf d approver.1).validate tables = .ok (inNameOf d approver.1) := by
    rw [decision_eq_ok]
    exact ⟨happrover, (rules_decidedBy tables hoverride approver.1).trans hdrules⟩
  let renamed : ApprovalEnvelope :=
    { envelope.1 with decision := some (inNameOf d approver.1) }
  have hrenamed : renamed.validate tables = .ok renamed := by
    refine (validate_eq_ok tables renamed renamed).mpr ⟨⟨?_, ?_⟩, rfl⟩
    · exact ⟨hparts.request, by simpa [renamed] using hvalid, hparts.escalationSteps⟩
    · rw [rules_eq_ok] at hrules ⊢
      simpa [renamed, hdecision, ApprovalEnvelope.Decided, inNameOf] using hrules
  exact ⟨⟨renamed, tables, renamed, hrenamed⟩, rfl⟩

/-- An approval is checked against its request, but not who gave it. -/
theorem approval_checked (envelope : Accepted ApprovalEnvelope) (d : ApprovalDecision)
    (hdecision : envelope.1.decision = some d) (happrove : d.decision = .approve) :
    ApprovalChecked envelope.1.request d ∧
      ∀ approver : Accepted ApproverRef, ∃ other : Accepted ApprovalEnvelope,
        other.1 = { envelope.1 with decision := some (inNameOf d approver.1) } := by
  refine ⟨?_, accepted_inNameOf envelope hdecision (by simp [happrove])⟩
  obtain ⟨tables, raw, h⟩ := envelope.2
  obtain ⟨⟨hparts, hrules⟩, -⟩ := (validate_eq_ok tables raw envelope.1).mp h
  obtain ⟨hvalid, -⟩ := (decision_eq_ok tables d).mp (hparts.decision d hdecision)
  obtain ⟨-, hsame, -, -, hexpired⟩ := (rules_eq_ok _).mp hrules
  have hdecided : envelope.1.Decided [.approve, .override] :=
    ⟨d, hdecision, by simp [happrove]⟩
  exact
    { sameRequest := hsame d hdecision
      notExpired := fun hstatus => hexpired ⟨hstatus, hdecided⟩
      approverGiven := approverGiven_of_validate hvalid
      pending := approvers_of_pending hparts.request }

def reviewer : ApproverRef where
  approverId := "u-7"
  approverRole := "admin"

def approvalBy (approver : ApproverRef) : ApprovalDecision where
  approvalDecisionId := "ad-2"
  approvalRequestId := "ar-2"
  decidedBy := approver
  decision := .approve
  justification := "Allowlisted search action"
  decidedAt := "2026-07-04T14:30:00Z"

def approvedBy (status : ApprovalStatus) (approver : ApproverRef) : ApprovalEnvelope where
  envelopeId := "env-2"
  request :=
    { approvalRequestId := "ar-2"
      runId := "run-102"
      requestedBy := "agent-reader"
      status := status
      context := { subjectRef := "tool://td-search/read", summary := "Full index search" }
      eligibleApprovers := [reviewer] }
  decision := some (approvalBy approver)

def approvedByReviewer : Accepted ApprovalEnvelope :=
  build (approvedBy .approved reviewer) (by decide)

theorem approvedByReviewer_checked :
    ApprovalChecked approvedByReviewer.1.request (approvalBy reviewer) ∧
      ∀ approver : Accepted ApproverRef, ∃ other : Accepted ApprovalEnvelope,
        other.1 = { approvedByReviewer.1 with
          decision := some (inNameOf (approvalBy reviewer) approver.1) } :=
  approval_checked approvedByReviewer (approvalBy reviewer) (by decide) (by decide)

/-- The agent that asks for the approval gives it. -/
def selfApproved : Accepted ApprovalEnvelope :=
  build
    (approvedBy .approved { approverId := "agent-reader", approverRole := "agent" })
    (by decide)

def approvedAfterDenial : Accepted ApprovalEnvelope :=
  build (approvedBy .denied reviewer) (by decide)

theorem approved_by_ineligible :
    ¬ OnlyEligible selfApproved.1 ∧ ¬ OnlyEligible approvedAfterDenial.1 := by
  decide

end Deciding

end NovaHarness.HumanApprovals
