import Mathlib.Algebra.Order.Ring.Rat
import Mathlib.Tactic.MkIffOfInductiveProp
import NovaHarness.RecordValidation

namespace NovaHarness.DelegationChain

open NovaHarness.Text
open NovaHarness.RecordValidation

inductive DelegationReason where
  | specializedCapabilityRequired
  | contextIsolationRequired
  | verificationNeeded
  | parallelizableSubtask
  | budgetOptimization
  | policySeparation
  | humanLikeReviewPattern
  deriving DecidableEq, Repr

inductive DelegateRoleType where
  | specialist
  | reviewer
  | verifier
  | retriever
  | coder
  | planner
  | summarizer
  | toolOperator
  deriving DecidableEq, Repr

inductive DelegationStatus where
  | draft
  | assigned
  | running
  | returned
  | accepted
  | rejected
  | rerouted
  | cancelled
  | expired
  deriving DecidableEq, Repr

inductive ReturnDisposition where
  | accept
  | acceptWithModification
  | retrySameDelegate
  | rerouteToOtherDelegate
  | escalate
  | discard
  deriving DecidableEq, Repr

def RETURNED_STATUSES : List DelegationStatus := [.returned]

def REVIEWED_STATUSES : List DelegationStatus := [.accepted, .rejected, .rerouted]

def ACCEPT_DISPOSITIONS : List ReturnDisposition := [.accept, .acceptWithModification]

section Records

structure DelegationRequest where
  delegationId : String
  parentRunId : Option String := none
  parentStepId : Option String := none
  supervisorAgentId : String
  delegationReason : DelegationReason
  requestedRole : DelegateRoleType
  requestedDelegateId : Option String := none
  objective : String
  expectedOutput : String := ""
  acceptanceCriteria : List String := []
  priority : String := "medium"
  deriving DecidableEq, Repr

def DelegationRequest.validate (raw : DelegationRequest) : Validated DelegationRequest := do
  let request ← fields
    (filled "delegation_id" raw.delegationId ++
      filled "supervisor_agent_id" raw.supervisorAgentId ++
      filled "objective" raw.objective)
    { raw with
      delegationId := strip raw.delegationId
      supervisorAgentId := strip raw.supervisorAgentId
      objective := strip raw.objective }
  require (request.acceptanceCriteria ≠ []) "acceptance_criteria must not be empty"
  return request

structure DelegationContextSlice where
  contextSliceId : String
  taskRef : Option String := none
  featureRef : Option String := none
  relevantStateRefs : List String := []
  artifactRefs : List String := []
  promptRefs : List String := []
  memoryRefs : List String := []
  policyRefs : List String := []
  selfContained : Bool := false
  deriving DecidableEq, Repr

/-- `has_ref`. -/
def DelegationContextSlice.hasRef (slice : DelegationContextSlice) : Bool :=
  (nonEmpty slice.taskRef).isSome || (nonEmpty slice.featureRef).isSome ||
    slice.relevantStateRefs ≠ [] || slice.artifactRefs ≠ [] || slice.promptRefs ≠ [] ||
    slice.memoryRefs ≠ [] || slice.policyRefs ≠ []

def DelegationContextSlice.validate (raw : DelegationContextSlice) :
    Validated DelegationContextSlice := do
  let slice ← fields (filled "context_slice_id" raw.contextSliceId)
    { raw with contextSliceId := strip raw.contextSliceId }
  require (slice.selfContained = true ∨ slice.hasRef = true)
    "context_slice must contain at least one reference unless self_contained=True"
  return slice

structure DelegationConstraintSet where
  constraintId : String
  deriving DecidableEq, Repr

def DelegationConstraintSet.validate (raw : DelegationConstraintSet) :
    Validated DelegationConstraintSet :=
  fields (filled "constraint_id" raw.constraintId) { constraintId := strip raw.constraintId }

structure DelegateSelectionRecord where
  selectionId : String
  selectedDelegateId : Option String := none
  selectedRole : DelegateRoleType
  selectionConfidence : ℚ := 1
  deriving DecidableEq, Repr

def DelegateSelectionRecord.validate (raw : DelegateSelectionRecord) :
    Validated DelegateSelectionRecord :=
  fields
    (filled "selection_id" raw.selectionId ++
      inRange "selection_confidence" "confidence" raw.selectionConfidence)
    { raw with selectionId := strip raw.selectionId }

structure DelegationAssignment where
  assignmentId : String
  delegationRequest : DelegationRequest
  contextSlice : DelegationContextSlice
  constraints : DelegationConstraintSet
  selection : DelegateSelectionRecord
  status : DelegationStatus := .draft
  deriving DecidableEq, Repr

def DelegationAssignment.validate (raw : DelegationAssignment) :
    Validated DelegationAssignment := do
  let assignment ← fields
    (filled "assignment_id" raw.assignmentId ++
      errorsUnder "delegation_request" raw.delegationRequest.validate ++
      errorsUnder "context_slice" raw.contextSlice.validate ++
      errorsUnder "constraints" raw.constraints.validate ++
      errorsUnder "selection" raw.selection.validate)
    { raw with
      assignmentId := strip raw.assignmentId
      delegationRequest := valueD raw.delegationRequest.validate raw.delegationRequest
      contextSlice := valueD raw.contextSlice.validate raw.contextSlice
      constraints := valueD raw.constraints.validate raw.constraints
      selection := valueD raw.selection.validate raw.selection }
  -- the validator for returned statuses complains about nothing
  require (assignment.status = .running → assignment.selection.selectedDelegateId ≠ none)
    "RUNNING status requires a selected delegate"
  return assignment

structure DelegationReturnRecord where
  returnId : String
  assignmentId : String
  delegateAgentId : String
  confidence : ℚ := 1
  deriving DecidableEq, Repr

def DelegationReturnRecord.validate (raw : DelegationReturnRecord) :
    Validated DelegationReturnRecord :=
  fields
    (filled "return_id" raw.returnId ++ filled "assignment_id" raw.assignmentId ++
      filled "delegate_agent_id" raw.delegateAgentId ++
      inRange "confidence" "confidence" raw.confidence)
    { raw with
      returnId := strip raw.returnId
      assignmentId := strip raw.assignmentId
      delegateAgentId := strip raw.delegateAgentId }

structure SupervisorReviewRecord where
  reviewId : String
  assignmentId : String
  returnId : String
  reviewerAgentId : String
  disposition : ReturnDisposition
  acceptedOutputRefs : List String := []
  retryReason : String := ""
  rerouteReason : String := ""
  integrationNotes : String := ""
  deriving DecidableEq, Repr

namespace SupervisorReviewRecord

/-- What a disposition asks of the review that carries it. -/
structure Reasoned (review : SupervisorReviewRecord) : Prop where
  accepted : review.disposition ∈ ACCEPT_DISPOSITIONS →
    review.acceptedOutputRefs ≠ [] ∨ ¬ IsBlank review.integrationNotes
  retried : review.disposition = .retrySameDelegate → ¬ IsBlank review.retryReason
  rerouted : review.disposition = .rerouteToOtherDelegate → ¬ IsBlank review.rerouteReason

def validate (raw : SupervisorReviewRecord) : Validated SupervisorReviewRecord := do
  let review ← fields
    (filled "review_id" raw.reviewId ++ filled "assignment_id" raw.assignmentId ++
      filled "return_id" raw.returnId ++ filled "reviewer_agent_id" raw.reviewerAgentId)
    { raw with
      reviewId := strip raw.reviewId
      assignmentId := strip raw.assignmentId
      returnId := strip raw.returnId
      reviewerAgentId := strip raw.reviewerAgentId }
  require
    (review.disposition ∈ ACCEPT_DISPOSITIONS →
      review.acceptedOutputRefs ≠ [] ∨ ¬ IsBlank review.integrationNotes)
    "accept disposition requires accepted_output_refs or integration_notes"
  require (review.disposition = .retrySameDelegate → ¬ IsBlank review.retryReason)
    "retry_same_delegate requires retry_reason"
  require (review.disposition = .rerouteToOtherDelegate → ¬ IsBlank review.rerouteReason)
    "reroute_to_other_delegate requires reroute_reason"
  return review

theorem reasoned_of_validate {raw review : SupervisorReviewRecord}
    (h : raw.validate = .ok review) : review.Reasoned := by
  simp only [validate, bind_eq_ok, fields_eq_ok, require_eq_ok, pure_eq_ok] at h
  obtain ⟨_, -, _, haccepted, _, hretried, _, hrerouted, rfl⟩ := h
  exact ⟨haccepted, hretried, hrerouted⟩

end SupervisorReviewRecord

structure DelegationEnvelope where
  envelopeId : String
  delegationRequest : DelegationRequest
  delegationAssignment : DelegationAssignment
  delegationReturn : Option DelegationReturnRecord := none
  supervisorReview : Option SupervisorReviewRecord := none
  deriving DecidableEq, Repr

end Records

theorem DelegationAssignment.selected_of_validate {raw assignment : DelegationAssignment}
    (h : raw.validate = .ok assignment) (hrunning : assignment.status = .running) :
    assignment.selection.selectedDelegateId ≠ none := by
  simp only [DelegationAssignment.validate, bind_eq_ok, fields_eq_ok, require_eq_ok,
    pure_eq_ok] at h
  obtain ⟨_, -, _, hselected, rfl⟩ := h
  exact hselected hrunning

namespace DelegationEnvelope

def normalized (raw : DelegationEnvelope) : DelegationEnvelope where
  envelopeId := strip raw.envelopeId
  delegationRequest := valueD raw.delegationRequest.validate raw.delegationRequest
  delegationAssignment := valueD raw.delegationAssignment.validate raw.delegationAssignment
  delegationReturn := optionValue DelegationReturnRecord.validate raw.delegationReturn
  supervisorReview := optionValue SupervisorReviewRecord.validate raw.supervisorReview

def validate (raw : DelegationEnvelope) : Validated DelegationEnvelope := do
  let envelope ← fields
    (filled "envelope_id" raw.envelopeId ++
      errorsUnder "delegation_request" raw.delegationRequest.validate ++
      errorsUnder "delegation_assignment" raw.delegationAssignment.validate ++
      optionErrors "delegation_return" DelegationReturnRecord.validate raw.delegationReturn ++
      optionErrors "supervisor_review" SupervisorReviewRecord.validate raw.supervisorReview)
    raw.normalized
  require
    (envelope.delegationAssignment.status ∈ RETURNED_STATUSES → envelope.delegationReturn ≠ none)
    "RETURNED status requires DelegationReturnRecord"
  require
    (envelope.delegationAssignment.status ∈ REVIEWED_STATUSES → envelope.supervisorReview ≠ none)
    "ACCEPTED/REJECTED/REROUTED status requires SupervisorReviewRecord"
  require
    (∀ r ∈ envelope.delegationReturn, ∀ s ∈ envelope.supervisorReview, s.returnId = r.returnId)
    "supervisor_review.return_id must match delegation_return.return_id"
  -- the validator for nested delegation complains about nothing
  return envelope

instance : Schema DelegationEnvelope := ⟨fun _ => validate⟩

/-- The links of an envelope that are checked. -/
structure Linked (envelope : DelegationEnvelope) : Prop where
  returned : envelope.delegationAssignment.status ∈ RETURNED_STATUSES →
    envelope.delegationReturn ≠ none
  reviewed : envelope.delegationAssignment.status ∈ REVIEWED_STATUSES →
    envelope.supervisorReview ≠ none
  sameReturn : ∀ r ∈ envelope.delegationReturn, ∀ s ∈ envelope.supervisorReview,
    s.returnId = r.returnId

/-- Every part of the raw envelope is accepted by itself. -/
structure PartsAccepted (raw : DelegationEnvelope) : Prop where
  envelopeId : ¬ IsBlank raw.envelopeId
  request : ∃ request, raw.delegationRequest.validate = .ok request
  assignment : ∃ assignment, raw.delegationAssignment.validate = .ok assignment
  returnRecord : ∀ r ∈ raw.delegationReturn, ∃ r', r.validate = .ok r'
  review : ∀ s ∈ raw.supervisorReview, ∃ s', s.validate = .ok s'

/-- Apart from its parts, an envelope is refused for one of these links only. -/
theorem validate_eq_ok (raw envelope : DelegationEnvelope) :
    raw.validate = .ok envelope ↔
      raw.PartsAccepted ∧ raw.normalized = envelope ∧ envelope.Linked := by
  simp only [validate, bind_eq_ok, fields_eq_ok, require_eq_ok, pure_eq_ok,
    List.append_eq_nil_iff, filled_eq_nil, errorsUnder_eq_nil, optionErrors_eq_nil]
  constructor
  · rintro ⟨_, ⟨⟨⟨⟨⟨hid, hrequest⟩, hassignment⟩, hreturn⟩, hreview⟩, rfl⟩, _, hreturned, _,
      hreviewed, _, hsame, rfl⟩
    exact ⟨⟨hid, hrequest, hassignment, hreturn, hreview⟩, rfl, hreturned, hreviewed, hsame⟩
  · rintro ⟨⟨hid, hrequest, hassignment, hreturn, hreview⟩, rfl, hreturned, hreviewed, hsame⟩
    exact ⟨_, ⟨⟨⟨⟨⟨hid, hrequest⟩, hassignment⟩, hreturn⟩, hreview⟩, rfl⟩, (), hreturned, (),
      hreviewed, (), hsame, rfl⟩

end DelegationEnvelope

section Chain

/-- The five records are about one delegation. -/
@[mk_iff]
structure OneDelegation (envelope : DelegationEnvelope) : Prop where
  request : envelope.delegationAssignment.delegationRequest = envelope.delegationRequest
  returned : ∀ r ∈ envelope.delegationReturn,
    r.assignmentId = envelope.delegationAssignment.assignmentId
  reviewed : ∀ s ∈ envelope.supervisorReview,
    s.assignmentId = envelope.delegationAssignment.assignmentId
  delegate : ∀ r ∈ envelope.delegationReturn,
    ∀ d ∈ envelope.delegationAssignment.selection.selectedDelegateId, r.delegateAgentId = d
  accepted : envelope.delegationAssignment.status = .accepted →
    envelope.delegationReturn ≠ none ∧
      ∃ s ∈ envelope.supervisorReview, s.disposition ∈ ACCEPT_DISPOSITIONS

instance : DecidablePred OneDelegation := fun envelope =>
  decidable_of_iff _ (oneDelegation_iff envelope).symm

/-- Which of the records an envelope has is tied to its status, and the review to
the return by the id of the return; every record is complete in itself. -/
theorem linked_of_accepted (envelope : Accepted DelegationEnvelope) :
    envelope.1.Linked ∧
    (envelope.1.delegationAssignment.status = .running →
      envelope.1.delegationAssignment.selection.selectedDelegateId ≠ none) ∧
    ∀ s ∈ envelope.1.supervisorReview, s.Reasoned := by
  obtain ⟨_, raw, h⟩ := envelope.2
  change raw.validate = .ok envelope.1 at h
  obtain ⟨hparts, hnormalized, hlinked⟩ := (DelegationEnvelope.validate_eq_ok raw _).mp h
  refine ⟨hlinked, ?_, ?_⟩
  · obtain ⟨assignment, hassignment⟩ := hparts.assignment
    rw [← hnormalized, DelegationEnvelope.normalized]
    simp only [hassignment, valueD_ok]
    exact DelegationAssignment.selected_of_validate hassignment
  · intro s hs
    rw [← hnormalized] at hs
    obtain ⟨raw', -, hraw'⟩ := exists_of_mem_optionValue hparts.review hs
    exact SupervisorReviewRecord.reasoned_of_validate hraw'

def request (delegationId : String) : DelegationRequest where
  delegationId := delegationId
  supervisorAgentId := "agent-super-001"
  delegationReason := .specializedCapabilityRequired
  requestedRole := .coder
  objective := "Implement user auth model"
  acceptanceCriteria := ["User model with email"]

/-- An assignment of the delegation `del-001` to the delegate `dev-001`. -/
def assignment (status : DelegationStatus) : DelegationAssignment where
  assignmentId := "asn-001"
  delegationRequest := request "del-001"
  contextSlice := { contextSliceId := "ctx-001", taskRef := some "task-auth-001" }
  constraints := { constraintId := "cst-001" }
  selection :=
    { selectionId := "sel-001", selectedDelegateId := some "dev-001", selectedRole := .coder }
  status := status

def returned (assignmentId delegateAgentId : String) : DelegationReturnRecord where
  returnId := "ret-001"
  assignmentId := assignmentId
  delegateAgentId := delegateAgentId

def review (assignmentId : String) (disposition : ReturnDisposition) : SupervisorReviewRecord where
  reviewId := "rev-001"
  assignmentId := assignmentId
  returnId := "ret-001"
  reviewerAgentId := "agent-super-001"
  disposition := disposition
  acceptedOutputRefs := ["src/auth.py"]

def chain (delegationId : String) (r : Option DelegationReturnRecord)
    (s : SupervisorReviewRecord) : DelegationEnvelope where
  envelopeId := "env-001"
  delegationRequest := request delegationId
  delegationAssignment := assignment .accepted
  delegationReturn := r
  supervisorReview := some s

def ownChain : Accepted DelegationEnvelope :=
  build (chain "del-001" (some (returned "asn-001" "dev-001")) (review "asn-001" .accept))
    (by decide)

example : OneDelegation ownChain.1 := by decide +kernel

def otherRequest : Accepted DelegationEnvelope :=
  build (chain "del-999" (some (returned "asn-001" "dev-001")) (review "asn-001" .accept))
    (by decide)

def otherReturn : Accepted DelegationEnvelope :=
  build (chain "del-001" (some (returned "asn-999" "dev-001")) (review "asn-001" .accept))
    (by decide)

def otherReview : Accepted DelegationEnvelope :=
  build (chain "del-001" (some (returned "asn-001" "dev-001")) (review "asn-999" .accept))
    (by decide)

def otherDelegate : Accepted DelegationEnvelope :=
  build (chain "del-001" (some (returned "asn-001" "dev-999")) (review "asn-001" .accept))
    (by decide)

def unreturned : Accepted DelegationEnvelope :=
  build (chain "del-001" none (review "asn-001" .accept)) (by decide)

def discarded : Accepted DelegationEnvelope :=
  build (chain "del-001" (some (returned "asn-001" "dev-001")) (review "asn-001" .discard))
    (by decide)

/-- Each of the links that are not checked can be missing. -/
theorem accepted_of_another_delegation :
    ¬ OneDelegation otherRequest.1 ∧ ¬ OneDelegation otherReturn.1 ∧
      ¬ OneDelegation otherReview.1 ∧ ¬ OneDelegation otherDelegate.1 ∧
      ¬ OneDelegation unreturned.1 ∧ ¬ OneDelegation discarded.1 := by
  decide +kernel

end Chain

end NovaHarness.DelegationChain
