import Mathlib.Algebra.Order.Ring.Rat
import Mathlib.Tactic.MkIffOfInductiveProp
import NovaHarness.RecordValidation

namespace NovaHarness.RoutingConstraints

open NovaHarness.Text
open NovaHarness.RecordValidation

inductive RouteTargetType where
  | directExecutor
  | specialistAgent
  | verifierAgent
  | reviewerAgent
  | toolPath
  | fallbackPath
  | humanApprovalGate
  | blocked
  deriving DecidableEq, Repr

inductive RoutingDecisionStatus where
  | draft
  | evaluated
  | selected
  | dispatched
  | rerouted
  | rejected
  | blocked
  deriving DecidableEq, Repr

/-- The statuses of a decision that picks a candidate. -/
def selectedStatuses : List RoutingDecisionStatus := [.selected, .dispatched]

section Records

structure RoutingInputRecord where
  routingId : String
  requestSummary : String
  deriving DecidableEq, Repr

def RoutingInputRecord.validate (raw : RoutingInputRecord) : Validated RoutingInputRecord :=
  fields
    (filled "routing_id" raw.routingId ++ filled "request_summary" raw.requestSummary)
    { routingId := strip raw.routingId
      requestSummary := strip raw.requestSummary }

structure RouteCandidate where
  candidateId : String
  targetType : RouteTargetType
  targetId : String
  deriving DecidableEq, Repr

def RouteCandidate.validate (raw : RouteCandidate) : Validated RouteCandidate :=
  fields
    (filled "candidate_id" raw.candidateId ++ filled "target_id" raw.targetId)
    { raw with
      candidateId := strip raw.candidateId
      targetId := strip raw.targetId }

structure RouteScoreRecord where
  scoreId : String
  candidateId : String
  capabilityScore : ℚ := 1
  policyScore : ℚ := 1
  costScore : ℚ := 1
  latencyScore : ℚ := 1
  riskScore : ℚ := 1
  overallScore : ℚ := 1
  deriving DecidableEq, Repr

def RouteScoreRecord.validate (raw : RouteScoreRecord) : Validated RouteScoreRecord :=
  fields
    (filled "score_id" raw.scoreId ++
      filled "candidate_id" raw.candidateId ++
      inRange "capability_score" "score" raw.capabilityScore ++
      inRange "policy_score" "score" raw.policyScore ++
      inRange "cost_score" "score" raw.costScore ++
      inRange "latency_score" "score" raw.latencyScore ++
      inRange "risk_score" "score" raw.riskScore ++
      inRange "overall_score" "score" raw.overallScore)
    { raw with
      scoreId := strip raw.scoreId
      candidateId := strip raw.candidateId }

structure RoutingConstraintSet where
  constraintId : String
  allowedTargetTypes : List RouteTargetType := []
  disallowedTargetIds : List String := []
  deriving DecidableEq, Repr

namespace RoutingConstraintSet

def normalized (raw : RoutingConstraintSet) : RoutingConstraintSet :=
  { raw with constraintId := strip raw.constraintId }

def validate (raw : RoutingConstraintSet) : Validated RoutingConstraintSet :=
  -- the validator for a high risk complains about nothing
  fields (filled "constraint_id" raw.constraintId) raw.normalized

instance : Schema RoutingConstraintSet := ⟨fun _ => validate⟩

theorem stable_validate : Stable validate :=
  stable_fields (by simp [normalized]) (by simp [normalized, strip_strip])

theorem validate_accepted (constraints : Accepted RoutingConstraintSet) :
    constraints.1.validate = .ok constraints.1 :=
  stable_validate.of_accepted (fun _ _ => by rfl) constraints

end RoutingConstraintSet

structure RoutingDecisionRecord where
  decisionId : String
  routingId : String
  selectedCandidateId : Option String := none
  selectedTargetType : Option RouteTargetType := none
  selectedTargetId : Option String := none
  decisionStatus : RoutingDecisionStatus
  decisionReason : String := ""
  confidence : ℚ := 1
  deriving DecidableEq, Repr

namespace RoutingDecisionRecord

def validate (raw : RoutingDecisionRecord) : Validated RoutingDecisionRecord := do
  let decision ← fields
    (filled "decision_id" raw.decisionId ++
      filled "routing_id" raw.routingId ++
      inRange "confidence" "confidence" raw.confidence)
    { raw with
      decisionId := strip raw.decisionId
      routingId := strip raw.routingId }
  require
    (decision.decisionStatus ∈ selectedStatuses → decision.selectedCandidateId ≠ none)
    "SELECTED/DISPATCHED status requires a selected_candidate_id"
  require
    (decision.decisionStatus ∈ [.blocked, .rejected] → ¬ IsBlank decision.decisionReason)
    "BLOCKED/REJECTED status requires decision_reason"
  return decision

/-- A decision with its status accounted for. -/
structure Grounded (decision : RoutingDecisionRecord) : Prop where
  selected : decision.decisionStatus ∈ selectedStatuses → decision.selectedCandidateId ≠ none
  reasoned : decision.decisionStatus ∈ [.blocked, .rejected] → ¬ IsBlank decision.decisionReason

theorem grounded_of_validate {raw decision : RoutingDecisionRecord}
    (h : raw.validate = .ok decision) : decision.Grounded := by
  simp only [validate, bind_eq_ok, require_eq_ok, pure_eq_ok] at h
  obtain ⟨_, -, _, hselected, _, hreasoned, rfl⟩ := h
  exact ⟨hselected, hreasoned⟩

/-- The same decision with the target named otherwise. -/
def retargeted (decision : RoutingDecisionRecord) (targetType : Option RouteTargetType)
    (targetId : Option String) : RoutingDecisionRecord :=
  { decision with selectedTargetType := targetType, selectedTargetId := targetId }

theorem validate_retargeted {raw decision : RoutingDecisionRecord}
    (h : raw.validate = .ok decision) (targetType : Option RouteTargetType)
    (targetId : Option String) :
    (raw.retargeted targetType targetId).validate =
      .ok (decision.retargeted targetType targetId) := by
  simp only [validate, bind_eq_ok, fields_eq_ok, require_eq_ok, pure_eq_ok] at h ⊢
  obtain ⟨_, ⟨hfields, rfl⟩, _, hselected, _, hreasoned, rfl⟩ := h
  exact ⟨_, ⟨hfields, rfl⟩, (), hselected, (), hreasoned, rfl⟩

end RoutingDecisionRecord

structure ArbitrationRecord where
  arbitrationId : String
  routingId : String
  competingCandidateIds : List String := []
  tieBreakReason : String := ""
  selectedCandidateId : Option String := none
  deriving DecidableEq, Repr

def ArbitrationRecord.validate (raw : ArbitrationRecord) : Validated ArbitrationRecord := do
  let arbitration ← fields
    (filled "arbitration_id" raw.arbitrationId ++ filled "routing_id" raw.routingId)
    { raw with
      arbitrationId := strip raw.arbitrationId
      routingId := strip raw.routingId }
  require (2 ≤ arbitration.competingCandidateIds.length)
    "arbitration requires at least 2 competing candidates"
  require
    ((nonEmpty arbitration.selectedCandidateId).isSome → ¬ IsBlank arbitration.tieBreakReason)
    "arbitration with selection requires tie_break_reason"
  return arbitration

structure RoutingFallbackRecord where
  fallbackId : String
  routingId : String
  triggerReason : String
  deriving DecidableEq, Repr

def RoutingFallbackRecord.validate (raw : RoutingFallbackRecord) :
    Validated RoutingFallbackRecord :=
  fields
    (filled "fallback_id" raw.fallbackId ++ filled "routing_id" raw.routingId ++
      filled "trigger_reason" raw.triggerReason)
    { fallbackId := strip raw.fallbackId
      routingId := strip raw.routingId
      triggerReason := strip raw.triggerReason }

structure RoutingEnvelope where
  envelopeId : String
  routingInput : RoutingInputRecord
  candidates : List RouteCandidate := []
  scores : List RouteScoreRecord := []
  constraints : RoutingConstraintSet
  decision : Option RoutingDecisionRecord := none
  arbitration : Option ArbitrationRecord := none
  fallback : Option RoutingFallbackRecord := none
  deriving DecidableEq, Repr

end Records

namespace RoutingEnvelope

def normalized (raw : RoutingEnvelope) : RoutingEnvelope where
  envelopeId := strip raw.envelopeId
  routingInput := valueD raw.routingInput.validate raw.routingInput
  candidates := listValues RouteCandidate.validate raw.candidates
  scores := listValues RouteScoreRecord.validate raw.scores
  constraints := valueD raw.constraints.validate raw.constraints
  decision := optionValue RoutingDecisionRecord.validate raw.decision
  arbitration := optionValue ArbitrationRecord.validate raw.arbitration
  fallback := optionValue RoutingFallbackRecord.validate raw.fallback

/-- Of the seven validators of the envelope two complain about nothing: those for
a dispatched decision and for a high risk. -/
def validate (raw : RoutingEnvelope) : Validated RoutingEnvelope := do
  let envelope ← fields
    (filled "envelope_id" raw.envelopeId ++
      errorsUnder "routing_input" raw.routingInput.validate ++
      listErrors "candidates" RouteCandidate.validate raw.candidates ++
      listErrors "scores" RouteScoreRecord.validate raw.scores ++
      errorsUnder "constraints" raw.constraints.validate ++
      optionErrors "decision" RoutingDecisionRecord.validate raw.decision ++
      optionErrors "arbitration" ArbitrationRecord.validate raw.arbitration ++
      optionErrors "fallback" RoutingFallbackRecord.validate raw.fallback)
    raw.normalized
  require
    (envelope.candidates = [] → envelope.decision.map (·.decisionStatus) = some .blocked)
    "at least one RouteCandidate is required unless outcome is no_eligible_route"
  require
    (∀ d ∈ envelope.decision, ∀ id ∈ nonEmpty d.selectedCandidateId,
      ∃ c ∈ envelope.candidates, c.candidateId = id)
    "selected_candidate_id must reference an existing candidate"
  require (envelope.fallback ≠ none → envelope.decision ≠ none)
    "fallback requires a RoutingDecisionRecord"
  return envelope

instance : Schema RoutingEnvelope := ⟨fun _ => validate⟩

/-- What the validators of the envelope compare. -/
structure Resolved (envelope : RoutingEnvelope) : Prop where
  candidates : envelope.candidates = [] → envelope.decision.map (·.decisionStatus) = some .blocked
  reference : ∀ d ∈ envelope.decision, ∀ id ∈ nonEmpty d.selectedCandidateId,
    ∃ c ∈ envelope.candidates, c.candidateId = id
  fallback : envelope.fallback ≠ none → envelope.decision ≠ none

/-- Every part of the raw envelope is accepted by itself. -/
structure PartsAccepted (raw : RoutingEnvelope) : Prop where
  envelopeId : ¬ IsBlank raw.envelopeId
  input : ∃ input, raw.routingInput.validate = .ok input
  candidates : ∀ c ∈ raw.candidates, ∃ c', c.validate = .ok c'
  scores : ∀ score ∈ raw.scores, ∃ score', score.validate = .ok score'
  constraints : ∃ constraints, raw.constraints.validate = .ok constraints
  decision : ∀ d ∈ raw.decision, ∃ d', d.validate = .ok d'
  arbitration : ∀ a ∈ raw.arbitration, ∃ a', a.validate = .ok a'
  fallback : ∀ f ∈ raw.fallback, ∃ f', f.validate = .ok f'

theorem validate_eq_ok (raw envelope : RoutingEnvelope) :
    raw.validate = .ok envelope ↔
      raw.PartsAccepted ∧ raw.normalized = envelope ∧ envelope.Resolved := by
  simp only [validate, bind_eq_ok, fields_eq_ok, require_eq_ok, pure_eq_ok,
    List.append_eq_nil_iff, filled_eq_nil, listErrors_eq_nil, errorsUnder_eq_nil,
    optionErrors_eq_nil]
  constructor
  · rintro ⟨_, ⟨⟨⟨⟨⟨⟨⟨⟨hid, hinput⟩, hcandidates⟩, hscores⟩, hconstraints⟩, hdecision⟩,
      harbitration⟩, hfallback⟩, rfl⟩, _, hsome, _, hreference, _, hdecided, rfl⟩
    exact ⟨⟨hid, hinput, hcandidates, hscores, hconstraints, hdecision, harbitration, hfallback⟩,
      rfl, hsome, hreference, hdecided⟩
  · rintro ⟨⟨hid, hinput, hcandidates, hscores, hconstraints, hdecision, harbitration, hfallback⟩,
      rfl, hsome, hreference, hdecided⟩
    exact ⟨_, ⟨⟨⟨⟨⟨⟨⟨⟨hid, hinput⟩, hcandidates⟩, hscores⟩, hconstraints⟩, hdecision⟩,
      harbitration⟩, hfallback⟩, rfl⟩, (), hsome, (), hreference, (), hdecided, rfl⟩

theorem grounded_of_validate {raw envelope : RoutingEnvelope}
    (h : raw.validate = .ok envelope) : ∀ d ∈ envelope.decision, d.Grounded := by
  obtain ⟨hparts, rfl, -⟩ := (validate_eq_ok raw _).mp h
  intro d hd
  obtain ⟨raw', -, hraw'⟩ := exists_of_mem_optionValue hparts.decision hd
  exact RoutingDecisionRecord.grounded_of_validate hraw'

/-- The same envelope under other constraints, with the decision naming another
target. -/
def redirected (envelope : RoutingEnvelope) (constraints : RoutingConstraintSet)
    (targetType : Option RouteTargetType) (targetId : Option String) : RoutingEnvelope :=
  { envelope with
    constraints := constraints
    decision := envelope.decision.map (·.retargeted targetType targetId) }

theorem resolved_redirected {envelope : RoutingEnvelope} (h : envelope.Resolved)
    (constraints : RoutingConstraintSet) (targetType : Option RouteTargetType)
    (targetId : Option String) :
    (envelope.redirected constraints targetType targetId).Resolved := by
  refine ⟨?_, ?_, ?_⟩
  · intro hcandidates
    have hblocked := h.candidates hcandidates
    simpa [redirected, Option.map_map, Function.comp_def, RoutingDecisionRecord.retargeted]
      using hblocked
  · intro d hd
    obtain ⟨d', hd', rfl⟩ := Option.map_eq_some_iff.mp hd
    exact h.reference d' hd'
  · intro hfallback
    simpa [redirected] using h.fallback hfallback

theorem validate_redirected {raw envelope : RoutingEnvelope} (h : raw.validate = .ok envelope)
    (constraints : Accepted RoutingConstraintSet) (targetType : Option RouteTargetType)
    (targetId : Option String) :
    (raw.redirected constraints.1 targetType targetId).validate =
      .ok (envelope.redirected constraints.1 targetType targetId) := by
  obtain ⟨hparts, rfl, hresolved⟩ := (validate_eq_ok raw _).mp h
  have hconstraints := RoutingConstraintSet.validate_accepted constraints
  refine (validate_eq_ok _ _).mpr
    ⟨?_, ?_, resolved_redirected hresolved constraints.1 targetType targetId⟩
  · have hdecision : ∀ d ∈ (raw.redirected constraints.1 targetType targetId).decision,
        ∃ d', d.validate = .ok d' := by
      intro d hd
      obtain ⟨d', hd', rfl⟩ := Option.map_eq_some_iff.mp hd
      obtain ⟨accepted, haccepted⟩ := hparts.decision d' hd'
      exact ⟨_, RoutingDecisionRecord.validate_retargeted haccepted targetType targetId⟩
    exact { hparts with constraints := ⟨_, hconstraints⟩, decision := hdecision }
  · simp only [normalized, redirected, hconstraints, valueD_ok, RoutingEnvelope.mk.injEq,
      true_and, and_true]
    rcases hd : raw.decision with _ | d
    · simp [optionValue]
    · obtain ⟨accepted, haccepted⟩ := hparts.decision d hd
      have hretargeted :=
        RoutingDecisionRecord.validate_retargeted haccepted targetType targetId
      simp [optionValue, haccepted, hretargeted]

end RoutingEnvelope

section Constraints

/-- The candidate is the one the constraints admit and the decision names. -/
@[mk_iff]
structure Honours (envelope : RoutingEnvelope) (decision : RoutingDecisionRecord)
    (candidate : RouteCandidate) : Prop where
  id : candidate.targetId ∉ envelope.constraints.disallowedTargetIds
  type : envelope.constraints.allowedTargetTypes ≠ [] →
    candidate.targetType ∈ envelope.constraints.allowedTargetTypes
  sameId : ∀ targetId ∈ decision.selectedTargetId, targetId = candidate.targetId
  sameType : ∀ targetType ∈ decision.selectedTargetType, targetType = candidate.targetType

instance (envelope : RoutingEnvelope) (decision : RoutingDecisionRecord)
    (candidate : RouteCandidate) : Decidable (Honours envelope decision candidate) :=
  decidable_of_iff _ (honours_iff envelope decision candidate).symm

/-- The candidates that a decision selects by their id. -/
def selectedCandidates (envelope : RoutingEnvelope) (decision : RoutingDecisionRecord) :
    List RouteCandidate :=
  envelope.candidates.filter (decision.selectedCandidateId = some ·.candidateId)

/-- A decision for a candidate selects exactly one, and that one honours the constraints. -/
def RoutesWithin (envelope : RoutingEnvelope) : Prop :=
  ∀ d ∈ envelope.decision, d.decisionStatus ∈ selectedStatuses →
    (selectedCandidates envelope d).length = 1 ∧
      ∀ c ∈ selectedCandidates envelope d, Honours envelope d c

instance : DecidablePred RoutesWithin := fun envelope =>
  inferInstanceAs (Decidable (∀ d ∈ envelope.decision, d.decisionStatus ∈ selectedStatuses →
    (selectedCandidates envelope d).length = 1 ∧
      ∀ c ∈ selectedCandidates envelope d, Honours envelope d c))

/-- A decision for a candidate names one of the candidates by id.  Neither the
constraints nor the target it names have a part in that. -/
theorem selection_refers (envelope : Accepted RoutingEnvelope) :
    (envelope.1.candidates = [] →
      envelope.1.decision.map (·.decisionStatus) = some .blocked) ∧
    (∀ d ∈ envelope.1.decision, d.decisionStatus ∈ selectedStatuses →
      ∃ id, d.selectedCandidateId = some id ∧
        (id ≠ "" → ∃ c ∈ envelope.1.candidates, c.candidateId = id)) ∧
    ∀ (constraints : Accepted RoutingConstraintSet) (targetType : Option RouteTargetType)
      (targetId : Option String), ∃ other : Accepted RoutingEnvelope,
        other.1 = envelope.1.redirected constraints.1 targetType targetId := by
  obtain ⟨tables, raw, h⟩ := envelope.2
  change raw.validate = .ok envelope.1 at h
  obtain ⟨-, -, hresolved⟩ := (RoutingEnvelope.validate_eq_ok raw _).mp h
  refine ⟨hresolved.candidates, ?_, ?_⟩
  · intro d hd hstatus
    have hgrounded := RoutingEnvelope.grounded_of_validate h d hd
    obtain ⟨id, hid⟩ := Option.ne_none_iff_exists'.mp (hgrounded.selected hstatus)
    refine ⟨id, hid, fun hne => hresolved.reference d hd id ?_⟩
    simp [hid, nonEmpty, Option.filter, hne]
  · intro constraints targetType targetId
    exact ⟨⟨_, tables, _, RoutingEnvelope.validate_redirected h constraints targetType targetId⟩,
      rfl⟩

def candidate (candidateId targetId : String) : RouteCandidate where
  candidateId := candidateId
  targetType := .directExecutor
  targetId := targetId

def dispatch (targetType : RouteTargetType) (targetId : String) : RoutingDecisionRecord where
  decisionId := "dec-001"
  routingId := "rt-001"
  selectedCandidateId := some "c-001"
  selectedTargetType := some targetType
  selectedTargetId := some targetId
  decisionStatus := .dispatched

/-- A routing that is dispatched to the candidate `c-001`. -/
def routing (candidates : List RouteCandidate) (constraints : RoutingConstraintSet)
    (decision : RoutingDecisionRecord) : RoutingEnvelope where
  envelopeId := "env-rt-001"
  routingInput := { routingId := "rt-001", requestSummary := "Add login endpoint" }
  candidates := candidates
  constraints := constraints
  decision := some decision

def admitted : Accepted RoutingEnvelope :=
  build
    (routing [candidate "c-001" "agent-main-001", candidate "c-002" "agent-other"]
      { constraintId := "cst-001"
        allowedTargetTypes := [.directExecutor]
        disallowedTargetIds := ["agent-other"] }
      (dispatch .directExecutor "agent-main-001"))
    (by decide)

example : RoutesWithin admitted.1 := by decide

def repeated : Accepted RoutingEnvelope :=
  build
    (routing [candidate "c-001" "agent-main-001", candidate "c-001" "agent-other"]
      { constraintId := "cst-001" } (dispatch .directExecutor "agent-main-001"))
    (by decide)

def disallowed : Accepted RoutingEnvelope :=
  build
    (routing [candidate "c-001" "agent-main-001"]
      { constraintId := "cst-001", disallowedTargetIds := ["agent-main-001"] }
      (dispatch .directExecutor "agent-main-001"))
    (by decide)

def notOfType : Accepted RoutingEnvelope :=
  build
    (routing [candidate "c-001" "agent-main-001"]
      { constraintId := "cst-001", allowedTargetTypes := [.verifierAgent] }
      (dispatch .directExecutor "agent-main-001"))
    (by decide)

def otherTarget : Accepted RoutingEnvelope :=
  build
    (routing [candidate "c-001" "agent-main-001"] { constraintId := "cst-001" }
      (dispatch .directExecutor "agent-other"))
    (by decide)

def otherType : Accepted RoutingEnvelope :=
  build
    (routing [candidate "c-001" "agent-main-001"] { constraintId := "cst-001" }
      (dispatch .verifierAgent "agent-main-001"))
    (by decide)

/-- Each of the conditions on the selected candidate can fail by itself. -/
theorem dispatched_outside_constraints :
    ¬ RoutesWithin repeated.1 ∧ ¬ RoutesWithin disallowed.1 ∧ ¬ RoutesWithin notOfType.1 ∧
      ¬ RoutesWithin otherTarget.1 ∧ ¬ RoutesWithin otherType.1 := by
  decide

end Constraints

end NovaHarness.RoutingConstraints
