import Mathlib.Algebra.Order.Ring.Rat
import Mathlib.Tactic.MkIffOfInductiveProp
import NovaHarness.RecordValidation

namespace NovaHarness.CapabilityNegotiation

open NovaHarness.Text
open NovaHarness.RecordValidation

inductive CompatibilityStatus where
  | compatible
  | partiallyCompatible
  | incompatible
  | unknown
  deriving DecidableEq, Repr

inductive NegotiationDisposition where
  | proceed
  | proceedWithFallbacks
  | reroute
  | reject
  | escalate
  deriving DecidableEq, Repr

section Records

structure CapabilityDeclaration where
  declarationId : String
  partyRef : String
  deriving DecidableEq, Repr

def CapabilityDeclaration.validate (raw : CapabilityDeclaration) :
    Validated CapabilityDeclaration :=
  fields
    (idField "declaration_id" "declaration_id must not be blank" raw.declarationId ++
      idField "party_ref" "party_ref must not be blank" raw.partyRef)
    { declarationId := strip raw.declarationId
      partyRef := strip raw.partyRef }

structure CompatibilityEvaluationRecord where
  evaluationId : String
  requestDeclarationId : String
  offerDeclarationId : String
  compatibilityStatus : CompatibilityStatus
  unmatchedRequirementIds : List String := []
  score : ℚ := 0
  deriving DecidableEq, Repr

namespace CompatibilityEvaluationRecord

def compatibleRequiresNoUnmatchedRequired (evaluation : CompatibilityEvaluationRecord) :
    Validated Unit :=
  require
    (evaluation.compatibilityStatus = .compatible → evaluation.unmatchedRequirementIds = [])
    "compatible status but unmatched_requirement_ids present"

def incompatibleMustHaveUnmatched (evaluation : CompatibilityEvaluationRecord) :
    Validated Unit :=
  require
    (evaluation.compatibilityStatus = .incompatible → evaluation.unmatchedRequirementIds ≠ [])
    "incompatible status but no unmatched_requirement_ids"

def validate (raw : CompatibilityEvaluationRecord) : Validated CompatibilityEvaluationRecord :=
  twoLayers
    (idField "evaluation_id" "evaluation_id must not be blank" raw.evaluationId ++
      idField "request_declaration_id" "request_declaration_id must not be blank"
        raw.requestDeclarationId ++
      idField "offer_declaration_id" "offer_declaration_id must not be blank"
        raw.offerDeclarationId ++
      atLeast "score" "0" 0 raw.score ++
      atMost "score" "100" 100 raw.score)
    { raw with
      evaluationId := strip raw.evaluationId
      requestDeclarationId := strip raw.requestDeclarationId
      offerDeclarationId := strip raw.offerDeclarationId }
    fun evaluation => do
      evaluation.compatibleRequiresNoUnmatchedRequired
      evaluation.incompatibleMustHaveUnmatched

end CompatibilityEvaluationRecord

structure NegotiatedCapabilitySet where
  negotiatedSetId : String
  evaluationId : String
  deriving DecidableEq, Repr

def NegotiatedCapabilitySet.validate (raw : NegotiatedCapabilitySet) :
    Validated NegotiatedCapabilitySet :=
  fields
    (idField "negotiated_set_id" "negotiated_set_id must not be blank" raw.negotiatedSetId ++
      idField "evaluation_id" "evaluation_id must not be blank" raw.evaluationId)
    { negotiatedSetId := strip raw.negotiatedSetId
      evaluationId := strip raw.evaluationId }

structure CompatibilityGapRecord where
  gapId : String
  evaluationId : String
  capabilityName : String
  gapSummary : String
  deriving DecidableEq, Repr

def CompatibilityGapRecord.validate (raw : CompatibilityGapRecord) :
    Validated CompatibilityGapRecord :=
  fields
    (idField "gap_id" "gap_id must not be blank" raw.gapId ++
      idField "evaluation_id" "evaluation_id must not be blank" raw.evaluationId ++
      idField "capability_name" "capability_name must not be blank" raw.capabilityName ++
      idField "gap_summary" "gap_summary must not be blank" raw.gapSummary)
    { gapId := strip raw.gapId
      evaluationId := strip raw.evaluationId
      capabilityName := strip raw.capabilityName
      gapSummary := strip raw.gapSummary }

structure NegotiationDecisionRecord where
  decisionId : String
  evaluationId : String
  negotiationDisposition : NegotiationDisposition
  decisionReason : Option String := none
  selectedFallbacks : List String := []
  approvedOverrideRef : Option String := none
  deriving DecidableEq, Repr

namespace NegotiationDecisionRecord

def proceedWithFallbacksRequiresFallbacks (decision : NegotiationDecisionRecord) :
    Validated Unit :=
  require
    (decision.negotiationDisposition = .proceedWithFallbacks → decision.selectedFallbacks ≠ [])
    "proceed_with_fallbacks requires selected_fallbacks"

def rerouteOrRejectRequiresReason (decision : NegotiationDecisionRecord) : Validated Unit :=
  whenever (decision.negotiationDisposition ∈ [.reroute, .reject])
    (requireText decision.decisionReason "reroute/reject requires decision_reason")

def validate (raw : NegotiationDecisionRecord) : Validated NegotiationDecisionRecord :=
  twoLayers
    (idField "decision_id" "decision_id must not be blank" raw.decisionId ++
      idField "evaluation_id" "evaluation_id must not be blank" raw.evaluationId)
    { raw with
      decisionId := strip raw.decisionId
      evaluationId := strip raw.evaluationId }
    fun decision => do
      -- incompatible_proceed_requires_override complains about nothing
      decision.proceedWithFallbacksRequiresFallbacks
      decision.rerouteOrRejectRequiresReason

end NegotiationDecisionRecord

structure CapabilityNegotiationEnvelope where
  envelopeId : String
  requestDeclaration : CapabilityDeclaration
  offerDeclaration : CapabilityDeclaration
  evaluation : CompatibilityEvaluationRecord
  negotiatedSet : Option NegotiatedCapabilitySet := none
  gaps : List CompatibilityGapRecord := []
  decision : Option NegotiationDecisionRecord := none
  deriving DecidableEq, Repr

namespace CapabilityNegotiationEnvelope

def incompatibleNoProceedWithoutOverride (envelope : CapabilityNegotiationEnvelope) :
    Validated Unit :=
  envelope.decision.toList |> forEach fun d =>
    whenever
      (envelope.evaluation.compatibilityStatus = .incompatible ∧
        d.negotiationDisposition = .proceed)
      (requireText d.approvedOverrideRef
        "incompatible cannot proceed without approved_override_ref")

def proceedWithFallbacksNeedsGaps (envelope : CapabilityNegotiationEnvelope) : Validated Unit :=
  envelope.decision.toList |> forEach fun d =>
    require (d.negotiationDisposition = .proceedWithFallbacks → envelope.gaps ≠ [])
      "proceed_with_fallbacks decision but no gaps recorded"

def normalized (raw : CapabilityNegotiationEnvelope) : CapabilityNegotiationEnvelope where
  envelopeId := strip raw.envelopeId
  requestDeclaration := valueD raw.requestDeclaration.validate raw.requestDeclaration
  offerDeclaration := valueD raw.offerDeclaration.validate raw.offerDeclaration
  evaluation := valueD raw.evaluation.validate raw.evaluation
  negotiatedSet := optionValue NegotiatedCapabilitySet.validate raw.negotiatedSet
  gaps := listValues CompatibilityGapRecord.validate raw.gaps
  decision := optionValue NegotiationDecisionRecord.validate raw.decision

def validate (raw : CapabilityNegotiationEnvelope) : Validated CapabilityNegotiationEnvelope :=
  twoLayers
    (idField "envelope_id" "envelope_id must not be blank" raw.envelopeId ++
      errorsUnder "request_declaration" raw.requestDeclaration.validate ++
      errorsUnder "offer_declaration" raw.offerDeclaration.validate ++
      errorsUnder "evaluation" raw.evaluation.validate ++
      optionErrors "negotiated_set" NegotiatedCapabilitySet.validate raw.negotiatedSet ++
      listErrors "gaps" CompatibilityGapRecord.validate raw.gaps ++
      optionErrors "decision" NegotiationDecisionRecord.validate raw.decision)
    raw.normalized
    fun envelope => do
      envelope.incompatibleNoProceedWithoutOverride
      envelope.proceedWithFallbacksNeedsGaps

end CapabilityNegotiationEnvelope

end Records

section Acceptance

/-- The parts of an envelope, each by itself. -/
@[mk_iff]
structure PartsAccepted (raw : CapabilityNegotiationEnvelope) : Prop where
  envelopeId : ¬ IsBlank raw.envelopeId
  requestDeclaration : ∃ d, raw.requestDeclaration.validate = .ok d
  offerDeclaration : ∃ d, raw.offerDeclaration.validate = .ok d
  evaluation : ∃ e, raw.evaluation.validate = .ok e
  negotiatedSet : ∀ s ∈ raw.negotiatedSet, ∃ a, s.validate = .ok a
  gaps : ∀ g ∈ raw.gaps, ∃ a, g.validate = .ok a
  decision : ∀ d ∈ raw.decision, ∃ a, d.validate = .ok a

/-- What a decision owes to the evaluation and to the gaps next to it. -/
structure Justified (envelope : CapabilityNegotiationEnvelope) (d : NegotiationDecisionRecord) :
    Prop where
  override : envelope.evaluation.compatibilityStatus = .incompatible →
    d.negotiationDisposition = .proceed → ∃ ref, d.approvedOverrideRef = some ref ∧ ref ≠ ""
  gaps : d.negotiationDisposition = .proceedWithFallbacks → envelope.gaps ≠ []

theorem rules_eq_ok (envelope : CapabilityNegotiationEnvelope) (u : Unit) :
    (do envelope.incompatibleNoProceedWithoutOverride
        envelope.proceedWithFallbacksNeedsGaps : Validated Unit) = .ok u ↔
      ∀ d ∈ envelope.decision, Justified envelope d := by
  rw [bind_eq_ok]
  simp only [CapabilityNegotiationEnvelope.incompatibleNoProceedWithoutOverride,
    CapabilityNegotiationEnvelope.proceedWithFallbacksNeedsGaps, forEach_eq_ok, whenever_eq_ok,
    requireText_eq_ok, require_eq_ok, Option.mem_toList, exists_const]
  constructor
  · rintro ⟨hoverride, hgaps⟩ d hd
    exact ⟨fun hstatus hproceed => hoverride d hd ⟨hstatus, hproceed⟩, hgaps d hd⟩
  · intro h
    exact ⟨fun d hd hboth => (h d hd).override hboth.1 hboth.2, fun d hd => (h d hd).gaps⟩

theorem validate_eq_ok (raw envelope : CapabilityNegotiationEnvelope) :
    raw.validate = .ok envelope ↔
      (PartsAccepted raw ∧ ∀ d ∈ envelope.decision, Justified envelope d) ∧
        raw.normalized = envelope := by
  rw [CapabilityNegotiationEnvelope.validate, twoLayers_eq_ok, rules_eq_ok, partsAccepted_iff]
  simp only [List.append_eq_nil_iff, idField_eq_nil, errorsUnder_eq_nil, optionErrors_eq_nil,
    listErrors_eq_nil, and_assoc]

theorem unmatched_of_compatible {raw evaluation : CompatibilityEvaluationRecord}
    (h : raw.validate = .ok evaluation) :
    evaluation.compatibilityStatus = .compatible → evaluation.unmatchedRequirementIds = [] := by
  have hrules := ((twoLayers_eq_ok _ _ _ _).mp h).1.2
  obtain ⟨_, hcompatible, -⟩ := (bind_eq_ok _ _ _).mp hrules
  exact (require_eq_ok _ _ _).mp hcompatible

theorem selectedFallbacks_ne_nil {raw d : NegotiationDecisionRecord}
    (h : raw.validate = .ok d) :
    d.negotiationDisposition = .proceedWithFallbacks → d.selectedFallbacks ≠ [] := by
  have hrules := ((twoLayers_eq_ok _ _ _ _).mp h).1.2
  obtain ⟨_, hfallbacks, -⟩ := (bind_eq_ok _ _ _).mp hrules
  exact (require_eq_ok _ _ _).mp hfallbacks

theorem compatibilityStatus_normalized {raw : CapabilityNegotiationEnvelope}
    (h : PartsAccepted raw) :
    raw.normalized.evaluation.compatibilityStatus = raw.evaluation.compatibilityStatus := by
  obtain ⟨evaluation, hevaluation⟩ := h.evaluation
  rw [CapabilityNegotiationEnvelope.normalized, hevaluation, valueD_ok]
  obtain ⟨-, rfl⟩ := (twoLayers_eq_ok _ _ _ _).mp hevaluation
  rfl

theorem justified_normalized_iff {raw : CapabilityNegotiationEnvelope} (h : PartsAccepted raw)
    {d d' : NegotiationDecisionRecord} (hd : d.validate = .ok d') :
    Justified raw.normalized d' ↔ Justified raw d := by
  have hgaps : raw.normalized.gaps = [] ↔ raw.gaps = [] := List.map_eq_nil_iff
  obtain ⟨-, rfl⟩ := (twoLayers_eq_ok _ _ _ _).mp hd
  constructor
  · rintro ⟨hoverride, hfallbacks⟩
    rw [compatibilityStatus_normalized h] at hoverride
    exact ⟨hoverride, fun hd => mt hgaps.mpr (hfallbacks hd)⟩
  · rintro ⟨hoverride, hfallbacks⟩
    rw [← compatibilityStatus_normalized h] at hoverride
    exact ⟨hoverride, fun hd => mt hgaps.mp (hfallbacks hd)⟩

/-- Records that are accepted each by itself go together exactly when the decision
is justified: the ids in them are not compared, nor is the set that was negotiated. -/
theorem negotiates_iff {raw : CapabilityNegotiationEnvelope} (h : PartsAccepted raw) :
    (∃ envelope, raw.validate = .ok envelope) ↔ ∀ d ∈ raw.decision, Justified raw d := by
  have hdecision : (∀ d ∈ raw.normalized.decision, Justified raw.normalized d) ↔
      ∀ d ∈ raw.decision, Justified raw d := by
    constructor
    · intro hall d hd
      obtain ⟨d', hd'⟩ := h.decision d hd
      have hmem : d' ∈ raw.normalized.decision :=
        Option.mem_map.mpr ⟨d, hd, by rw [hd', valueD_ok]⟩
      exact (justified_normalized_iff h hd').mp (hall d' hmem)
    · intro hall d' hd'
      obtain ⟨d, hd, hvalid⟩ := exists_of_mem_optionValue h.decision hd'
      exact (justified_normalized_iff h hvalid).mpr (hall d hd)
  rw [← hdecision]
  constructor
  · rintro ⟨envelope, henvelope⟩
    obtain ⟨⟨-, hjustified⟩, rfl⟩ := (validate_eq_ok raw envelope).mp henvelope
    exact hjustified
  · intro hjustified
    exact ⟨raw.normalized, (validate_eq_ok _ _).mpr ⟨⟨h, hjustified⟩, rfl⟩⟩

/-- An envelope that goes ahead although some requirements are unmatched gives a
reason for it, unless its evaluation leaves it open how compatible the two are. -/
theorem shortfall_accounted {raw envelope : CapabilityNegotiationEnvelope}
    (h : raw.validate = .ok envelope) {d : NegotiationDecisionRecord}
    (hd : d ∈ envelope.decision)
    (hunmatched : envelope.evaluation.unmatchedRequirementIds ≠ []) :
    (d.negotiationDisposition = .proceed →
      (∃ ref, d.approvedOverrideRef = some ref ∧ ref ≠ "") ∨
        envelope.evaluation.compatibilityStatus ∈ [.partiallyCompatible, .unknown]) ∧
    (d.negotiationDisposition = .proceedWithFallbacks →
      d.selectedFallbacks ≠ [] ∧ envelope.gaps ≠ []) := by
  obtain ⟨⟨hparts, hjustified⟩, rfl⟩ := (validate_eq_ok raw envelope).mp h
  obtain ⟨e, hevaluation⟩ := hparts.evaluation
  have hvalue : raw.normalized.evaluation = e := by
    rw [CapabilityNegotiationEnvelope.normalized, hevaluation, valueD_ok]
  constructor
  · intro hproceed
    rw [hvalue] at hunmatched ⊢
    have hcompatible : e.compatibilityStatus ≠ .compatible :=
      mt (unmatched_of_compatible hevaluation) hunmatched
    by_cases hstatus : e.compatibilityStatus = .incompatible
    · exact Or.inl ((hjustified d hd).override (hvalue ▸ hstatus) hproceed)
    · cases hs : e.compatibilityStatus with
      | compatible => exact absurd hs hcompatible
      | incompatible => exact absurd hs hstatus
      | partiallyCompatible | unknown => simp
  · intro hfallbacks
    obtain ⟨_, -, hdecision⟩ := exists_of_mem_optionValue hparts.decision hd
    exact ⟨selectedFallbacks_ne_nil hdecision hfallbacks, (hjustified d hd).gaps hfallbacks⟩

end Acceptance

end NovaHarness.CapabilityNegotiation
