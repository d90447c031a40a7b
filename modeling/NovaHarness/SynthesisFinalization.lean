import Mathlib.Algebra.Order.Ring.Rat
import NovaHarness.RecordValidation

namespace NovaHarness.SynthesisFinalization

open NovaHarness.Text
open NovaHarness.RecordValidation

inductive FinalizationStatus where
  | draft
  | inSynthesis
  | validated
  | approved
  | rejected
  | needsRework
  | released
  deriving DecidableEq, Repr

inductive FinalDisposition where
  | accept
  | acceptWithCaveats
  | returnForRework
  | reject
  | escalate
  deriving DecidableEq, Repr

section Records

/-- `Field(ge=0.0, le=1.0)` of an optional number. -/
def fraction (loc : String) (value : Option ℚ) : List FieldError :=
  optionAtLeast loc "0" 0 value ++ optionAtMost loc "1" 1 value

structure SynthesisSourceRecord where
  sourceId : String
  sourceRef : String
  eligibilityStatus : String
  confidence : Option ℚ := none
  deriving DecidableEq, Repr

def SynthesisSourceRecord.validate (raw : SynthesisSourceRecord) :
    Validated SynthesisSourceRecord :=
  fields
    (idField "source_id" "source_id must not be blank" raw.sourceId ++
      idField "source_ref" "source_ref must not be blank" raw.sourceRef ++
      idField "eligibility_status" "eligibility_status must not be blank" raw.eligibilityStatus ++
      fraction "confidence" raw.confidence)
    { raw with
      sourceId := strip raw.sourceId
      sourceRef := strip raw.sourceRef
      eligibilityStatus := strip raw.eligibilityStatus }

structure NormalizationRecord where
  normalizationId : String
  sourceId : String
  inputRef : String
  normalizedRef : String
  deriving DecidableEq, Repr

def NormalizationRecord.validate (raw : NormalizationRecord) : Validated NormalizationRecord :=
  fields
    (idField "normalization_id" "normalization_id must not be blank" raw.normalizationId ++
      idField "source_id" "source_id must not be blank" raw.sourceId ++
      idField "input_ref" "input_ref must not be blank" raw.inputRef ++
      idField "normalized_ref" "normalized_ref must not be blank" raw.normalizedRef)
    { normalizationId := strip raw.normalizationId
      sourceId := strip raw.sourceId
      inputRef := strip raw.inputRef
      normalizedRef := strip raw.normalizedRef }

structure SynthesisConflictRecord where
  conflictId : String
  sourceIds : List String
  conflictSummary : String
  resolved : Bool := false
  deriving DecidableEq, Repr

def SynthesisConflictRecord.validate (raw : SynthesisConflictRecord) :
    Validated SynthesisConflictRecord :=
  fields
    (idField "conflict_id" "conflict_id must not be blank" raw.conflictId ++
      andThen (minItems "source_ids" 2 raw.sourceIds)
        (check "source_ids" "source_ids in conflict must be unique" raw.sourceIds.Nodup) ++
      idField "conflict_summary" "conflict_summary must not be blank" raw.conflictSummary)
    { raw with
      conflictId := strip raw.conflictId
      conflictSummary := strip raw.conflictSummary }

structure SynthesisDecisionRecord where
  decisionId : String
  selectedSourceIds : List String := []
  rejectedSourceIds : List String := []
  deriving DecidableEq, Repr

def SynthesisDecisionRecord.validate (raw : SynthesisDecisionRecord) :
    Validated SynthesisDecisionRecord :=
  fields (idField "decision_id" "decision_id must not be blank" raw.decisionId)
    { raw with decisionId := strip raw.decisionId }

structure ValidationSummaryRecord where
  validationSummaryId : String
  qualityScore : Option ℚ := none
  reviewRequired : Bool := false
  deriving DecidableEq, Repr

def ValidationSummaryRecord.validate (raw : ValidationSummaryRecord) :
    Validated ValidationSummaryRecord :=
  fields
    (idField "validation_summary_id" "validation_summary_id must not be blank"
        raw.validationSummaryId ++
      fraction "quality_score" raw.qualityScore)
    { raw with validationSummaryId := strip raw.validationSummaryId }

structure FinalizationRecord where
  finalizationId : String
  finalizationStatus : FinalizationStatus
  finalDisposition : FinalDisposition
  approvalReason : Option String := none
  releaseReady : Bool := false
  deriving DecidableEq, Repr

def FinalizationRecord.validate (raw : FinalizationRecord) : Validated FinalizationRecord := do
  let finalization ← fields
    (idField "finalization_id" "finalization_id must not be blank" raw.finalizationId)
    { raw with finalizationId := strip raw.finalizationId }
  whenever (finalization.finalDisposition ∈ [.returnForRework, .reject])
    (requireText finalization.approvalReason
      "return_for_rework or reject must include approval_reason")
  whenever (finalization.finalDisposition ∈ [.accept, .acceptWithCaveats])
    (requireText finalization.approvalReason
      "accept or accept_with_caveats must include approval_reason")
  require (finalization.finalizationStatus = .released → finalization.releaseReady = true)
    "released status requires release_ready=True"
  return finalization

structure SynthesisOutputRecord where
  outputId : String
  resultSummary : String
  finalOutputRefs : List String := []
  deriving DecidableEq, Repr

def SynthesisOutputRecord.validate (raw : SynthesisOutputRecord) :
    Validated SynthesisOutputRecord :=
  fields
    (idField "output_id" "output_id must not be blank" raw.outputId ++
      idField "result_summary" "result_summary must not be blank" raw.resultSummary)
    { raw with
      outputId := strip raw.outputId
      resultSummary := strip raw.resultSummary }

structure SynthesisFinalizationEnvelope where
  envelopeId : String
  sources : List SynthesisSourceRecord
  normalizations : List NormalizationRecord := []
  conflicts : List SynthesisConflictRecord := []
  decision : SynthesisDecisionRecord
  validationSummary : ValidationSummaryRecord
  finalization : FinalizationRecord
  output : SynthesisOutputRecord
  deriving DecidableEq, Repr

end Records

namespace SynthesisFinalizationEnvelope

def eligible (sources : List SynthesisSourceRecord) : List SynthesisSourceRecord :=
  sources.filter fun s => s.eligibilityStatus = "accepted"

section Construction

def sourceErrors (sources : List SynthesisSourceRecord) : List FieldError :=
  andThen (listErrors "sources" SynthesisSourceRecord.validate sources)
    (andThen (minItems "sources" 1 sources)
      (check "sources" "at least one source must be eligible (accepted)"
        (¬ (eligible (listValues SynthesisSourceRecord.validate sources)).length < 1)))

/-- `conflicts` are those of the conflict field, none when it was rejected. -/
def summaryErrors (conflicts : List SynthesisConflictRecord) (summary : ValidationSummaryRecord) :
    List FieldError :=
  andThen (errorsUnder "validation_summary" summary.validate)
    (check "validation_summary"
      "unresolved conflicts must set review_required=True on validation summary"
      (conflicts.filter (fun c => c.resolved = false) ≠ [] → summary.reviewRequired = true))

def outputErrors (finalization : Option FinalizationRecord) (output : SynthesisOutputRecord) :
    List FieldError :=
  andThen (errorsUnder "output" output.validate)
    (check "output" "accept disposition requires at least one final_output_ref"
      (∀ f ∈ finalization, f.finalDisposition ∈ [.accept, .acceptWithCaveats] →
        output.finalOutputRefs ≠ []))

def normalized (raw : SynthesisFinalizationEnvelope) : SynthesisFinalizationEnvelope where
  envelopeId := strip raw.envelopeId
  sources := listValues SynthesisSourceRecord.validate raw.sources
  normalizations := listValues NormalizationRecord.validate raw.normalizations
  conflicts := listValues SynthesisConflictRecord.validate raw.conflicts
  decision := valueD raw.decision.validate raw.decision
  validationSummary := valueD raw.validationSummary.validate raw.validationSummary
  finalization := valueD raw.finalization.validate raw.finalization
  output := valueD raw.output.validate raw.output

def validate (raw : SynthesisFinalizationEnvelope) : Validated SynthesisFinalizationEnvelope :=
  let envelope := raw.normalized
  let conflictErrors := listErrors "conflicts" SynthesisConflictRecord.validate raw.conflicts
  let finalizationErrors := errorsUnder "finalization" raw.finalization.validate
  let conflicts := (ifValid conflictErrors envelope.conflicts).getD []
  let finalization := ifValid finalizationErrors envelope.finalization
  fields
    (idField "envelope_id" "envelope_id must not be blank" raw.envelopeId ++
      sourceErrors raw.sources ++
      listErrors "normalizations" NormalizationRecord.validate raw.normalizations ++
      conflictErrors ++
      errorsUnder "decision" raw.decision.validate ++
      summaryErrors conflicts raw.validationSummary ++
      finalizationErrors ++
      outputErrors finalization raw.output)
    envelope

instance : Schema SynthesisFinalizationEnvelope := ⟨fun _ => validate⟩

end Construction

section Rules

variable (envelope : SynthesisFinalizationEnvelope)

def checkRejectedOnlyCannotApprove : Validated Unit :=
  require
    (¬ ((eligible envelope.sources).length = 0 ∧
      envelope.finalization.finalizationStatus ∈ [.approved, .released]))
    "rejected-only inputs cannot become approved or released outputs"

def checkAllEnvelopeRules : Validated Unit :=
  envelope.checkRejectedOnlyCannotApprove

end Rules

end SynthesisFinalizationEnvelope

open SynthesisFinalizationEnvelope

section Sources

variable (envelope : SynthesisFinalizationEnvelope)

def HasEligibleSource : Prop :=
  ∃ s ∈ envelope.sources, s.eligibilityStatus = "accepted"

/-- The decision selects eligible sources of the envelope only. -/
structure EligibleSelected : Prop where
  known : ∀ id ∈ envelope.decision.selectedSourceIds,
    envelope.sources.countP (fun s => s.sourceId = id) = 1
  accepted : ∀ id ∈ envelope.decision.selectedSourceIds,
    ∀ s ∈ envelope.sources, s.sourceId = id → s.eligibilityStatus = "accepted"
  notRejected : ∀ id ∈ envelope.decision.selectedSourceIds,
    id ∉ envelope.decision.rejectedSourceIds

variable {envelope}

theorem eligible_length_eq_zero_iff :
    (eligible envelope.sources).length = 0 ↔ ¬ HasEligibleSource envelope := by
  rw [List.length_eq_zero_iff, eligible, List.filter_eq_nil_iff, HasEligibleSource]
  simp

theorem checkAllEnvelopeRules_eq_ok (u : Unit) :
    envelope.checkAllEnvelopeRules = .ok u ↔
      (envelope.finalization.finalizationStatus ∈ [.approved, .released] →
        HasEligibleSource envelope) := by
  rw [checkAllEnvelopeRules, checkRejectedOnlyCannotApprove, require_eq_ok,
    eligible_length_eq_zero_iff]
  constructor
  · intro h hstatus
    by_contra hnone
    exact h ⟨hnone, hstatus⟩
  · rintro h ⟨hnone, hstatus⟩
    exact hnone (h hstatus)

theorem hasEligibleSource (envelope : Accepted SynthesisFinalizationEnvelope) :
    HasEligibleSource envelope.1 := by
  obtain ⟨tables, raw, h⟩ := envelope.2
  change raw.validate = .ok envelope.1 at h
  simp only [validate, fields_eq_ok, List.append_eq_nil_iff] at h
  obtain ⟨⟨⟨⟨⟨⟨⟨⟨-, hsources⟩, -⟩, -⟩, -⟩, -⟩, -⟩, -⟩, henvelope⟩ := h
  simp only [sourceErrors, andThen_eq_nil, check_eq_nil] at hsources
  obtain ⟨-, -, heligible⟩ := hsources
  by_contra hnone
  have hzero := eligible_length_eq_zero_iff.mpr hnone
  rw [← henvelope] at hzero
  change (eligible (listValues SynthesisSourceRecord.validate raw.sources)).length = 0 at hzero
  omega

/-- An accepted envelope has an eligible source, so the rules hold of it; where
they hold, nothing approved or released rests on ineligible sources alone.
Which sources the decision selects is not looked at. -/
theorem eligible_source_present :
    (∀ envelope : Accepted SynthesisFinalizationEnvelope,
      HasEligibleSource envelope.1 ∧ envelope.1.checkAllEnvelopeRules = .ok ()) ∧
      ∀ envelope : SynthesisFinalizationEnvelope, envelope.checkAllEnvelopeRules = .ok () →
        envelope.finalization.finalizationStatus ∈ [.approved, .released] →
          HasEligibleSource envelope := by
  constructor
  · intro envelope
    refine ⟨hasEligibleSource envelope, ?_⟩
    apply (checkAllEnvelopeRules_eq_ok ()).mpr
    exact fun _ => hasEligibleSource envelope
  · exact fun envelope h => (checkAllEnvelopeRules_eq_ok ()).mp h

end Sources

section Selections

def source (sourceId eligibilityStatus : String) : SynthesisSourceRecord where
  sourceId := sourceId
  sourceRef := "ref-1"
  eligibilityStatus := eligibilityStatus

/-- A released envelope whose decision selects and rejects as given. -/
def releasedWith (sources : List SynthesisSourceRecord) (selected rejected : List String) :
    SynthesisFinalizationEnvelope where
  envelopeId := "env-1"
  sources := sources
  decision :=
    { decisionId := "d-1", selectedSourceIds := selected, rejectedSourceIds := rejected }
  validationSummary := { validationSummaryId := "v-1" }
  finalization :=
    { finalizationId := "f-1"
      finalizationStatus := .released
      finalDisposition := .accept
      approvalReason := some "All good"
      releaseReady := true }
  output := { outputId := "o-1", resultSummary := "Merged", finalOutputRefs := ["out-1"] }

def unknownSelected : Accepted SynthesisFinalizationEnvelope :=
  build (releasedWith [source "src-1" "accepted"] ["src-9"] []) (by decide)

def rejectedSelected : Accepted SynthesisFinalizationEnvelope :=
  build (releasedWith [source "src-1" "accepted", source "src-2" "rejected"] ["src-2"] [])
    (by decide)

def selectedAndRejected : Accepted SynthesisFinalizationEnvelope :=
  build (releasedWith [source "src-1" "accepted"] ["src-1"] ["src-1"]) (by decide)

theorem eligible_source_present_rejectedSelected : HasEligibleSource rejectedSelected.1 :=
  eligible_source_present.2 rejectedSelected.1 (eligible_source_present.1 rejectedSelected).2
    (by decide)

/-- The release may rest on a source that is unknown, rejected, or both
selected and rejected. -/
theorem selection_unchecked :
    ¬ EligibleSelected unknownSelected.1 ∧ ¬ EligibleSelected rejectedSelected.1 ∧
      ¬ EligibleSelected selectedAndRejected.1 := by
  refine ⟨fun h => ?_, fun h => ?_, fun h => ?_⟩
  · exact absurd (h.known "src-9" (by decide)) (by decide)
  · exact absurd (h.accepted "src-2" (by decide) (source "src-2" "rejected") (by decide) rfl)
      (by decide)
  · exact absurd (h.notRejected "src-1" (by decide)) (by decide)

end Selections

end NovaHarness.SynthesisFinalization
