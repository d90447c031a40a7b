import NovaHarness.ResolutionPolicies

namespace NovaHarness.ClarificationClosure

open NovaHarness.RecordValidation
open NovaHarness.ResolutionPolicies

def Proceeds (envelope : ClarificationResolutionEnvelope) : Prop :=
  envelope.decision.clarificationDisposition ∈ [.readyToProceed, .proceedWithGaps]

instance (envelope : ClarificationResolutionEnvelope) : Decidable (Proceeds envelope) :=
  inferInstanceAs (Decidable (_ ∈ _))

/-- The resolution names the gap and is in a status that closes it. -/
def Closes (fr : FieldResolutionRecord) (gap : MissingInfoGapRecord) : Prop :=
  fr.gapId = gap.gapId ∧ fr.resolutionStatus ∈ resolvedStates

instance (fr : FieldResolutionRecord) (gap : MissingInfoGapRecord) : Decidable (Closes fr gap) :=
  inferInstanceAs (Decidable (_ ∧ _))

/-- Each blocking gap record is closed by a resolution that closes no other one,
records being told apart by their positions. -/
def ClosesOwn (envelope : ClarificationResolutionEnvelope) : Prop :=
  ∃ own : Nat → Nat, ∀ i gap, envelope.gaps[i]? = some gap → gap.blocking = true →
    (∃ fr, envelope.fieldResolutions[own i]? = some fr ∧ Closes fr gap) ∧
      ∀ j gap', envelope.gaps[j]? = some gap' → gap'.blocking = true → own i = own j → i = j

/-- No blocking gap is on the list of gaps the decision leaves open. -/
def LeavesNoBlocker (envelope : ClarificationResolutionEnvelope) : Prop :=
  ∀ gap ∈ envelope.gaps, gap.blocking = true →
    gap.gapId ∉ envelope.decision.remainingOpenGapIds

instance (envelope : ClarificationResolutionEnvelope) : Decidable (LeavesNoBlocker envelope) :=
  inferInstanceAs (Decidable (∀ gap ∈ envelope.gaps, _ → _))

theorem exists_closes_of_mem_resolvedGapIds {envelope : ClarificationResolutionEnvelope}
    {gap : MissingInfoGapRecord} (h : gap.gapId ∈ envelope.resolvedGapIds) :
    ∃ fr ∈ envelope.fieldResolutions, Closes fr gap := by
  obtain ⟨fr, hfr, hid⟩ := List.mem_map.mp h
  obtain ⟨hmem, hstatus⟩ := List.mem_filter.mp hfr
  exact ⟨fr, hmem, hid, of_decide_eq_true hstatus⟩

/-- Every blocking gap is closed under its id, and what the decision leaves open
are gaps of the envelope; a blocker among them is closed all the same. -/
theorem closed_of_proceeds (envelope : Accepted ClarificationResolutionEnvelope)
    (hproceeds : Proceeds envelope.1) :
    (∀ gap ∈ envelope.1.gaps, gap.blocking = true →
      ∃ fr ∈ envelope.1.fieldResolutions, Closes fr gap) ∧
    ∀ gid ∈ envelope.1.decision.remainingOpenGapIds,
      ∃ gap ∈ envelope.1.gaps, gap.gapId = gid ∧
        (gap.blocking = true → ∃ fr ∈ envelope.1.fieldResolutions, Closes fr gap) := by
  obtain ⟨tables, raw, h⟩ := envelope.2
  have hconnected := (ClarificationResolutionEnvelope.checked_of_validate h).connected
  have hclosed : ∀ gap ∈ envelope.1.gaps, gap.blocking = true →
      ∃ fr ∈ envelope.1.fieldResolutions, Closes fr gap :=
    fun gap hgap hblocking =>
      exists_closes_of_mem_resolvedGapIds (hconnected.proceeding hproceeds gap hgap hblocking)
  refine ⟨hclosed, fun gid hgid => ?_⟩
  obtain ⟨gap, hgap, hid⟩ := List.mem_map.mp (hconnected.stillOpen gid hgid)
  exact ⟨gap, hgap, hid, hclosed gap hgap⟩

theorem closed_of_proceeds_asked :
    Proceeds asked.1 ∧ ∀ gap ∈ asked.1.gaps, gap.blocking = true →
      ∃ fr ∈ asked.1.fieldResolutions, Closes fr gap :=
  ⟨by decide, (closed_of_proceeds asked (by decide)).1⟩

/-- Two records of the gap in the deadline, and one resolution. -/
def recordedTwice : Accepted ClarificationResolutionEnvelope :=
  build
    { clarification [] (resolution .askUser .resolved) with gaps := [deadline, deadline] }
    (by decide)

/-- The deadline is put off: its resolution is closed, and the decision lists
the gap as remaining. -/
def putOff : Accepted ClarificationResolutionEnvelope :=
  build
    { clarification [] (resolution .defer .deferred) with
      decision :=
        { decisionId := "dec-001"
          clarificationSessionId := "cs-001"
          clarificationDisposition := .proceedWithGaps
          remainingOpenGapIds := ["gap-001"] } }
    (by decide)

theorem proceeds_without_own_closing :
    (Proceeds recordedTwice.1 ∧ ¬ ClosesOwn recordedTwice.1) ∧
      (Proceeds putOff.1 ∧ ¬ LeavesNoBlocker putOff.1) := by
  refine ⟨⟨by decide, ?_⟩, by decide⟩
  rintro ⟨own, hown⟩
  -- With one resolution both records have to point at it.
  have hfirst : ∀ i, (∃ fr, recordedTwice.1.fieldResolutions[own i]? = some fr ∧
      Closes fr deadline) → own i = 0 := by
    rintro i ⟨fr, hfr, -⟩
    obtain ⟨hlt, -⟩ := List.getElem?_eq_some_iff.mp hfr
    have hone : recordedTwice.1.fieldResolutions.length = 1 := by decide
    omega
  obtain ⟨hzero, hinjective⟩ := hown 0 deadline (by decide) (by decide)
  obtain ⟨hone, -⟩ := hown 1 deadline (by decide) (by decide)
  have hsame := hinjective 1 deadline (by decide) (by decide)
    ((hfirst 0 hzero).trans (hfirst 1 hone).symm)
  exact absurd hsame (by decide)

end NovaHarness.ClarificationClosure
