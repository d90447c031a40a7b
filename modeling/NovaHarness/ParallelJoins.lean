import Mathlib.Data.Finset.Card
import Mathlib.Data.Finset.Dedup
import NovaHarness.ParallelJoinSchema

namespace NovaHarness.ParallelJoins

open NovaHarness.RecordValidation
open NovaHarness.ParallelJoinSchema
open NovaHarness.ParallelJoinSchema.ParallelJoinEnvelope

section Rules

theorem checkCompletionCount_eq_ok (req : JoinRequirementRecord) (u : Unit) :
    checkCompletionCount req = .ok u ↔
      ∀ count ∈ req.requiredCompletionCount,
        1 ≤ count ∧ (req.requiredBranchIds ≠ [] → count ≤ req.requiredBranchIds.length) := by
  unfold checkCompletionCount
  rcases req.requiredCompletionCount with _ | count
  · simp
  · simp only [bind_eq_ok, require_eq_ok, exists_const, Option.mem_some_iff, forall_eq',
      List.length_pos_iff, gt_iff_lt, not_and, not_lt]

theorem checkFirstSuccess_eq_ok (policy : JoinPolicy) (req : JoinRequirementRecord) (u : Unit) :
    checkFirstSuccess policy req = .ok u ↔
      (policy = .waitForFirstSuccess → 1 < req.requiredBranchIds.length →
        req.requiredCompletionCount ≠ none) := by
  rw [checkFirstSuccess, require_eq_ok, not_and, not_and]

theorem checkMergeStatus_eq_ok (execution : Option JoinExecutionRecord) (u : Unit) :
    checkMergeStatus execution = .ok u ↔
      ∀ e ∈ execution, e.joinStatus = .merged ∨ e.joinStatus = .partialMerge := by
  rw [checkMergeStatus, require_eq_ok]
  simp

/-- The loop over the required branches concludes nothing. -/
theorem checkAllEnvelopeRules_eq_ok (envelope : ParallelJoinEnvelope) (u : Unit) :
    envelope.checkAllEnvelopeRules = .ok u ↔
      checkCompletionCount envelope.joinRequirements = .ok () ∧
        checkFirstSuccess envelope.parallelRequest.joinPolicy envelope.joinRequirements = .ok () ∧
        (envelope.mergeResult ≠ none → checkMergeStatus envelope.joinExecution = .ok ()) := by
  simp only [checkAllEnvelopeRules, validateJoinRequirements, checkMergeRequiresCompletedJoin,
    unit_bind_eq_ok, whenever_eq_ok, forEach_eq_ok, implies_true, true_and, and_assoc]

end Rules

section Accepted

variable (envelope : Accepted ParallelJoinEnvelope)

/-- Construction makes the checks that `check_all_envelope_rules` repeats. -/
theorem checkAllEnvelopeRules_of_accepted : envelope.1.checkAllEnvelopeRules = .ok () := by
  obtain ⟨tables, raw, h⟩ := envelope.2
  change raw.validate = .ok envelope.1 at h
  simp only [validate, fields_eq_ok, List.append_eq_nil_iff] at h
  obtain ⟨⟨⟨⟨⟨⟨⟨⟨-, hrequest⟩, hassigned⟩, -⟩, -⟩, hreq⟩, hexecution⟩, hmerge⟩, henvelope⟩ := h
  rw [ifValid_eq_some hrequest, requirementErrors, andThen_eq_nil, fieldCheck_eq_nil] at hreq
  rw [ifValid_eq_some hexecution, mergeErrors, andThen_eq_nil, fieldCheck_eq_nil,
    whenever_eq_ok] at hmerge
  simp only [unit_bind_eq_ok] at hreq
  rw [checkAllEnvelopeRules_eq_ok, ← henvelope]
  refine ⟨hreq.2.1, hreq.2.2, fun hsome => ?_⟩
  apply hmerge.2
  intro hnone
  apply hsome
  show optionValue MergeResultRecord.validate raw.mergeResult = none
  rw [hnone]
  rfl

end Accepted

section Merging

variable (envelope : ParallelJoinEnvelope)

/-- A merge result stands next to a join only when that join has merged. -/
def MergedAfterJoin : Prop :=
  envelope.mergeResult ≠ none → ∀ execution ∈ envelope.joinExecution,
    execution.joinStatus = .merged ∨ execution.joinStatus = .partialMerge

/-- The merge waits for every required branch, under the requested policy. -/
def WaitedForAll : Prop :=
  envelope.parallelRequest.joinPolicy = .waitForAll →
    envelope.joinRequirements.acceptPartialFailures = false →
      envelope.mergeResult ≠ none → ∀ execution ∈ envelope.joinExecution,
        envelope.joinRequirements.requiredBranchIds ⊆ execution.completedBranchIds ∧
          execution.joinPolicy = envelope.parallelRequest.joinPolicy

theorem mergedAfterJoin_of_rules {envelope : ParallelJoinEnvelope}
    (h : envelope.checkAllEnvelopeRules = .ok ()) : MergedAfterJoin envelope := by
  obtain ⟨-, -, hmerge⟩ := (checkAllEnvelopeRules_eq_ok envelope ()).mp h
  exact fun hsome => (checkMergeStatus_eq_ok _ ()).mp (hmerge hsome)

/-- Both ways of checking an envelope let a merge result stand only next to a
join that has merged, whatever the policy; which branches had completed by then
is left to the caller. -/
theorem merge_gating :
    (∀ envelope : Accepted ParallelJoinEnvelope,
      MergedAfterJoin envelope.1 ∧ envelope.1.checkAllEnvelopeRules = .ok ()) ∧
      ∀ envelope : ParallelJoinEnvelope,
        envelope.checkAllEnvelopeRules = .ok () → MergedAfterJoin envelope := by
  refine ⟨fun envelope => ?_, fun envelope => mergedAfterJoin_of_rules⟩
  have hrules := checkAllEnvelopeRules_of_accepted envelope
  exact ⟨mergedAfterJoin_of_rules hrules, hrules⟩

def assignment (branchId : String) : BranchAssignmentRecord where
  branchId := branchId
  parallelRequestId := "pr-1"
  scopeSummary := "Part of the work"

/-- Merged while the only required branch is still planned, and under a policy
that nobody asked for. -/
def mergedTooEarly : Accepted ParallelJoinEnvelope :=
  build
    { envelopeId := "env-1"
      parallelRequest :=
        { parallelRequestId := "pr-1", objective := "Split the work", joinPolicy := .waitForAll }
      branchAssignments := [assignment "b-1"]
      joinRequirements :=
        { joinRequirementId := "jr-1", parallelRequestId := "pr-1", requiredBranchIds := ["b-1"] }
      joinExecution := some
        { joinId := "j-1", parallelRequestId := "pr-1", joinPolicy := .manualJoin,
          joinStatus := .merged }
      mergeResult := some { mergeId := "m-1", joinId := "j-1" } }
    (by decide)

theorem merge_gating_mergedTooEarly : MergedAfterJoin mergedTooEarly.1 :=
  merge_gating.2 mergedTooEarly.1 (merge_gating.1 mergedTooEarly).2

theorem mergedTooEarly_not_waitedForAll :
    ¬ WaitedForAll mergedTooEarly.1 ∧ mergedTooEarly.1.checkAllEnvelopeRules = .ok () := by
  refine ⟨fun h => ?_, by decide⟩
  have hcompleted := h (by decide) (by decide) (by decide) _ rfl
  exact absurd hcompleted.2 (by decide)

end Merging

section Counts

variable (envelope : ParallelJoinEnvelope)

def assignedIds : Finset String :=
  (envelope.branchAssignments.map (·.branchId)).toFinset

def requiredIds : Finset String :=
  envelope.joinRequirements.requiredBranchIds.toFinset

/-- The branches that count towards the join. -/
def countingIds : Finset String :=
  if envelope.joinRequirements.requiredBranchIds = [] then assignedIds envelope
  else requiredIds envelope

/-- Enough branches have completed: the number asked for, or all required ones
when no number is. -/
def JoinMet (completed : Finset String) : Prop :=
  match envelope.joinRequirements.requiredCompletionCount with
  | some count => count ≤ (completed ∩ countingIds envelope).card
  | none => requiredIds envelope ⊆ completed

/-- What would make every join satisfiable. -/
structure CountsFit : Prop where
  known : requiredIds envelope ⊆ assignedIds envelope
  bounded : ∀ count ∈ envelope.joinRequirements.requiredCompletionCount,
    count ≤ (countingIds envelope).card
  strict : envelope.parallelRequest.joinPolicy = .waitForFirstSuccess →
    2 ≤ (requiredIds envelope).card →
      ∃ count ∈ envelope.joinRequirements.requiredCompletionCount,
        count < (requiredIds envelope).card

/-- A count is positive and at most the length of the list of required ids when
that is not empty; waiting for the first success among several needs one.  So a
join can be met where the required ids are listed once each and assigned, and a
count without a list is at most the number of branches. -/
theorem completion_counts (envelope : Accepted ParallelJoinEnvelope) :
    let req := envelope.1.joinRequirements
    (∀ count ∈ req.requiredCompletionCount,
      1 ≤ count ∧ (req.requiredBranchIds ≠ [] → count ≤ req.requiredBranchIds.length)) ∧
      (envelope.1.parallelRequest.joinPolicy = .waitForFirstSuccess →
        1 < req.requiredBranchIds.length → req.requiredCompletionCount ≠ none) ∧
      (req.requiredBranchIds.Nodup → requiredIds envelope.1 ⊆ assignedIds envelope.1 →
        (req.requiredBranchIds = [] →
          ∀ count ∈ req.requiredCompletionCount, count ≤ (assignedIds envelope.1).card) →
          ∃ completed ⊆ assignedIds envelope.1, JoinMet envelope.1 completed) := by
  intro req
  have hrules := checkAllEnvelopeRules_of_accepted envelope
  rw [checkAllEnvelopeRules_eq_ok, checkCompletionCount_eq_ok, checkFirstSuccess_eq_ok] at hrules
  obtain ⟨hcount, hfirst, -⟩ := hrules
  refine ⟨hcount, hfirst, fun hnodup hknown hunlisted => ⟨countingIds envelope.1, ?_, ?_⟩⟩
  · unfold countingIds
    split
    · exact Finset.Subset.refl _
    · exact hknown
  · unfold JoinMet
    rcases hsome : envelope.1.joinRequirements.requiredCompletionCount with _ | count
    · show requiredIds envelope.1 ⊆ countingIds envelope.1
      unfold countingIds
      split
      · exact hknown
      · exact Finset.Subset.refl _
    · show count ≤ (countingIds envelope.1 ∩ countingIds envelope.1).card
      rw [Finset.inter_self]
      unfold countingIds
      split
      · rename_i hnil
        exact hunlisted hnil count hsome
      · rename_i hne
        rw [requiredIds, List.toFinset_card_of_nodup hnodup]
        exact (hcount count hsome).2 hne

def joinOf (policy : JoinPolicy) (required : List String) (count : Option Int) :
    ParallelJoinEnvelope where
  envelopeId := "env-1"
  parallelRequest :=
    { parallelRequestId := "pr-1", objective := "Split the work", joinPolicy := policy }
  branchAssignments := [assignment "b-1", assignment "b-2"]
  joinRequirements :=
    { joinRequirementId := "jr-1"
      parallelRequestId := "pr-1"
      requiredBranchIds := required
      requiredCompletionCount := count }

def twoRequired : Accepted ParallelJoinEnvelope :=
  build (joinOf .waitForQuorum ["b-1", "b-2"] (some 2)) (by decide)

theorem completion_counts_twoRequired :
    ∃ completed ⊆ assignedIds twoRequired.1, JoinMet twoRequired.1 completed :=
  (completion_counts twoRequired).2.2 (by decide) (by decide) (by decide)

def unknownRequired : Accepted ParallelJoinEnvelope :=
  build (joinOf .waitForAll ["b-3"] none) (by decide)

def repeatedRequired : Accepted ParallelJoinEnvelope :=
  build (joinOf .waitForQuorum ["b-1", "b-1"] (some 2)) (by decide)

def countWithoutList : Accepted ParallelJoinEnvelope :=
  build (joinOf .waitForQuorum [] (some 5)) (by decide)

def firstSuccessOfBoth : Accepted ParallelJoinEnvelope :=
  build (joinOf .waitForFirstSuccess ["b-1", "b-2"] (some 2)) (by decide)

/-- Required ids may be unknown or repeated, a count without a list is not
bounded, and the first success may be asked of all branches. -/
theorem counts_need_not_fit :
    ¬ CountsFit unknownRequired.1 ∧ ¬ CountsFit repeatedRequired.1 ∧
      ¬ CountsFit countWithoutList.1 ∧ ¬ CountsFit firstSuccessOfBoth.1 := by
  refine ⟨fun h => ?_, fun h => ?_, fun h => ?_, fun h => ?_⟩
  · exact absurd h.known (by decide)
  · exact absurd (h.bounded 2 rfl) (by decide)
  · exact absurd (h.bounded 5 rfl) (by decide)
  · obtain ⟨count, hcount, hlt⟩ := h.strict (by decide) (by decide)
    obtain rfl := Option.some.inj hcount
    exact absurd hlt (by decide)

end Counts

end NovaHarness.ParallelJoins
