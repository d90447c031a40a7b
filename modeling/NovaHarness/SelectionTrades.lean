import NovaHarness.Allotments
import NovaHarness.SelectionCaps

namespace NovaHarness.SelectionTrades

open NovaHarness.Text
open NovaHarness.Allotments
open NovaHarness.RankedLists
open NovaHarness.ContextCandidates
open NovaHarness.ContextSelection
open NovaHarness.SelectionAccounting
open NovaHarness.SelectionCaps

/-- No cap of the first policy is above that of the second. -/
structure RaisedCaps (policy policy' : ContextSelectionPolicy) : Prop where
  files : policy.maxFiles ≤ policy'.maxFiles
  failures : policy.maxFailures ≤ policy'.maxFailures
  docs : policy.maxDocs ≤ policy'.maxDocs
  total : policy.maxTotal ≤ policy'.maxTotal

section Shares

variable (policy policy' : ContextSelectionPolicy)

/-- The classes in the order of the loops of `select`. -/
def shares (f x d : Nat) : List Share :=
  [⟨policy.maxFiles.toNat, f⟩, ⟨policy.maxFailures.toNat, x⟩, ⟨policy.maxDocs.toNat, d⟩]

theorem allot_shares (f x d : Nat) :
    allot policy.maxTotal.toNat (shares policy f x d) =
      [policy.filesSelected f, policy.failuresSelected f x, policy.docsSelected f x d] :=
  rfl

variable {policy policy'} (hraised : RaisedCaps policy policy')

include hraised

theorem shares_raised (f x d : Nat) :
    List.Forall₂ Share.Raised (shares policy f x d) (shares policy' f x d) :=
  .cons ⟨Int.toNat_le_toNat hraised.files, rfl⟩ <|
    .cons ⟨Int.toNat_le_toNat hraised.failures, rfl⟩ <|
      .cons ⟨Int.toNat_le_toNat hraised.docs, rfl⟩ .nil

theorem selected_le (f x d k : Nat) :
    ([policy.filesSelected f, policy.failuresSelected f x, policy.docsSelected f x d].take k).sum ≤
      ([policy'.filesSelected f, policy'.failuresSelected f x,
        policy'.docsSelected f x d].take k).sum := by
  have htotal := Int.toNat_le_toNat hraised.total
  have hsum := sum_take_allot_le (shares_raised hraised f x d) (Nat.le_refl 0)
    (Nat.add_le_add_left htotal 0) k
  rwa [allot_shares, allot_shares, Nat.zero_add, Nat.zero_add] at hsum

theorem failuresSelected_le_iff (f x : Nat) :
    policy.failuresSelected f x ≤ policy'.failuresSelected f x ↔
      policy'.filesSelected f + policy.failuresSelected f x ≤ policy'.maxTotal.toNat := by
  have hshare : Share.Raised ⟨policy.maxFailures.toNat, x⟩ ⟨policy'.maxFailures.toNat, x⟩ :=
    ⟨Int.toNat_le_toNat hraised.failures, rfl⟩
  have hkept := taken_le_taken_iff hshare (policy.maxTotal.toNat - policy.filesSelected f)
    (policy'.maxTotal.toNat - policy'.filesSelected f)
  have hfiles : policy'.filesSelected f ≤ policy'.maxTotal.toNat :=
    taken_le_room ⟨policy'.maxFiles.toNat, f⟩ _
  refine hkept.trans ?_
  change policy.failuresSelected f x ≤ policy'.maxTotal.toNat - policy'.filesSelected f ↔ _
  omega

end Shares

section Lists

variable (policy : ContextSelectionPolicy) (tables : UnicodeTables) (input : SelectionInput)

theorem take_prefix_take_iff {n n' : Nat} {xs : List String} (hn : n ≤ xs.length) :
    xs.take n <+: xs.take n' ↔ n ≤ n' := by
  constructor
  · intro h
    have hlength := h.length_le
    rw [List.length_take, List.length_take] at hlength
    omega
  · exact List.take_prefix_take_left

def rankedFileIds : List String :=
  (input.fileDecisions tables).map (·.itemId)

def failureIds : List String :=
  (input.failureDecisions tables).map (·.itemId)

def docIds : List String :=
  (input.docDecisions tables).map (·.itemId)

def fileCount : Nat :=
  input.fileCandidates.length

def failureCount : Nat :=
  input.failureCandidates.length

def docCount : Nat :=
  (input.docCandidates tables).length

theorem length_rankedFileIds : (rankedFileIds tables input).length = fileCount input := by
  simp [rankedFileIds, SelectionInput.fileDecisions, SelectionInput.scoredFiles, rank, fileCount]

theorem length_failureIds : (failureIds tables input).length = failureCount input := by
  simp [failureIds, SelectionInput.failureDecisions, SelectionInput.scoredFailures, rank,
    failureCount]

theorem length_docIds : (docIds tables input).length = docCount tables input := by
  simp [docIds, SelectionInput.docDecisions, SelectionInput.scoredDocs, rank, docCount]

/-- The caps only say how much is kept of three lists that do not depend on them. -/
theorem selected_eq_take :
    (policy.select tables input).selectedFileIds =
        (rankedFileIds tables input).take (policy.filesSelected (fileCount input)) ∧
      (policy.select tables input).selectedFailureIds =
        (failureIds tables input).take
          (policy.failuresSelected (fileCount input) (failureCount input)) ∧
      (policy.select tables input).selectedDocIds =
        (docIds tables input).take
          (policy.docsSelected (fileCount input) (failureCount input) (docCount tables input)) := by
  rw [select_eq policy tables input rfl rfl rfl]
  refine ⟨?_, ?_, ?_⟩
  · exact List.map_take
  · exact List.map_take
  · exact List.map_take

theorem length_selected :
    (policy.select tables input).selectedFileIds.length =
        policy.filesSelected (fileCount input) ∧
      (policy.select tables input).selectedFailureIds.length =
        policy.failuresSelected (fileCount input) (failureCount input) ∧
      (policy.select tables input).selectedDocIds.length =
        policy.docsSelected (fileCount input) (failureCount input) (docCount tables input) := by
  obtain ⟨hfiles, hfailures, hdocs⟩ := selected_eq_take policy tables input
  rw [hfiles, hfailures, hdocs, List.length_take, List.length_take, List.length_take,
    length_rankedFileIds, length_failureIds, length_docIds]
  refine ⟨?_, ?_, ?_⟩
  · exact min_eq_left (min_le_right _ _)
  · exact min_eq_left (min_le_right _ _)
  · exact min_eq_left (min_le_right _ _)

end Lists

/-- Raised caps keep every selected file and never select less of files and
failures together, nor less altogether.  The failures lose to the files exactly
when these, as they are now, leave too little room for the failures of before, and
then the last ones go. -/
theorem raised_caps_trade (policy policy' : ContextSelectionPolicy)
    (hraised : RaisedCaps policy policy') (tables : UnicodeTables) (input : SelectionInput) :
    let result := policy.select tables input
    let result' := policy'.select tables input
    result.selectedFileIds <+: result'.selectedFileIds ∧
      result.selectedFileIds.length + result.selectedFailureIds.length ≤
        result'.selectedFileIds.length + result'.selectedFailureIds.length ∧
      (selectedIds result).length ≤ (selectedIds result').length ∧
      (result.selectedFailureIds <+: result'.selectedFailureIds ↔
        result'.selectedFileIds.length + result.selectedFailureIds.length ≤
          policy'.maxTotal.toNat) ∧
      (result.selectedFailureIds <+: result'.selectedFailureIds ∨
        result'.selectedFailureIds <+: result.selectedFailureIds) := by
  intro result result'
  obtain ⟨hfiles, hfailures, -⟩ := selected_eq_take policy tables input
  obtain ⟨hfiles', hfailures', -⟩ := selected_eq_take policy' tables input
  obtain ⟨hf, hx, hd⟩ := length_selected policy tables input
  obtain ⟨hf', hx', hd'⟩ := length_selected policy' tables input
  have hsums := selected_le hraised (fileCount input) (failureCount input) (docCount tables input)
  have hone := hsums 1
  have htwo := hsums 2
  have hthree := hsums 3
  simp only [List.take_succ_cons, List.take_zero, List.sum_cons, List.sum_nil] at hone htwo hthree
  refine ⟨?_, ?_, ?_, ?_, ?_⟩
  · rw [show result.selectedFileIds = _ from hfiles, show result'.selectedFileIds = _ from hfiles']
    exact List.take_prefix_take_left (by omega)
  · rw [hf, hx, hf', hx']
    omega
  · simp only [selectedIds, List.length_append]
    rw [hf, hx, hd, hf', hx', hd']
    omega
  · rw [hf', hx, show result.selectedFailureIds = _ from hfailures,
      show result'.selectedFailureIds = _ from hfailures', take_prefix_take_iff]
    · exact failuresSelected_le_iff hraised _ _
    · rw [length_failureIds]
      exact min_le_right _ _
  · rw [show result.selectedFailureIds = _ from hfailures,
      show result'.selectedFailureIds = _ from hfailures']
    rcases Nat.le_total (policy.failuresSelected (fileCount input) (failureCount input))
      (policy'.failuresSelected (fileCount input) (failureCount input)) with h | h
    · exact Or.inl (List.take_prefix_take_left h)
    · exact Or.inr (List.take_prefix_take_left h)

def twoEach : SelectionInput where
  relevantFiles := ["src/a.py", "src/b.py"]
  failingTests := ["test_a", "test_b"]
  errorLogs := []
  taskKeywords := []
  repoTopPaths := []

/-- A second file takes the place of the second failure. -/
theorem raised_caps_trade_twoEach :
    ¬ ((({ maxFiles := 1, maxTotal := 3 } : ContextSelectionPolicy).select asciiTables
        twoEach).selectedFailureIds <+:
      (({ maxFiles := 2, maxTotal := 3 } : ContextSelectionPolicy).select asciiTables
        twoEach).selectedFailureIds) := by
  have hraised : RaisedCaps { maxFiles := 1, maxTotal := 3 } { maxFiles := 2, maxTotal := 3 } :=
    ⟨by decide, by decide, by decide, by decide⟩
  obtain ⟨-, -, -, hkept, -⟩ := raised_caps_trade _ _ hraised asciiTables twoEach
  rw [hkept]
  decide

end NovaHarness.SelectionTrades
