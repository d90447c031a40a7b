import Mathlib.Order.Interval.Finset.Nat
import NovaHarness.RankedLists
import NovaHarness.ContextCandidates

namespace NovaHarness.ContextSelection

open NovaHarness.Text
open NovaHarness.RankedLists
open NovaHarness.ContextCandidates

structure SelectionDecision where
  itemId : String
  itemType : String
  score : Int
  reasons : List String
  deriving DecidableEq, Repr

structure SelectionResult where
  selectedFileIds : List String
  selectedFailureIds : List String
  selectedDocIds : List String
  droppedItemIds : List String
  decisions : List SelectionDecision
  deriving DecidableEq, Repr

structure ContextSelectionPolicy where
  maxFiles : Int := 5
  maxFailures : Int := 3
  maxDocs : Int := 2
  maxTotal : Int := 10
  deriving DecidableEq, Repr

/-- The arguments of `select`. -/
structure SelectionInput where
  relevantFiles : List String
  failingTests : List String
  errorLogs : List String
  taskTitle : String := ""
  taskKeywords : List String
  repoTopPaths : List String
  importedBy : Option (Finset String) := none
  selectedDir : Option String := none

namespace SelectionInput

variable (tables : UnicodeTables) (input : SelectionInput)

def keywordSet : Finset String :=
  ((input.taskKeywords.filter fun k => ¬ IsBlank k).map tables.lower).toFinset

def relevantSet : Finset String :=
  input.relevantFiles.toFinset

def fileCandidates : List CandidateFile :=
  gatherFileCandidates input.relevantFiles input.repoTopPaths

def failureCandidates : List CandidateFailure :=
  gatherFailureCandidates input.failingTests input.errorLogs

def docCandidates : List CandidateDoc :=
  gatherDocCandidates tables input.taskKeywords

/-- The score of a file with the two bonuses that depend on optional
arguments; an empty set or path is as good as none. -/
def fileScore (candidate : CandidateFile) : Int :=
  scoreFile tables (input.keywordSet tables) candidate input.relevantSet input.taskTitle +
    (match input.importedBy with
      | some importedBy =>
          if importedBy = ∅ then 0 else scoreFileImportProximity candidate importedBy
      | none => 0) +
    (match nonEmpty input.selectedDir with
      | some selectedDir => scoreFileSameDirectory candidate selectedDir
      | none => 0)

def failureScore (candidate : CandidateFailure) : Int :=
  scoreFailure tables (input.keywordSet tables) candidate input.relevantSet

def docScore (candidate : CandidateDoc) : Int :=
  scoreDoc tables (input.keywordSet tables) candidate

def scoredFiles : List (Int × CandidateFile) :=
  input.fileCandidates.map fun c => (input.fileScore tables c, c)

def scoredFailures : List (Int × CandidateFailure) :=
  input.failureCandidates.map fun c => (input.failureScore tables c, c)

def scoredDocs : List (Int × CandidateDoc) :=
  (input.docCandidates tables).map fun c => (input.docScore tables c, c)

end SelectionInput

section Decisions

def fileItemId (c : CandidateFile) : String := "file:" ++ c.path

def failureItemId (c : CandidateFailure) : String := "failure:" ++ c.testName

def docItemId (c : CandidateDoc) : String := "doc:" ++ c.title

def fileDecision (p : Int × CandidateFile) : SelectionDecision where
  itemId := fileItemId p.2
  itemType := "file"
  score := p.1
  reasons := [p.2.reason]

def failureDecision (p : Int × CandidateFailure) : SelectionDecision where
  itemId := failureItemId p.2
  itemType := "failure"
  score := p.1
  reasons := [p.2.reason]

def docDecision (p : Int × CandidateDoc) : SelectionDecision where
  itemId := docItemId p.2
  itemType := "doc"
  score := p.1
  reasons := [p.2.reason]

def SelectionDecision.droppedByCap (d : SelectionDecision) : SelectionDecision :=
  { d with reasons := d.reasons ++ ["dropped by cap"] }

@[simp] theorem SelectionDecision.droppedByCap_itemId (d : SelectionDecision) :
    d.droppedByCap.itemId = d.itemId := rfl

end Decisions

section Loop

/-- The local variables of `select` while one of its three loops runs: the ids
selected of the class at hand, and what all loops share. -/
structure Progress where
  selected : List String := []
  totalSelected : Nat := 0
  dropped : List String := []
  decisions : List SelectionDecision := []

variable (cap maxTotal : Int)

/-- The body of the loop, the same for the three classes: `d` is the decision
that selects the candidate. -/
def offer (progress : Progress) (d : SelectionDecision) : Progress :=
  if (progress.selected.length : Int) < cap ∧ (progress.totalSelected : Int) < maxTotal then
    { progress with
      selected := progress.selected ++ [d.itemId]
      totalSelected := progress.totalSelected + 1
      decisions := progress.decisions ++ [d] }
  else
    { progress with
      dropped := progress.dropped ++ [d.itemId]
      decisions := progress.decisions ++ [d.droppedByCap] }

/-- One loop, started with no id of its class. -/
def offerAll (progress : Progress) (ds : List SelectionDecision) : Progress :=
  ds.foldl (offer cap maxTotal) { progress with selected := [] }

end Loop

section Select

variable (policy : ContextSelectionPolicy) (tables : UnicodeTables) (input : SelectionInput)

def SelectionInput.fileDecisions : List SelectionDecision :=
  (rank (fun p => -p.1) (input.scoredFiles tables)).map fileDecision

def SelectionInput.failureDecisions : List SelectionDecision :=
  (rank (fun p => -p.1) (input.scoredFailures tables)).map failureDecision

def SelectionInput.docDecisions : List SelectionDecision :=
  (rank (fun p => -p.1) (input.scoredDocs tables)).map docDecision

namespace ContextSelectionPolicy

def afterFiles : Progress :=
  offerAll policy.maxFiles policy.maxTotal {} (input.fileDecisions tables)

def afterFailures : Progress :=
  offerAll policy.maxFailures policy.maxTotal (policy.afterFiles tables input)
    (input.failureDecisions tables)

def afterDocs : Progress :=
  offerAll policy.maxDocs policy.maxTotal (policy.afterFailures tables input)
    (input.docDecisions tables)

def select : SelectionResult where
  selectedFileIds := (policy.afterFiles tables input).selected
  selectedFailureIds := (policy.afterFailures tables input).selected
  selectedDocIds := (policy.afterDocs tables input).selected
  droppedItemIds := (policy.afterDocs tables input).dropped
  decisions := (policy.afterDocs tables input).decisions

end ContextSelectionPolicy

theorem docCandidates_eq_nil : input.docCandidates tables = [] :=
  gatherDocCandidates_eq_nil tables input.taskKeywords

theorem docDecisions_eq_nil : input.docDecisions tables = [] := by
  rw [SelectionInput.docDecisions, SelectionInput.scoredDocs, docCandidates_eq_nil]
  rfl

end Select

section Cut

/-- `ds` cut after its first `n` decisions. -/
def cut (n : Nat) (ds : List SelectionDecision) : List SelectionDecision :=
  ds.take n ++ (ds.drop n).map (·.droppedByCap)

variable (cap maxTotal : Int)

/-- How many more candidates the loop can select. -/
def room (progress : Progress) : Nat :=
  min (cap - progress.selected.length).toNat (maxTotal - progress.totalSelected).toNat

theorem foldl_offer (progress : Progress) (ds : List SelectionDecision) :
    let n := room cap maxTotal progress
    ds.foldl (offer cap maxTotal) progress =
      { selected := progress.selected ++ (ds.take n).map (·.itemId)
        totalSelected := progress.totalSelected + min n ds.length
        dropped := progress.dropped ++ (ds.drop n).map (·.itemId)
        decisions := progress.decisions ++ cut n ds } := by
  induction ds generalizing progress with
  | nil => simp [cut]
  | cons d ds ih =>
      simp only [List.foldl_cons]
      rw [ih]
      by_cases hroom : (progress.selected.length : Int) < cap ∧
          (progress.totalSelected : Int) < maxTotal
      · have hn : room cap maxTotal progress =
            room cap maxTotal (offer cap maxTotal progress d) + 1 := by
          simp only [room, offer, if_pos hroom, List.length_append, List.length_singleton]
          omega
        rw [hn]
        simp only [offer, if_pos hroom, cut, List.take_succ_cons, List.drop_succ_cons,
          List.map_cons, List.length_cons, List.append_assoc, List.cons_append,
          List.nil_append, Progress.mk.injEq, true_and, and_true]
        omega
      · have hn : room cap maxTotal progress = 0 := by
          simp only [room]
          omega
        have hn' : room cap maxTotal (offer cap maxTotal progress d) = 0 := by
          simp only [room, offer, if_neg hroom]
          omega
        rw [hn, hn']
        simp [offer, if_neg hroom, cut]

/-- What a loop adds, `n` being how many it selects. -/
theorem offerAll_eq (progress : Progress) (ds : List SelectionDecision) (n : Nat)
    (hn : n = min (min cap.toNat (maxTotal.toNat - progress.totalSelected)) ds.length) :
    offerAll cap maxTotal progress ds =
      { selected := (ds.take n).map (·.itemId)
        totalSelected := progress.totalSelected + n
        dropped := progress.dropped ++ (ds.drop n).map (·.itemId)
        decisions := progress.decisions ++ cut n ds } := by
  have hroom : min (room cap maxTotal { progress with selected := [] }) ds.length = n := by
    simp only [room, List.length_nil]
    omega
  rw [offerAll, foldl_offer, cut, List.take_eq_take_min, List.drop_eq_drop_min, hroom]
  simp only [cut, List.nil_append]

end Cut

section Loops

variable (policy : ContextSelectionPolicy) (tables : UnicodeTables) (input : SelectionInput)

/-- How many of each class are selected when `f`, `x` and `d` candidates are at
hand; a negative cap counts as 0. -/
def ContextSelectionPolicy.filesSelected (f : Nat) : Nat :=
  min (min policy.maxFiles.toNat policy.maxTotal.toNat) f

def ContextSelectionPolicy.failuresSelected (f x : Nat) : Nat :=
  min (min policy.maxFailures.toNat (policy.maxTotal.toNat - policy.filesSelected f)) x

def ContextSelectionPolicy.docsSelected (f x d : Nat) : Nat :=
  min
    (min policy.maxDocs.toNat
      (policy.maxTotal.toNat - policy.filesSelected f - policy.failuresSelected f x))
    d

/-- What the three loops leave behind. -/
theorem select_eq {nf nx nd : Nat}
    (hf : nf = policy.filesSelected input.fileCandidates.length)
    (hx : nx = policy.failuresSelected input.fileCandidates.length
      input.failureCandidates.length)
    (hd : nd = policy.docsSelected input.fileCandidates.length input.failureCandidates.length
      (input.docCandidates tables).length) :
    policy.select tables input =
      { selectedFileIds := ((input.fileDecisions tables).take nf).map (·.itemId)
        selectedFailureIds := ((input.failureDecisions tables).take nx).map (·.itemId)
        selectedDocIds := ((input.docDecisions tables).take nd).map (·.itemId)
        droppedItemIds :=
          ((input.fileDecisions tables).drop nf).map (·.itemId) ++
            ((input.failureDecisions tables).drop nx).map (·.itemId) ++
            ((input.docDecisions tables).drop nd).map (·.itemId)
        decisions :=
          cut nf (input.fileDecisions tables) ++ cut nx (input.failureDecisions tables) ++
            cut nd (input.docDecisions tables) } := by
  have hflen : (input.fileDecisions tables).length = input.fileCandidates.length := by
    simp [SelectionInput.fileDecisions, SelectionInput.scoredFiles, rank]
  have hxlen : (input.failureDecisions tables).length = input.failureCandidates.length := by
    simp [SelectionInput.failureDecisions, SelectionInput.scoredFailures, rank]
  have hdlen : (input.docDecisions tables).length = (input.docCandidates tables).length := by
    simp [SelectionInput.docDecisions, SelectionInput.scoredDocs, rank]
  have hfiles : policy.afterFiles tables input = _ :=
    offerAll_eq policy.maxFiles policy.maxTotal {} (input.fileDecisions tables) nf
      (by rw [hf, hflen]; rfl)
  have hfailures : policy.afterFailures tables input = _ :=
    offerAll_eq policy.maxFailures policy.maxTotal (policy.afterFiles tables input)
      (input.failureDecisions tables) nx (by
        rw [hfiles, hx, hxlen, ContextSelectionPolicy.failuresSelected, ← hf, Nat.zero_add])
  have hdocs : policy.afterDocs tables input = _ :=
    offerAll_eq policy.maxDocs policy.maxTotal (policy.afterFailures tables input)
      (input.docDecisions tables) nd (by
        rw [hfailures, hfiles, hd, hdlen, ContextSelectionPolicy.docsSelected, ← hf, ← hx,
          Nat.zero_add, Nat.sub_sub])
  simp only [ContextSelectionPolicy.select, hdocs, hfailures, hfiles, List.nil_append]

end Loops

end NovaHarness.ContextSelection
