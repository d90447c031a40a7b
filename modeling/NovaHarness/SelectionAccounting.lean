import NovaHarness.ContextSelection

namespace NovaHarness.SelectionAccounting

open NovaHarness.Text
open NovaHarness.RankedLists
open NovaHarness.ContextCandidates
open NovaHarness.ContextSelection

section BestFirst

/-- `selected` are the ids of the `n` best of the scored candidates and
`dropped` those of the others, in the order `ranked`, and `reported` gives all
of them with the score they were ranked by. -/
structure BestFirst {α : Type} (itemId : α → String) (itemType : String)
    (scored ranked : List (Int × α)) (n : Nat) (selected dropped : List String)
    (reported : List (String × String × Int)) : Prop where
  ranks : Ranks (fun p => -p.1) scored ranked
  selected_eq : selected = (ranked.take n).map fun p => itemId p.2
  dropped_eq : dropped = (ranked.drop n).map fun p => itemId p.2
  count : selected.length = n
  best : ∀ a ∈ ranked.take n, ∀ b ∈ ranked.drop n, b.1 ≤ a.1
  reported_eq : reported = ranked.map fun p => (itemId p.2, itemType, p.1)

def report (d : SelectionDecision) : String × String × Int :=
  (d.itemId, d.itemType, d.score)

theorem map_report_cut (n : Nat) (ds : List SelectionDecision) :
    (cut n ds).map report = ds.map report := by
  have hdropped : ((ds.drop n).map (·.droppedByCap)).map report = (ds.drop n).map report := by
    rw [List.map_map]
    exact List.map_congr_left fun d _ => rfl
  rw [cut, List.map_append, hdropped, ← List.map_append, List.take_append_drop]

theorem bestFirst_rank {α : Type} {itemId : α → String} {itemType : String}
    (decision : Int × α → SelectionDecision)
    (hdecision : ∀ p, report (decision p) = (itemId p.2, itemType, p.1))
    (scored : List (Int × α)) {n : Nat} (hn : n ≤ scored.length) :
    let ds := (rank (fun p => -p.1) scored).map decision
    BestFirst itemId itemType scored (rank (fun p => -p.1) scored) n
      ((ds.take n).map (·.itemId)) ((ds.drop n).map (·.itemId)) ((cut n ds).map report) := by
  have hranks := ranks_rank (fun p : Int × α => -p.1) scored
  have hid : ∀ p, (decision p).itemId = itemId p.2 := fun p => congrArg (·.1) (hdecision p)
  refine ⟨hranks, ?_, ?_, ?_, ?_, ?_⟩
  · simp [← List.map_take, hid]
  · simp [← List.map_drop, hid]
  · simp [hranks.length_eq, hn]
  · intro a ha b hb
    have hle := hranks.le_of_mem_take_drop ha hb
    omega
  · rw [map_report_cut, List.map_map]
    exact List.map_congr_left fun p _ => hdecision p

/-- The caps are exact, and within a class nothing dropped scores better than
what is selected. -/
theorem best_first (policy : ContextSelectionPolicy) (tables : UnicodeTables)
    (input : SelectionInput) :
    let result := policy.select tables input
    let f := input.fileCandidates.length
    let x := input.failureCandidates.length
    let d := (input.docCandidates tables).length
    ∃ files failures docs droppedFiles droppedFailures droppedDocs
      reportedFiles reportedFailures reportedDocs,
      BestFirst fileItemId "file" (input.scoredFiles tables) files (policy.filesSelected f)
        result.selectedFileIds droppedFiles reportedFiles ∧
      BestFirst failureItemId "failure" (input.scoredFailures tables) failures
        (policy.failuresSelected f x) result.selectedFailureIds droppedFailures
        reportedFailures ∧
      BestFirst docItemId "doc" (input.scoredDocs tables) docs (policy.docsSelected f x d)
        result.selectedDocIds droppedDocs reportedDocs ∧
      result.droppedItemIds = droppedFiles ++ droppedFailures ++ droppedDocs ∧
      result.decisions.map (fun d => (d.itemId, d.itemType, d.score)) =
        reportedFiles ++ reportedFailures ++ reportedDocs := by
  intro result f x d
  have hresult := select_eq policy tables input rfl rfl rfl
  have hf : policy.filesSelected f ≤ (input.scoredFiles tables).length := by
    simp only [SelectionInput.scoredFiles, List.length_map]
    exact min_le_right _ _
  have hx : policy.failuresSelected f x ≤ (input.scoredFailures tables).length := by
    simp only [SelectionInput.scoredFailures, List.length_map]
    exact min_le_right _ _
  have hd : policy.docsSelected f x d ≤ (input.scoredDocs tables).length := by
    simp only [SelectionInput.scoredDocs, List.length_map]
    exact min_le_right _ _
  change policy.select tables input = _ at hresult
  rw [show result = _ from hresult]
  refine ⟨_, _, _, _, _, _, _, _, _,
    bestFirst_rank fileDecision (fun _ => rfl) _ hf,
    bestFirst_rank failureDecision (fun _ => rfl) _ hx,
    bestFirst_rank docDecision (fun _ => rfl) _ hd, rfl, ?_⟩
  rw [List.map_append, List.map_append]
  rfl

end BestFirst

section NothingLost

def itemIds (result : SelectionResult) : List String :=
  result.selectedFileIds ++ result.selectedFailureIds ++ result.selectedDocIds ++
    result.droppedItemIds

/-- Every id is selected or dropped once, decided once, and marked as dropped
exactly when it is. -/
structure Accounted (result : SelectionResult) : Prop where
  once : (itemIds result).Nodup
  decided : ∀ id ∈ itemIds result, result.decisions.countP (fun d => d.itemId = id) = 1
  marked : ∀ d ∈ result.decisions,
    "dropped by cap" ∈ d.reasons ↔ d.itemId ∈ result.droppedItemIds

variable (policy : ContextSelectionPolicy) (tables : UnicodeTables) (input : SelectionInput)

/-- All decisions of a selection, as they are before the caps are applied. -/
def uncapped : List SelectionDecision :=
  input.fileDecisions tables ++ input.failureDecisions tables ++ input.docDecisions tables

theorem map_itemId_cut (n : Nat) (ds : List SelectionDecision) :
    (cut n ds).map (·.itemId) = ds.map (·.itemId) := by
  have h := congrArg (List.map (·.1)) (map_report_cut n ds)
  simpa [List.map_map, Function.comp_def, report] using h

theorem map_itemId_decisions :
    (policy.select tables input).decisions.map (·.itemId) =
      (uncapped tables input).map (·.itemId) := by
  rw [select_eq policy tables input rfl rfl rfl]
  simp only [List.map_append, map_itemId_cut, uncapped]

theorem itemIds_perm :
    (itemIds (policy.select tables input)).Perm
      ((policy.select tables input).decisions.map (·.itemId)) := by
  rw [map_itemId_decisions, List.perm_iff_count]
  intro id
  have hsplit : ∀ (n : Nat) (ds : List SelectionDecision),
      (ds.map (·.itemId)).count id =
        ((ds.take n).map (·.itemId)).count id + ((ds.drop n).map (·.itemId)).count id := by
    intro n ds
    rw [← List.count_append, ← List.map_append, List.take_append_drop]
  rw [select_eq policy tables input rfl rfl rfl]
  simp only [itemIds, uncapped, List.map_append, List.count_append]
  have hfiles := hsplit (policy.filesSelected input.fileCandidates.length)
    (input.fileDecisions tables)
  have hfailures := hsplit
    (policy.failuresSelected input.fileCandidates.length input.failureCandidates.length)
    (input.failureDecisions tables)
  have hdocs := hsplit
    (policy.docsSelected input.fileCandidates.length input.failureCandidates.length
      (input.docCandidates tables).length)
    (input.docDecisions tables)
  omega

theorem uncapped_itemId_perm :
    ((uncapped tables input).map (·.itemId)).Perm
      (input.fileCandidates.map fileItemId ++ input.failureCandidates.map failureItemId) := by
  have hfiles : ((input.fileDecisions tables).map (·.itemId)).Perm
      (input.fileCandidates.map fileItemId) := by
    have hperm := (ranks_rank (fun p => -p.1) (input.scoredFiles tables)).perm.map
      fun p => fileItemId p.2
    simpa [SelectionInput.fileDecisions, SelectionInput.scoredFiles, Function.comp_def,
      fileDecision] using hperm
  have hfailures : ((input.failureDecisions tables).map (·.itemId)).Perm
      (input.failureCandidates.map failureItemId) := by
    have hperm := (ranks_rank (fun p => -p.1) (input.scoredFailures tables)).perm.map
      fun p => failureItemId p.2
    simpa [SelectionInput.failureDecisions, SelectionInput.scoredFailures, Function.comp_def,
      failureDecision] using hperm
  simpa [uncapped, docDecisions_eq_nil] using hfiles.append hfailures

theorem fileItemId_ne_failureItemId (c : CandidateFile) (c' : CandidateFailure) :
    fileItemId c ≠ failureItemId c' := by
  intro h
  have hchars := congrArg String.toList h
  simp [fileItemId, failureItemId] at hchars

theorem nodup_uncapped :
    ((uncapped tables input).map (·.itemId)).Nodup ↔
      (input.failureCandidates.map (·.testName)).Nodup := by
  have hfiles : (input.fileCandidates.map fileItemId).Nodup := by
    have hpaths := nodup_gatherFileCandidates input.relevantFiles input.repoTopPaths
    have hmap := hpaths.map (f := fun path => "file:" ++ path)
      fun _ _ h => (String.append_right_inj _).mp h
    rw [List.map_map] at hmap
    exact hmap
  have hfailures : (input.failureCandidates.map failureItemId).Nodup ↔
      (input.failureCandidates.map (·.testName)).Nodup := by
    rw [show input.failureCandidates.map failureItemId =
        (input.failureCandidates.map (·.testName)).map ("failure:" ++ ·) by
      simp [Function.comp_def, failureItemId]]
    exact List.nodup_map_iff fun _ _ h => (String.append_right_inj _).mp h
  rw [(uncapped_itemId_perm tables input).nodup_iff, List.nodup_append, hfailures]
  constructor
  · exact fun h => h.2.1
  · intro h
    refine ⟨hfiles, h, ?_⟩
    intro a ha b hb
    obtain ⟨c, -, rfl⟩ := List.mem_map.mp ha
    obtain ⟨c', -, rfl⟩ := List.mem_map.mp hb
    exact fileItemId_ne_failureItemId c c'

/-- No reason a candidate comes with reads like a drop. -/
theorem not_marked_of_mem_uncapped {d : SelectionDecision} (h : d ∈ uncapped tables input) :
    "dropped by cap" ∉ d.reasons := by
  simp only [uncapped, List.mem_append] at h
  rcases h with (h | h) | h
  · obtain ⟨p, hp, rfl⟩ := List.mem_map.mp h
    obtain ⟨c, hc, rfl⟩ := List.mem_map.mp ((mem_rank _).mp hp)
    rcases List.mem_append.mp hc with hc | hc
    · simp [fileDecision, (gathered_of_mem hc).reason_eq]
    · simp [fileDecision, (gathered_of_mem hc).reason_eq]
  · obtain ⟨p, hp, rfl⟩ := List.mem_map.mp h
    obtain ⟨c, hc, rfl⟩ := List.mem_map.mp ((mem_rank _).mp hp)
    rcases List.mem_append.mp hc with hc | hc
    · obtain ⟨test, -, rfl⟩ := List.mem_map.mp hc
      simp [failureDecision, failingTest]
    · simp [failureDecision, mem_gatherErrorLogs hc, runtimeError]
  · simp [docDecisions_eq_nil] at h

theorem mem_cut {n : Nat} {ds : List SelectionDecision} {d : SelectionDecision}
    (h : d ∈ cut n ds) (hds : ∀ e ∈ ds, "dropped by cap" ∉ e.reasons) :
    ("dropped by cap" ∉ d.reasons ∧ d.itemId ∈ (ds.take n).map (·.itemId)) ∨
      ("dropped by cap" ∈ d.reasons ∧ d.itemId ∈ (ds.drop n).map (·.itemId)) := by
  rcases List.mem_append.mp h with h | h
  · exact Or.inl ⟨hds d (List.mem_of_mem_take h), List.mem_map_of_mem h⟩
  · obtain ⟨e, he, rfl⟩ := List.mem_map.mp h
    refine Or.inr ⟨?_, List.mem_map.mpr ⟨e, he, rfl⟩⟩
    simp [SelectionDecision.droppedByCap]

theorem mem_decisions {d : SelectionDecision}
    (h : d ∈ (policy.select tables input).decisions) :
    ("dropped by cap" ∉ d.reasons ∧
        d.itemId ∈ (policy.select tables input).selectedFileIds ++
          (policy.select tables input).selectedFailureIds ++
          (policy.select tables input).selectedDocIds) ∨
      ("dropped by cap" ∈ d.reasons ∧
        d.itemId ∈ (policy.select tables input).droppedItemIds) := by
  have hall : ∀ e ∈ uncapped tables input, "dropped by cap" ∉ e.reasons :=
    fun e => not_marked_of_mem_uncapped tables input
  simp only [uncapped, List.mem_append] at hall
  rw [select_eq policy tables input rfl rfl rfl] at h ⊢
  simp only [List.mem_append] at h ⊢
  rcases h with (h | h) | h
  · rcases mem_cut h fun e he => hall e (Or.inl (Or.inl he)) with ⟨hmark, hid⟩ | ⟨hmark, hid⟩
    · exact Or.inl ⟨hmark, Or.inl (Or.inl hid)⟩
    · exact Or.inr ⟨hmark, Or.inl (Or.inl hid)⟩
  · rcases mem_cut h fun e he => hall e (Or.inl (Or.inr he)) with ⟨hmark, hid⟩ | ⟨hmark, hid⟩
    · exact Or.inl ⟨hmark, Or.inl (Or.inr hid)⟩
    · exact Or.inr ⟨hmark, Or.inl (Or.inr hid)⟩
  · rcases mem_cut h fun e he => hall e (Or.inr he) with ⟨hmark, hid⟩ | ⟨hmark, hid⟩
    · exact Or.inl ⟨hmark, Or.inr hid⟩
    · exact Or.inr ⟨hmark, Or.inr hid⟩

theorem accounted_of_nodup (h : (itemIds (policy.select tables input)).Nodup) :
    Accounted (policy.select tables input) where
  once := h
  decided := by
    intro id hid
    have hmem := (itemIds_perm policy tables input).mem_iff.mp hid
    have hnodup := (itemIds_perm policy tables input).nodup_iff.mp h
    have hcount := List.count_eq_one_of_mem hnodup hmem
    rw [List.count, List.countP_map] at hcount
    rw [← hcount]
    apply List.countP_congr
    intro d _
    simp
  marked := by
    intro d hd
    have hdisjoint := (List.nodup_append.mp h).2.2
    rcases mem_decisions policy tables input hd with ⟨hmark, hid⟩ | ⟨hmark, hid⟩
    · refine ⟨fun hmark' => absurd hmark' hmark, fun hid' => ?_⟩
      exact absurd rfl (hdisjoint d.itemId hid d.itemId hid')
    · exact ⟨fun _ => hid, fun _ => hmark⟩

/-- A selection accounts for every candidate once exactly when the failures it
is given have names of their own: file candidates are read once each, failing
tests are not, and every marked error log goes by the same name. -/
theorem accounted_iff :
    Accounted (policy.select tables input) ↔
      input.failingTests.Nodup ∧
        (∀ a ∈ input.errorLogs, ∀ b ∈ input.errorLogs,
          isRuntimeError a = true → isRuntimeError b = true → a = b) ∧
        ((∃ log ∈ input.errorLogs, isRuntimeError log = true) →
          "runtime error" ∉ input.failingTests) := by
  rw [← nodup_gatherFailureCandidates]
  change _ ↔ (input.failureCandidates.map (·.testName)).Nodup
  rw [← nodup_uncapped tables input, ← map_itemId_decisions policy tables input,
    ← (itemIds_perm policy tables input).nodup_iff]
  exact ⟨fun h => h.once, accounted_of_nodup policy tables input⟩

/-- Two error logs of a run that failed twice. -/
def twoTracebacks : SelectionInput where
  relevantFiles := ["src/a.py"]
  failingTests := []
  errorLogs := ["Traceback: ValueError at line 42", "Traceback: KeyError at line 7"]
  taskKeywords := []
  repoTopPaths := []

/-- One candidate is selected and the other, of the same id, dropped. -/
theorem twoTracebacks_not_accounted :
    ¬ Accounted (({ maxFailures := 1 } : ContextSelectionPolicy).select asciiTables
      twoTracebacks) := by
  intro h
  exact absurd h.once (by decide)

end NothingLost

end NovaHarness.SelectionAccounting
