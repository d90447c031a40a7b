import NovaHarness.SelectionStability

namespace NovaHarness.ListingOrder

open NovaHarness.Text
open NovaHarness.RankedLists
open NovaHarness.RankedCuts
open NovaHarness.ContextCandidates
open NovaHarness.ContextSelection
open NovaHarness.SelectionAccounting
open NovaHarness.SelectionCaps
open NovaHarness.SelectionStability

/-- The same entries, in whatever order; paths and logs also however often, since
both are gathered once. -/
structure SameEntries (input input' : SelectionInput) : Prop where
  relevantFiles : ∀ path, path ∈ input.relevantFiles ↔ path ∈ input'.relevantFiles
  repoTopPaths : ∀ path, path ∈ input.repoTopPaths ↔ path ∈ input'.repoTopPaths
  failingTests : input.failingTests.Perm input'.failingTests
  errorLogs : ∀ log, log ∈ input.errorLogs ↔ log ∈ input'.errorLogs
  taskTitle : input.taskTitle = input'.taskTitle
  taskKeywords : input.taskKeywords = input'.taskKeywords
  importedBy : input.importedBy = input'.importedBy
  selectedDir : input.selectedDir = input'.selectedDir

variable {input input' : SelectionInput}

section Candidates

theorem mem_gatherPaths_iff {reason : String} {seen paths : List String} {c : CandidateFile} :
    c ∈ gatherPaths reason seen paths ↔
      c.path ∈ paths ∧ c.path ∉ seen ∧ isExcluded c.path = false ∧ c.reason = reason := by
  constructor
  · intro h
    obtain ⟨hlisted, hfresh, hkept, hreason⟩ := gathered_of_mem h
    exact ⟨hlisted, hfresh, hkept, hreason⟩
  · rintro ⟨hlisted, hfresh, hkept, hreason⟩
    have hmem : c.path ∈ (gatherPaths reason seen paths).map (·.path) :=
      path_mem_gatherPaths hlisted hfresh hkept
    obtain ⟨c', hc', hpath⟩ := List.mem_map.mp hmem
    have hreason' := (gathered_of_mem hc').reason_eq
    have hsame : c' = c := by
      cases c
      cases c'
      exact congrArg₂ CandidateFile.mk hpath (hreason'.trans hreason.symm)
    rwa [← hsame]

theorem mem_fileCandidates_iff {c : CandidateFile} :
    c ∈ input.fileCandidates ↔ isExcluded c.path = false ∧
      (c.path ∈ input.relevantFiles ∧ c.reason = "explicitly referenced in task inputs" ∨
        c.path ∈ input.repoTopPaths ∧ c.path ∉ input.relevantFiles ∧
          c.reason = "top-level repo entry") := by
  rw [SelectionInput.fileCandidates, gatherFileCandidates, List.mem_append,
    mem_gatherPaths_iff, mem_gatherPaths_iff, path_mem_gatherPaths_iff]
  constructor
  · rintro (⟨hlisted, -, hkept, hreason⟩ | ⟨hlisted, hfresh, hkept, hreason⟩)
    · exact ⟨hkept, .inl ⟨hlisted, hreason⟩⟩
    · exact ⟨hkept, .inr ⟨hlisted, fun h => hfresh ⟨h, by simp, hkept⟩, hreason⟩⟩
  · rintro ⟨hkept, ⟨hlisted, hreason⟩ | ⟨hlisted, hfresh, hreason⟩⟩
    · exact .inl ⟨hlisted, by simp, hkept, hreason⟩
    · exact .inr ⟨hlisted, fun h => hfresh h.1, hkept, hreason⟩

theorem nodup_fileCandidates (input : SelectionInput) : input.fileCandidates.Nodup :=
  List.Nodup.of_map _ (nodup_gatherFileCandidates _ _)

theorem SameEntries.fileCandidates_perm (h : SameEntries input input') :
    input.fileCandidates.Perm input'.fileCandidates := by
  rw [List.perm_ext_iff_of_nodup (nodup_fileCandidates input) (nodup_fileCandidates input')]
  intro c
  rw [mem_fileCandidates_iff, mem_fileCandidates_iff, h.relevantFiles, h.repoTopPaths]

/-- One candidate for each marked log that is new. -/
theorem gatherErrorLogs_eq_replicate (seen logs : List String) :
    gatherErrorLogs seen logs =
      List.replicate ((logs.toFinset \ seen.toFinset).filter (isRuntimeError ·)).card
        runtimeError := by
  induction logs generalizing seen with
  | nil => simp [gatherErrorLogs]
  | cons log logs ih =>
      simp only [gatherErrorLogs, List.toFinset_cons]
      split
      · rename_i hseen
        rw [ih, Finset.insert_sdiff_of_mem _ (List.mem_toFinset.mpr hseen)]
      · rename_i hseen
        have hrest : insert log logs.toFinset \ seen.toFinset =
            insert log (logs.toFinset \ (log :: seen).toFinset) := by
          ext other
          simp only [Finset.mem_sdiff, Finset.mem_insert, List.mem_toFinset, List.mem_cons]
          by_cases hother : other = log
          · simp [hother, hseen]
          · simp [hother]
        have hfresh : log ∉ logs.toFinset \ (log :: seen).toFinset := by simp
        rw [hrest]
        split
        · rename_i hmarked
          rw [ih, Finset.filter_insert, if_pos hmarked,
            Finset.card_insert_of_notMem fun h => hfresh (Finset.mem_of_mem_filter _ h),
            List.replicate_succ]
        · rename_i hmarked
          rw [ih, Finset.filter_insert, if_neg hmarked]

theorem SameEntries.failureCandidates_perm (h : SameEntries input input') :
    input.failureCandidates.Perm input'.failureCandidates := by
  have hlogs : input.errorLogs.toFinset = input'.errorLogs.toFinset := by
    ext log
    rw [List.mem_toFinset, List.mem_toFinset, h.errorLogs]
  rw [SelectionInput.failureCandidates, SelectionInput.failureCandidates, gatherFailureCandidates,
    gatherFailureCandidates, gatherErrorLogs_eq_replicate, gatherErrorLogs_eq_replicate, hlogs]
  exact (h.failingTests.map failingTest).append_right _

end Candidates

section Scores

variable (tables : UnicodeTables)

theorem SameEntries.relevantSet_eq (h : SameEntries input input') :
    input.relevantSet = input'.relevantSet := by
  ext path
  rw [SelectionInput.relevantSet, SelectionInput.relevantSet, List.mem_toFinset,
    List.mem_toFinset, h.relevantFiles]

theorem SameEntries.keywordSet_eq (h : SameEntries input input') :
    input.keywordSet tables = input'.keywordSet tables := by
  rw [SelectionInput.keywordSet, SelectionInput.keywordSet, h.taskKeywords]

theorem SameEntries.fileScore_eq (h : SameEntries input input') :
    input.fileScore tables = input'.fileScore tables := by
  funext c
  rw [SelectionInput.fileScore, SelectionInput.fileScore, h.relevantSet_eq, h.keywordSet_eq tables,
    h.taskTitle, h.importedBy, h.selectedDir]

theorem SameEntries.failureScore_eq (h : SameEntries input input') :
    input.failureScore tables = input'.failureScore tables := by
  funext c
  rw [SelectionInput.failureScore, SelectionInput.failureScore, h.relevantSet_eq,
    h.keywordSet_eq tables]

theorem SameEntries.scoredFiles_perm (h : SameEntries input input') :
    (input.scoredFiles tables).Perm (input'.scoredFiles tables) := by
  rw [SelectionInput.scoredFiles, SelectionInput.scoredFiles, h.fileScore_eq]
  exact h.fileCandidates_perm.map _

theorem SameEntries.scoredFailures_perm (h : SameEntries input input') :
    (input.scoredFailures tables).Perm (input'.scoredFailures tables) := by
  rw [SelectionInput.scoredFailures, SelectionInput.scoredFailures, h.failureScore_eq]
  exact h.failureCandidates_perm.map _

/-- The scores of what is ranked, best first. -/
theorem scores_eq {α : Type} {scored scored' : List (Int × α)} (hperm : scored.Perm scored') :
    (rank (fun p => -p.1) scored).map (·.1) = (rank (fun p => -p.1) scored').map (·.1) := by
  have hkeys := Ranks.map_key_eq (ranks_rank (fun p : Int × α => -p.1) scored)
    (ranks_rank _ scored') hperm
  have hscores := congrArg (List.map fun key : Int => -key) hkeys
  simpa [Function.comp_def] using hscores

end Scores

section Selections

variable (policy : ContextSelectionPolicy) (tables : UnicodeTables)

def typeAndScore (d : SelectionDecision) : String × Int :=
  (d.itemType, d.score)

theorem map_typeAndScore_cut (n : Nat) (ds : List SelectionDecision) :
    (cut n ds).map typeAndScore = ds.map typeAndScore := by
  have h := congrArg (List.map Prod.snd) (map_report_cut n ds)
  rw [List.map_map, List.map_map] at h
  exact h

theorem SameEntries.typeAndScore_eq (h : SameEntries input input') :
    (policy.select tables input).decisions.map typeAndScore =
      (policy.select tables input').decisions.map typeAndScore := by
  have hfiles : (input.fileDecisions tables).map typeAndScore =
      (input'.fileDecisions tables).map typeAndScore := by
    have hscores := congrArg (List.map fun score : Int => ("file", score))
      (scores_eq (h.scoredFiles_perm tables))
    rw [List.map_map, List.map_map] at hscores
    rw [SelectionInput.fileDecisions, SelectionInput.fileDecisions, List.map_map, List.map_map]
    exact hscores
  have hfailures : (input.failureDecisions tables).map typeAndScore =
      (input'.failureDecisions tables).map typeAndScore := by
    have hscores := congrArg (List.map fun score : Int => ("failure", score))
      (scores_eq (h.scoredFailures_perm tables))
    rw [List.map_map, List.map_map] at hscores
    rw [SelectionInput.failureDecisions, SelectionInput.failureDecisions, List.map_map, List.map_map]
    exact hscores
  rw [select_eq policy tables input rfl rfl rfl, select_eq policy tables input' rfl rfl rfl]
  simp only [List.map_append, map_typeAndScore_cut, hfiles, hfailures, docDecisions_eq_nil]

theorem SameEntries.length_selected_eq (h : SameEntries input input') :
    (policy.select tables input).selectedFileIds.length =
        (policy.select tables input').selectedFileIds.length ∧
      (policy.select tables input).selectedFailureIds.length =
        (policy.select tables input').selectedFailureIds.length := by
  have hfiles := h.fileCandidates_perm.length_eq
  have hfailures := h.failureCandidates_perm.length_eq
  have hlength : ∀ input : SelectionInput,
      (input.failureDecisions tables).length = input.failureCandidates.length := by
    simp [SelectionInput.failureDecisions, SelectionInput.scoredFailures, rank]
  rw [select_eq policy tables input rfl rfl rfl, select_eq policy tables input' rfl rfl rfl]
  simp only [List.length_map, List.length_take, length_fileDecisions, hlength, hfiles, hfailures,
    true_and]

/-- A file that one listing gets selected and the other does not has the same score
as one for which it is the other way round. -/
theorem SameEntries.exists_tied (h : SameEntries input input') {path : String}
    (hselected : "file:" ++ path ∈ (policy.select tables input).selectedFileIds)
    (hdropped : "file:" ++ path ∈ (policy.select tables input').droppedItemIds) :
    ∃ path', "file:" ++ path' ∈ (policy.select tables input').selectedFileIds ∧
      "file:" ++ path' ∈ (policy.select tables input).droppedItemIds ∧
      pathScore tables input path' = pathScore tables input path := by
  have hpaths : ((input.scoredFiles tables).map fun p => p.2.path).Nodup := by
    rw [map_path_scoredFiles]
    exact nodup_gatherFileCandidates _ _
  rw [mem_selectedFileIds, rankedPaths, ← List.map_take] at hselected
  rw [mem_droppedItemIds, rankedPaths, ← List.map_drop] at hdropped
  obtain ⟨p, hp, rfl⟩ := List.mem_map.mp hselected
  obtain ⟨p', hp', hpath⟩ := List.mem_map.mp hdropped
  have hmem : p' ∈ input.scoredFiles tables :=
    (h.scoredFiles_perm tables).mem_iff.mpr ((mem_rank _).mp (List.mem_of_mem_drop hp'))
  obtain rfl : p' = p :=
    List.inj_on_of_nodup_map hpaths hmem ((mem_rank _).mp (List.mem_of_mem_take hp)) hpath
  obtain ⟨q, hq, hq', hkey⟩ := Ranks.exists_tie (ranks_rank _ (input.scoredFiles tables))
    (ranks_rank _ (input'.scoredFiles tables)) (h.scoredFiles_perm tables)
    (List.Nodup.of_map _ hpaths) hp hp'
  refine ⟨q.2.path, ?_, ?_, ?_⟩
  · rw [mem_selectedFileIds, rankedPaths, ← List.map_take]
    exact List.mem_map_of_mem hq
  · rw [mem_droppedItemIds, rankedPaths, ← List.map_drop]
    exact List.mem_map_of_mem hq'
  · rw [← score_of_mem_ranked (List.mem_of_mem_drop hq'),
      ← score_of_mem_ranked (List.mem_of_mem_take hp)]
    exact neg_injective hkey

/-- The order in which files and failures are listed, and how often paths and logs
are, only decides ties: the scores and how many of them are selected stay the same,
and a file that only one listing gets selected is tied with one that only the other
gets selected. -/
theorem listing_order_breaks_ties (h : SameEntries input input') :
    (policy.select tables input).decisions.map typeAndScore =
        (policy.select tables input').decisions.map typeAndScore ∧
      (policy.select tables input).selectedFileIds.length =
        (policy.select tables input').selectedFileIds.length ∧
      (policy.select tables input).selectedFailureIds.length =
        (policy.select tables input').selectedFailureIds.length ∧
      ∀ path, "file:" ++ path ∈ (policy.select tables input).selectedFileIds →
        "file:" ++ path ∉ (policy.select tables input').selectedFileIds →
        ∃ path', "file:" ++ path' ∈ (policy.select tables input').selectedFileIds ∧
          "file:" ++ path' ∉ (policy.select tables input).selectedFileIds ∧
          pathScore tables input path' = pathScore tables input path := by
  obtain ⟨hfiles, hfailures⟩ := h.length_selected_eq policy tables
  refine ⟨h.typeAndScore_eq policy tables, hfiles, hfailures, fun path hselected hunselected => ?_⟩
  have hcandidate : path ∈ candidatePaths input' := by
    obtain ⟨hoffered, hkept⟩ :=
      mem_candidatePaths.mp ((mem_selectedFileIds_iff policy tables input).mp hselected).1
    rw [mem_candidatePaths, offered, List.mem_append, ← h.relevantFiles, ← h.repoTopPaths,
      ← List.mem_append]
    exact ⟨hoffered, hkept⟩
  have hdropped : "file:" ++ path ∈ (policy.select tables input').droppedItemIds := by
    refine (mem_droppedItemIds_iff policy tables input').mpr ⟨hcandidate, ?_⟩
    by_contra hfew
    refine hunselected ((mem_selectedFileIds_iff policy tables input').mpr ⟨hcandidate, ?_⟩)
    omega
  obtain ⟨path', hselected', hdropped', hscore⟩ := h.exists_tied policy tables hselected hdropped
  refine ⟨path', hselected', fun hboth => ?_, hscore⟩
  have hmany := ((mem_droppedItemIds_iff policy tables input).mp hdropped').2
  have hfew := ((mem_selectedFileIds_iff policy tables input).mp hboth).2
  omega

def twoWays : SelectionInput where
  relevantFiles := ["src/a.py", "src/b.py"]
  failingTests := ["tests/test_a.py::test_a", "tests/test_b.py::test_b"]
  errorLogs := ["Error: a"]
  taskKeywords := []
  repoTopPaths := ["docs/a.md", "src/a.py"]

/-- The same entries from the back, some of them twice. -/
def otherWay : SelectionInput where
  relevantFiles := ["src/b.py", "src/a.py", "src/b.py"]
  failingTests := ["tests/test_b.py::test_b", "tests/test_a.py::test_a"]
  errorLogs := ["Error: a", "Error: a"]
  taskKeywords := []
  repoTopPaths := ["src/a.py", "docs/a.md"]

theorem listing_order_breaks_ties_twoWays :
    ∃ path', "file:" ++ path' ∈ (({ maxFiles := 1 } : ContextSelectionPolicy).select asciiTables
        otherWay).selectedFileIds ∧
      pathScore asciiTables twoWays path' = pathScore asciiTables twoWays "src/a.py" ∧
        path' ≠ "src/a.py" := by
  have hentries : SameEntries twoWays otherWay :=
    { relevantFiles := by simp [twoWays, otherWay, or_comm]
      repoTopPaths := by simp [twoWays, otherWay, or_comm]
      failingTests := by decide
      errorLogs := by simp [twoWays, otherWay]
      taskTitle := rfl
      taskKeywords := rfl
      importedBy := rfl
      selectedDir := rfl }
  have hselected : "file:src/a.py" ∈ (({ maxFiles := 1 } : ContextSelectionPolicy).select
      asciiTables twoWays).selectedFileIds := by decide
  have hunselected : "file:src/a.py" ∉ (({ maxFiles := 1 } : ContextSelectionPolicy).select
      asciiTables otherWay).selectedFileIds := by decide
  obtain ⟨path', hselected', hunselected', hscore⟩ :=
    (listing_order_breaks_ties { maxFiles := 1 } asciiTables hentries).2.2.2 "src/a.py" hselected
      hunselected
  refine ⟨path', hselected', hscore, ?_⟩
  rintro rfl
  exact hunselected' hselected

end Selections

end NovaHarness.ListingOrder
