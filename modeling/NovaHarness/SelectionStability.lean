import NovaHarness.RankedCuts
import NovaHarness.SelectionCaps

namespace NovaHarness.SelectionStability

open NovaHarness.Text
open NovaHarness.RankedLists
open NovaHarness.RankedCuts
open NovaHarness.ContextCandidates
open NovaHarness.ContextSelection
open NovaHarness.SelectionAccounting
open NovaHarness.SelectionCaps

section Gathering

/-- All paths a selection is given, in the order in which it reads them. -/
def offered (input : SelectionInput) : List String :=
  input.relevantFiles ++ input.repoTopPaths

/-- The paths of the file candidates. -/
def candidatePaths (input : SelectionInput) : Finset String :=
  ((offered input).filter fun path => isExcluded path = false).toFinset

theorem mem_candidatePaths {input : SelectionInput} {path : String} :
    path ∈ candidatePaths input ↔ path ∈ offered input ∧ isExcluded path = false := by
  simp [candidatePaths]

theorem path_mem_gatherPaths_iff {reason : String} {seen paths : List String} {path : String} :
    path ∈ (gatherPaths reason seen paths).map (·.path) ↔
      path ∈ paths ∧ path ∉ seen ∧ isExcluded path = false := by
  constructor
  · intro h
    obtain ⟨c, hc, rfl⟩ := List.mem_map.mp h
    have hgathered := gathered_of_mem hc
    exact ⟨hgathered.listed, hgathered.fresh, hgathered.kept⟩
  · rintro ⟨hlisted, hfresh, hkept⟩
    exact path_mem_gatherPaths hlisted hfresh hkept

theorem path_mem_fileCandidates {input : SelectionInput} {path : String} :
    path ∈ input.fileCandidates.map (·.path) ↔ path ∈ candidatePaths input := by
  rw [SelectionInput.fileCandidates, gatherFileCandidates, List.map_append, List.mem_append,
    path_mem_gatherPaths_iff, path_mem_gatherPaths_iff, path_mem_gatherPaths_iff,
    mem_candidatePaths, offered, List.mem_append]
  constructor
  · rintro (⟨hreferenced, -, hkept⟩ | ⟨htop, -, hkept⟩)
    · exact ⟨.inl hreferenced, hkept⟩
    · exact ⟨.inr htop, hkept⟩
  · rintro ⟨hlisted, hkept⟩
    by_cases hreferenced : path ∈ input.relevantFiles
    · exact .inl ⟨hreferenced, by simp, hkept⟩
    · exact .inr ⟨hlisted.resolve_left hreferenced, fun h => hreferenced h.1, hkept⟩

/-- Paths are gathered in the order of their first occurrences. -/
theorem gatherPaths_pairwise (reason : String) (seen paths : List String) :
    (gatherPaths reason seen paths).Pairwise fun c c' =>
      paths.idxOf c.path < paths.idxOf c'.path := by
  induction paths generalizing seen with
  | nil => exact .nil
  | cons path paths ih =>
      -- What is gathered from the rest is not the path in front of it.
      have hrest : ∀ seen', (path ∈ seen' ∨ isExcluded path = true) →
          (gatherPaths reason seen' paths).Pairwise fun c c' =>
            (path :: paths).idxOf c.path < (path :: paths).idxOf c'.path := by
        intro seen' hpath
        have hne : ∀ c ∈ gatherPaths reason seen' paths, path ≠ c.path := by
          rintro c hc rfl
          have hgathered := gathered_of_mem hc
          rcases hpath with hseen | hexcluded
          · exact hgathered.fresh hseen
          · simp [hgathered.kept] at hexcluded
        refine (ih seen').imp_of_mem fun {c c'} hc hc' hlt => ?_
        rw [List.idxOf_cons_ne _ (hne c hc), List.idxOf_cons_ne _ (hne c' hc')]
        omega
      rw [gatherPaths]
      split
      · rename_i hseen
        exact hrest seen (.inl hseen)
      · split
        · rename_i hexcluded
          exact hrest seen (.inr hexcluded)
        · refine List.pairwise_cons.mpr ⟨fun c hc => ?_, hrest _ (.inl (by simp))⟩
          have hne : path ≠ c.path := by
            rintro rfl
            exact (gathered_of_mem hc).fresh (by simp)
          rw [List.idxOf_cons_self, List.idxOf_cons_ne _ hne]
          omega

theorem fileCandidates_ordered (input : SelectionInput) :
    input.fileCandidates.Pairwise fun c c' =>
      (offered input).idxOf c.path < (offered input).idxOf c'.path := by
  rw [SelectionInput.fileCandidates, gatherFileCandidates]
  have hreferenced : ∀ c ∈ gatherPaths "explicitly referenced in task inputs" []
      input.relevantFiles, c.path ∈ input.relevantFiles := fun c hc => (gathered_of_mem hc).listed
  have hunreferenced : ∀ c ∈ gatherPaths "top-level repo entry"
      ((gatherPaths "explicitly referenced in task inputs" [] input.relevantFiles).map (·.path))
      input.repoTopPaths, c.path ∉ input.relevantFiles := by
    intro c hc hmem
    have hgathered := gathered_of_mem hc
    exact hgathered.fresh (path_mem_gatherPaths hmem (by simp) hgathered.kept)
  refine List.pairwise_append.mpr ⟨?_, ?_, ?_⟩
  · refine (gatherPaths_pairwise _ _ _).imp_of_mem fun {c c'} hc hc' hlt => ?_
    rwa [offered, List.idxOf_append_of_mem (hreferenced c hc),
      List.idxOf_append_of_mem (hreferenced c' hc')]
  · refine (gatherPaths_pairwise _ _ _).imp_of_mem fun {c c'} hc hc' hlt => ?_
    rw [offered, List.idxOf_append_of_notMem (hunreferenced c hc),
      List.idxOf_append_of_notMem (hunreferenced c' hc')]
    omega
  · intro c hc c' hc'
    rw [offered, List.idxOf_append_of_mem (hreferenced c hc),
      List.idxOf_append_of_notMem (hunreferenced c' hc')]
    have hlt := List.idxOf_lt_length_of_mem (hreferenced c hc)
    omega

end Gathering

section Rivals

variable (policy : ContextSelectionPolicy) (tables : UnicodeTables) (input : SelectionInput)

/-- A path is ahead of another with a higher score, or with the same score when it
is read first. -/
def Ahead (path path' : String) : Prop :=
  pathScore tables input path' < pathScore tables input path ∨
    pathScore tables input path' = pathScore tables input path ∧
      (offered input).idxOf path < (offered input).idxOf path'

instance : DecidableRel (Ahead tables input) := fun _ _ =>
  inferInstanceAs (Decidable (_ ∨ _ ∧ _))

theorem Ahead.asymm {path path' : String} (h : Ahead tables input path path') :
    ¬ Ahead tables input path' path := by
  rintro (hlt | ⟨heq, hlt⟩) <;> rcases h with hlt' | ⟨heq', hlt'⟩ <;> omega

/-- The candidates ahead of a path. -/
def rivals (path : String) : Finset String :=
  (candidatePaths input).filter fun path' => Ahead tables input path' path

/-- How many files fit under the caps. -/
def filePlaces : Nat :=
  min policy.maxFiles.toNat policy.maxTotal.toNat

def rankedFiles : List (Int × CandidateFile) :=
  rank (fun p => -p.1) (input.scoredFiles tables)

def rankedPaths : List String :=
  (rankedFiles tables input).map fun p => p.2.path

theorem map_path_scoredFiles :
    (input.scoredFiles tables).map (fun p => p.2.path) = input.fileCandidates.map (·.path) := by
  simp [SelectionInput.scoredFiles, Function.comp_def]

theorem rankedPaths_perm : (rankedPaths tables input).Perm (input.fileCandidates.map (·.path)) := by
  rw [← map_path_scoredFiles tables]
  exact (ranks_rank (fun p : Int × CandidateFile => -p.1) (input.scoredFiles tables)).perm.map _

theorem rankedPaths_pairwise : (rankedPaths tables input).Pairwise (Ahead tables input) := by
  have hscored : (input.scoredFiles tables).Pairwise fun p p' =>
      (offered input).idxOf p.2.path < (offered input).idxOf p'.2.path := by
    rw [SelectionInput.scoredFiles, List.pairwise_map]
    exact fileCandidates_ordered input
  have hranked := Ranks.pairwise_lex (ranks_rank (fun p : Int × CandidateFile => -p.1) _) hscored
  rw [rankedPaths, List.pairwise_map]
  refine hranked.imp_of_mem fun {p p'} hp hp' hlex => ?_
  rw [Ahead, ← score_of_mem_ranked hp, ← score_of_mem_ranked hp']
  rcases hlex with hlt | ⟨heq, hlt⟩
  · exact .inl (by omega)
  · exact .inr ⟨by omega, hlt⟩

theorem countP_rankedPaths (path : String) :
    (rankedPaths tables input).countP (fun path' => Ahead tables input path' path) =
      (rivals tables input path).card := by
  have hnodup : (rankedPaths tables input).Nodup :=
    (rankedPaths_perm tables input).nodup_iff.mpr (nodup_gatherFileCandidates _ _)
  have hrivals : rivals tables input path =
      ((rankedPaths tables input).filter fun path' => Ahead tables input path' path).toFinset := by
    ext path'
    rw [rivals, Finset.mem_filter, List.mem_toFinset, List.mem_filter,
      (rankedPaths_perm tables input).mem_iff, path_mem_fileCandidates, decide_eq_true_iff]
  rw [hrivals, List.toFinset_card_of_nodup (hnodup.filter _), List.countP_eq_length_filter]

theorem mem_rankedPaths {path : String} :
    path ∈ rankedPaths tables input ↔ path ∈ candidatePaths input := by
  rw [(rankedPaths_perm tables input).mem_iff, path_mem_fileCandidates]

theorem length_rankedFiles :
    (rankedFiles tables input).length = input.fileCandidates.length := by
  rw [rankedFiles, (ranks_rank _ _).length_eq, SelectionInput.scoredFiles, List.length_map]

/-- The cut is where the places end, also when there are more places than files. -/
theorem take_filesSelected :
    (rankedFiles tables input).take (policy.filesSelected input.fileCandidates.length) =
      (rankedFiles tables input).take (filePlaces policy) := by
  rw [ContextSelectionPolicy.filesSelected, ← length_rankedFiles tables, ← filePlaces,
    ← List.take_eq_take_min]

theorem drop_filesSelected :
    (rankedFiles tables input).drop (policy.filesSelected input.fileCandidates.length) =
      (rankedFiles tables input).drop (filePlaces policy) := by
  rw [ContextSelectionPolicy.filesSelected, ← length_rankedFiles tables, ← filePlaces,
    ← List.drop_eq_drop_min]

theorem mem_selectedFileIds {path : String} :
    "file:" ++ path ∈ (policy.select tables input).selectedFileIds ↔
      path ∈ (rankedPaths tables input).take (filePlaces policy) := by
  rw [rankedPaths, ← List.map_take, ← take_filesSelected]
  constructor
  · intro h
    obtain ⟨p, hp, rfl⟩ := exists_file_of_selected h
    exact List.mem_map.mpr ⟨p, hp, rfl⟩
  · intro h
    obtain ⟨p, hp, rfl⟩ := List.mem_map.mp h
    rw [select_eq policy tables input rfl rfl rfl, SelectionInput.fileDecisions, ← List.map_take,
      List.map_map]
    exact List.mem_map.mpr ⟨p, hp, rfl⟩

theorem mem_droppedItemIds {path : String} :
    "file:" ++ path ∈ (policy.select tables input).droppedItemIds ↔
      path ∈ (rankedPaths tables input).drop (filePlaces policy) := by
  rw [rankedPaths, ← List.map_drop, ← drop_filesSelected]
  constructor
  · intro h
    obtain ⟨p, hp, rfl⟩ := exists_file_of_dropped h
    exact List.mem_map.mpr ⟨p, hp, rfl⟩
  · intro h
    obtain ⟨p, hp, rfl⟩ := List.mem_map.mp h
    rw [select_eq policy tables input rfl rfl rfl, List.append_assoc]
    apply List.mem_append_left
    rw [SelectionInput.fileDecisions, ← List.map_drop, List.map_map]
    exact List.mem_map.mpr ⟨p, hp, rfl⟩

theorem mem_front_iff {path : String} (n : Nat) :
    path ∈ (rankedPaths tables input).take n ↔
      path ∈ candidatePaths input ∧ (rivals tables input path).card < n := by
  constructor
  · intro h
    have hmem := List.mem_of_mem_take h
    rw [← countP_rankedPaths]
    exact ⟨(mem_rankedPaths tables input).mp hmem,
      (mem_take_iff_countP_lt (fun _ _ => Ahead.asymm tables input)
        (rankedPaths_pairwise tables input) hmem n).mp h⟩
  · rintro ⟨hcandidate, hcard⟩
    rw [← countP_rankedPaths] at hcard
    exact (mem_take_iff_countP_lt (fun _ _ => Ahead.asymm tables input)
      (rankedPaths_pairwise tables input) ((mem_rankedPaths tables input).mpr hcandidate) n).mpr
      hcard

theorem mem_back_iff {path : String} (n : Nat) :
    path ∈ (rankedPaths tables input).drop n ↔
      path ∈ candidatePaths input ∧ n ≤ (rivals tables input path).card := by
  have hnodup : (rankedPaths tables input).Nodup :=
    (rankedPaths_perm tables input).nodup_iff.mpr (nodup_gatherFileCandidates _ _)
  rw [← List.take_append_drop n (rankedPaths tables input), List.nodup_append] at hnodup
  constructor
  · intro h
    have hcandidate := (mem_rankedPaths tables input).mp (List.mem_of_mem_drop h)
    refine ⟨hcandidate, ?_⟩
    by_contra hfew
    have hfront := (mem_front_iff tables input n).mpr ⟨hcandidate, by omega⟩
    exact hnodup.2.2 path hfront path h rfl
  · rintro ⟨hcandidate, hmany⟩
    have hmem := (mem_rankedPaths tables input).mpr hcandidate
    rw [← List.take_append_drop n (rankedPaths tables input), List.mem_append] at hmem
    refine hmem.resolve_left fun hfront => ?_
    have hfew := ((mem_front_iff tables input n).mp hfront).2
    omega

theorem mem_selectedFileIds_iff {path : String} :
    "file:" ++ path ∈ (policy.select tables input).selectedFileIds ↔
      path ∈ candidatePaths input ∧ (rivals tables input path).card < filePlaces policy := by
  rw [mem_selectedFileIds, mem_front_iff]

theorem mem_droppedItemIds_iff {path : String} :
    "file:" ++ path ∈ (policy.select tables input).droppedItemIds ↔
      path ∈ candidatePaths input ∧ filePlaces policy ≤ (rivals tables input path).card := by
  rw [mem_droppedItemIds, mem_back_iff]

/-- A file is selected exactly when it is a candidate and has fewer candidates
ahead of it than the caps leave places for files, and dropped exactly when it is
a candidate and has not; whatever else it is given, the selection does not report
on any other file. -/
theorem file_selected_iff (path : String) :
    ("file:" ++ path ∈ (policy.select tables input).selectedFileIds ↔
      path ∈ candidatePaths input ∧ (rivals tables input path).card < filePlaces policy) ∧
    ("file:" ++ path ∈ (policy.select tables input).droppedItemIds ↔
      path ∈ candidatePaths input ∧ filePlaces policy ≤ (rivals tables input path).card) :=
  ⟨mem_selectedFileIds_iff policy tables input, mem_droppedItemIds_iff policy tables input⟩

end Rivals

section References

variable {policy : ContextSelectionPolicy} {tables : UnicodeTables} {input : SelectionInput}

/-- The same input with one more reference. -/
def referring (input : SelectionInput) (before : List String) (path : String)
    (after : List String) : SelectionInput :=
  { input with relevantFiles := before ++ path :: after }

variable {before after : List String} {path : String}

theorem pathScore_referring_of_ne (hsplit : input.relevantFiles = before ++ after)
    {path' : String} (hne : path' ≠ path) :
    pathScore tables (referring input before path after) path' = pathScore tables input path' := by
  have hmem : path' ∈ (referring input before path after).relevantSet ↔
      path' ∈ input.relevantSet := by
    simp [SelectionInput.relevantSet, referring, hsplit, hne]
  rw [pathScore_eq, pathScore_eq]
  have hpoints : points 100 (path' ∈ (referring input before path after).relevantSet) =
      points 100 (path' ∈ input.relevantSet) := by
    simp only [points, hmem]
  rw [hpoints]
  rfl

theorem pathScore_referring_le (before after : List String) :
    pathScore tables input path ≤ pathScore tables (referring input before path after) path := by
  have hreference : points 100 (path ∈ (referring input before path after).relevantSet) = 100 :=
    if_pos (by simp [SelectionInput.relevantSet, referring])
  have hbound := (points_nonneg (n := 100) (by decide) (path ∈ input.relevantSet)).2
  rw [pathScore_eq, pathScore_eq, hreference]
  change _ ≤ 100 + points 40 (namesTest tables path = true) +
    points 15 (namesSource tables path = true) +
    points 10 (mentions (input.keywordSet tables) (tables.lower path)) +
    points 5 (mentions (input.keywordSet tables) (tables.lower input.taskTitle)) +
    importBonus input path + directoryBonus input path
  omega

/-- Who is ahead of the path with the reference was ahead of it without. -/
theorem Ahead.of_referring (hsplit : input.relevantFiles = before ++ after) {path' : String}
    (h : Ahead tables (referring input before path after) path' path) :
    Ahead tables input path' path := by
  by_cases hsame : path' = path
  · subst hsame
    exact absurd h (Ahead.asymm tables _ h)
  · have hscore : pathScore tables (referring input before path after) path' = _ :=
      pathScore_referring_of_ne hsplit hsame
    have hle : pathScore tables input path ≤
        pathScore tables (referring input before path after) path :=
      pathScore_referring_le before after
    rw [Ahead, hscore] at h
    rcases h with hlt | ⟨heq, hfirst⟩
    · exact .inl (by omega)
    · by_cases hraised : pathScore tables input path = pathScore tables input path'
      · refine .inr ⟨hraised, ?_⟩
        rw [offered, hsplit, List.append_assoc]
        refine idxOf_lt_of_insert ?_
        simpa [offered, referring] using hfirst
      · exact .inl (by omega)

/-- A file that is selected stays selected when the task refers to it, once more
or for the first time, wherever the reference is put. -/
theorem reference_keeps_selection (policy : ContextSelectionPolicy) (tables : UnicodeTables)
    (input : SelectionInput) (before after : List String)
    (hsplit : input.relevantFiles = before ++ after) (path : String)
    (hselected : "file:" ++ path ∈ (policy.select tables input).selectedFileIds) :
    "file:" ++ path ∈
      (policy.select tables
        { input with relevantFiles := before ++ path :: after }).selectedFileIds := by
  change _ ∈ (policy.select tables (referring input before path after)).selectedFileIds
  rw [mem_selectedFileIds_iff] at hselected ⊢
  obtain ⟨hcandidate, hcard⟩ := hselected
  rw [mem_candidatePaths, offered, hsplit] at hcandidate
  have hsubset : rivals tables (referring input before path after) path ⊆
      rivals tables input path := by
    intro path' h
    rw [rivals, Finset.mem_filter, mem_candidatePaths] at h ⊢
    refine ⟨⟨?_, h.1.2⟩, h.2.of_referring hsplit⟩
    by_cases hsame : path' = path
    · subst hsame
      simpa [offered, hsplit] using hcandidate.1
    · simpa [offered, referring, hsplit, hsame] using h.1.1
  refine ⟨?_, lt_of_le_of_lt (Finset.card_le_card hsubset) hcard⟩
  rw [mem_candidatePaths]
  exact ⟨by simp [offered, referring], hcandidate.2⟩

/-- Referring to it puts the test in front of the file that was first. -/
theorem reference_keeps_selection_importedTest :
    "file:src/test_pack.py" ∈
      (({ maxFiles := 1 } : ContextSelectionPolicy).select asciiTables
        { importedTest with
          relevantFiles := ["README.md", "src/test_pack.py"] }).selectedFileIds :=
  reference_keeps_selection { maxFiles := 1 } asciiTables importedTest ["README.md"] [] rfl
    "src/test_pack.py" (by decide)

end References

section Leftovers

variable {tables : UnicodeTables} {input : SelectionInput} {removed : List String}

theorem gatherPaths_filter (reason : String) (keep : String → Bool) {seen seen' : List String}
    (hseen : ∀ path, keep path = true → (path ∈ seen ↔ path ∈ seen')) (paths : List String) :
    gatherPaths reason seen' (paths.filter keep) =
      (gatherPaths reason seen paths).filter fun c => keep c.path := by
  induction paths generalizing seen seen' with
  | nil => rfl
  | cons path paths ih =>
      by_cases hkeep : keep path = true
      · rw [List.filter_cons_of_pos hkeep, gatherPaths, gatherPaths]
        by_cases hold : path ∈ seen
        · rw [if_pos hold, if_pos ((hseen path hkeep).mp hold), ih hseen]
        · rw [if_neg hold, if_neg fun hnew => hold ((hseen path hkeep).mpr hnew)]
          split
          · exact ih hseen
          · rw [List.filter_cons_of_pos (by simpa using hkeep)]
            refine congrArg _ (ih fun path' hkeep' => ?_)
            rw [List.mem_cons, List.mem_cons, hseen path' hkeep']
      · rw [List.filter_cons_of_neg hkeep, gatherPaths]
        split
        · exact ih hseen
        · split
          · exact ih hseen
          · rw [List.filter_cons_of_neg (by simpa using hkeep)]
            refine ih fun path' hkeep' => ?_
            have hne : path' ≠ path := fun h => hkeep (h ▸ hkeep')
            rw [List.mem_cons, hseen path' hkeep']
            simp [hne]

/-- The same input without some of the top-level entries. -/
def without (input : SelectionInput) (removed : List String) : SelectionInput :=
  { input with repoTopPaths := input.repoTopPaths.filter (· ∉ removed) }

theorem fileCandidates_without (hfree : ∀ path ∈ removed, path ∉ input.relevantFiles) :
    (without input removed).fileCandidates =
      input.fileCandidates.filter fun c => c.path ∉ removed := by
  have hreferenced : ∀ c ∈ gatherPaths "explicitly referenced in task inputs" []
      input.relevantFiles, c.path ∉ removed :=
    fun c hc hremoved => hfree c.path hremoved (gathered_of_mem hc).listed
  rw [SelectionInput.fileCandidates, SelectionInput.fileCandidates, gatherFileCandidates,
    gatherFileCandidates, List.filter_append]
  refine congrArg₂ _ ?_ ?_
  · rw [List.filter_eq_self.mpr fun c hc => by simpa using hreferenced c hc]
    rfl
  · exact gatherPaths_filter _ (fun path => path ∉ removed) (fun _ _ => Iff.rfl) _

def fileIds (paths : List String) : List String :=
  paths.map ("file:" ++ ·)

theorem mem_fileIds {path : String} {paths : List String} :
    "file:" ++ path ∈ fileIds paths ↔ path ∈ paths := by
  rw [fileIds, List.mem_map]
  constructor
  · rintro ⟨path', hpath', heq⟩
    rwa [← (String.append_right_inj _).mp heq]
  · exact fun h => ⟨path, h, rfl⟩

theorem fileDecisions_without (hfree : ∀ path ∈ removed, path ∉ input.relevantFiles) :
    (without input removed).fileDecisions tables =
      (input.fileDecisions tables).filter fun d => d.itemId ∉ fileIds removed := by
  have hscored : (without input removed).scoredFiles tables =
      (input.scoredFiles tables).filter fun p => p.2.path ∉ removed := by
    rw [SelectionInput.scoredFiles, fileCandidates_without hfree, SelectionInput.scoredFiles,
      List.filter_map]
    rfl
  rw [SelectionInput.fileDecisions, hscored, rank_filter, SelectionInput.fileDecisions,
    List.filter_map]
  refine congrArg _ (List.filter_congr fun p _ => ?_)
  exact decide_eq_decide.mpr (not_congr mem_fileIds.symm)

theorem length_fileDecisions (tables : UnicodeTables) (input : SelectionInput) :
    (input.fileDecisions tables).length = input.fileCandidates.length := by
  simp [SelectionInput.fileDecisions, SelectionInput.scoredFiles, rank]

theorem notMem_fileIds_of_failure {id : String}
    (h : id ∈ (input.failureDecisions tables).map (·.itemId)) : id ∉ fileIds removed := by
  rw [SelectionInput.failureDecisions, List.map_map] at h
  obtain ⟨p, -, rfl⟩ := List.mem_map.mp h
  rw [fileIds, List.mem_map]
  rintro ⟨path, -, heq⟩
  exact fileItemId_ne_failureItemId { path := path, reason := "" } p.2 heq

end Leftovers

section Removal

variable (policy : ContextSelectionPolicy) (tables : UnicodeTables) (input : SelectionInput)

/-- What a selection comes to, with the files cut where the places end and no
documents. -/
theorem select_eq_filePlaces :
    let n := policy.failuresSelected input.fileCandidates.length input.failureCandidates.length
    policy.select tables input =
      { selectedFileIds :=
          ((input.fileDecisions tables).take (filePlaces policy)).map (·.itemId)
        selectedFailureIds := ((input.failureDecisions tables).take n).map (·.itemId)
        selectedDocIds := []
        droppedItemIds :=
          ((input.fileDecisions tables).drop (filePlaces policy)).map (·.itemId) ++
            ((input.failureDecisions tables).drop n).map (·.itemId)
        decisions :=
          cut (filePlaces policy) (input.fileDecisions tables) ++
            cut n (input.failureDecisions tables) } := by
  intro n
  have htake : (input.fileDecisions tables).take
      (policy.filesSelected input.fileCandidates.length) =
        (input.fileDecisions tables).take (filePlaces policy) := by
    rw [ContextSelectionPolicy.filesSelected, ← length_fileDecisions tables, ← filePlaces,
      ← List.take_eq_take_min]
  have hdrop : (input.fileDecisions tables).drop
      (policy.filesSelected input.fileCandidates.length) =
        (input.fileDecisions tables).drop (filePlaces policy) := by
    rw [ContextSelectionPolicy.filesSelected, ← length_fileDecisions tables, ← filePlaces,
      ← List.drop_eq_drop_min]
  rw [select_eq policy tables input rfl rfl rfl, cut, htake, hdrop, docDecisions_eq_nil]
  simp only [List.take_nil, List.drop_nil, List.map_nil, List.append_nil, cut, n]

variable {policy tables input} {removed : List String}

theorem kept_of_selected
    (hunselected : ∀ path ∈ removed,
      "file:" ++ path ∉ (policy.select tables input).selectedFileIds) :
    ∀ d ∈ (input.fileDecisions tables).take (filePlaces policy),
      decide (d.itemId ∉ fileIds removed) = true := by
  intro d hd
  rw [SelectionInput.fileDecisions, ← List.map_take] at hd
  obtain ⟨p, hp, rfl⟩ := List.mem_map.mp hd
  rw [decide_eq_true_iff]
  intro hremoved
  refine hunselected p.2.path (mem_fileIds.mp hremoved) ?_
  rw [mem_selectedFileIds, rankedPaths, ← List.map_take]
  exact List.mem_map.mpr ⟨p, hp, rfl⟩

/-- The reports on a class lose those that are taken out, if all of them are
behind the cut. -/
theorem cut_filter {ds : List SelectionDecision} {n : Nat}
    (h : ∀ d ∈ ds.take n, decide (d.itemId ∉ fileIds removed) = true) :
    cut n (ds.filter fun d => d.itemId ∉ fileIds removed) =
      (cut n ds).filter fun d => d.itemId ∉ fileIds removed := by
  rw [cut, cut, take_filter h, drop_filter h, List.filter_append, List.filter_map,
    List.filter_eq_self.mpr h]
  rfl

/-- Top-level entries that are not selected leave no trace but their own reports:
without them the selection is the same, and so are all other decisions on it. -/
theorem unselected_entries_immaterial (policy : ContextSelectionPolicy) (tables : UnicodeTables)
    (input : SelectionInput) (removed : List String)
    (hfree : ∀ path ∈ removed, path ∉ input.relevantFiles)
    (hunselected : ∀ path ∈ removed,
      "file:" ++ path ∉ (policy.select tables input).selectedFileIds) :
    let result := policy.select tables input
    policy.select tables
        { input with repoTopPaths := input.repoTopPaths.filter (· ∉ removed) } =
      { result with
        droppedItemIds := result.droppedItemIds.filter (· ∉ removed.map ("file:" ++ ·))
        decisions := result.decisions.filter (·.itemId ∉ removed.map ("file:" ++ ·)) } := by
  intro result
  change policy.select tables (without input removed) =
    { result with
      droppedItemIds := result.droppedItemIds.filter (· ∉ fileIds removed)
      decisions := result.decisions.filter (·.itemId ∉ fileIds removed) }
  have hkept := kept_of_selected hunselected
  have hdecisions : (without input removed).fileDecisions tables =
      (input.fileDecisions tables).filter fun d => d.itemId ∉ fileIds removed :=
    fileDecisions_without hfree
  have hplaces : policy.filesSelected (without input removed).fileCandidates.length =
      policy.filesSelected input.fileCandidates.length := by
    rw [ContextSelectionPolicy.filesSelected, ContextSelectionPolicy.filesSelected,
      ← length_fileDecisions tables, ← length_fileDecisions tables, ← filePlaces,
      ← List.length_take, ← List.length_take, hdecisions, take_filter hkept]
  have hn : policy.failuresSelected (without input removed).fileCandidates.length
      (without input removed).failureCandidates.length =
        policy.failuresSelected input.fileCandidates.length input.failureCandidates.length := by
    rw [ContextSelectionPolicy.failuresSelected, hplaces]
    rfl
  have hfailures : (without input removed).failureDecisions tables =
      input.failureDecisions tables := rfl
  rw [show result = _ from select_eq_filePlaces policy tables input,
    select_eq_filePlaces policy tables (without input removed), hn, hfailures, hdecisions,
    take_filter hkept, drop_filter hkept, cut_filter hkept]
  simp only [SelectionResult.mk.injEq, true_and, List.filter_append]
  refine ⟨congrArg₂ _ ?_ ?_, congrArg _ ?_⟩
  · rw [List.filter_map]
    rfl
  · symm
    rw [List.filter_eq_self]
    intro id hid
    obtain ⟨d, hd, rfl⟩ := List.mem_map.mp hid
    exact decide_eq_true
      (notMem_fileIds_of_failure (List.mem_map_of_mem (List.mem_of_mem_drop hd)))
  · symm
    rw [List.filter_eq_self]
    intro d hd
    have hid := List.mem_map_of_mem (f := (·.itemId)) hd
    rw [map_itemId_cut] at hid
    exact decide_eq_true (notMem_fileIds_of_failure hid)

def crowded : SelectionInput where
  relevantFiles := ["src/a.py"]
  failingTests := ["tests/test_a.py::test_a"]
  errorLogs := []
  taskKeywords := []
  repoTopPaths := ["docs/a.md", "src/b.py", "docs/b.md"]

theorem unselected_entries_immaterial_crowded :
    (({ maxFiles := 2 } : ContextSelectionPolicy).select asciiTables
        { crowded with repoTopPaths := ["src/b.py"] }).selectedFileIds =
      ["file:src/a.py", "file:src/b.py"] := by
  have hremoval := unselected_entries_immaterial { maxFiles := 2 } asciiTables crowded
    ["docs/a.md", "docs/b.md"] (by decide) (by decide)
  have hleft : crowded.repoTopPaths.filter (· ∉ ["docs/a.md", "docs/b.md"]) = ["src/b.py"] := by
    decide
  rw [hleft] at hremoval
  rw [hremoval]
  decide

end Removal

end NovaHarness.SelectionStability
