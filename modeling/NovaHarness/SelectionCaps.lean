import NovaHarness.SelectionAccounting

namespace NovaHarness.SelectionCaps

open NovaHarness.Text
open NovaHarness.RankedLists
open NovaHarness.ContextCandidates
open NovaHarness.ContextSelection
open NovaHarness.SelectionAccounting

section LargerTotal

variable {policy : ContextSelectionPolicy} {maxTotal : Int}

/-- With more room a class takes more of its candidates. -/
theorem taken_le {room room' : Nat} (h : room ≤ room') (cap n : Nat) :
    min (min cap room) n ≤ min (min cap room') n := by
  omega

/-- It may take the room that is added, never more than that. -/
theorem left_le {room room' : Nat} (h : room ≤ room') (cap n : Nat) :
    room - min (min cap room) n ≤ room' - min (min cap room') n := by
  omega

theorem filesSelected_le (h : policy.maxTotal ≤ maxTotal) (f : Nat) :
    policy.filesSelected f ≤ { policy with maxTotal := maxTotal }.filesSelected f :=
  taken_le (Int.toNat_le_toNat h) _ f

theorem failuresSelected_le (h : policy.maxTotal ≤ maxTotal) (f x : Nat) :
    policy.failuresSelected f x ≤ { policy with maxTotal := maxTotal }.failuresSelected f x := by
  have hfiles := left_le (Int.toNat_le_toNat h) policy.maxFiles.toNat f
  exact taken_le hfiles _ x

theorem docsSelected_le (h : policy.maxTotal ≤ maxTotal) (f x d : Nat) :
    policy.docsSelected f x d ≤ { policy with maxTotal := maxTotal }.docsSelected f x d := by
  have hfiles := left_le (Int.toNat_le_toNat h) policy.maxFiles.toNat f
  have hfailures := left_le hfiles policy.maxFailures.toNat x
  exact taken_le hfailures _ d

theorem map_take_prefix {n n' : Nat} (h : n ≤ n') (ds : List SelectionDecision) :
    (ds.take n).map (·.itemId) <+: (ds.take n').map (·.itemId) :=
  (List.take_prefix_take_left h).map _

def selectedIds (result : SelectionResult) : List String :=
  result.selectedFileIds ++ result.selectedFailureIds ++ result.selectedDocIds

theorem select_prefix_of_maxTotal_le (policy : ContextSelectionPolicy) (maxTotal : Int)
    (h : policy.maxTotal ≤ maxTotal) (tables : UnicodeTables) (input : SelectionInput) :
    let result := policy.select tables input
    let result' := { policy with maxTotal := maxTotal }.select tables input
    result.selectedFileIds <+: result'.selectedFileIds ∧
      result.selectedFailureIds <+: result'.selectedFailureIds ∧
      result.selectedDocIds <+: result'.selectedDocIds ∧
      ∀ id, (selectedIds result).count id ≤ (selectedIds result').count id := by
  intro result result'
  have hprefix : result.selectedFileIds <+: result'.selectedFileIds ∧
      result.selectedFailureIds <+: result'.selectedFailureIds ∧
      result.selectedDocIds <+: result'.selectedDocIds := by
    rw [show result = _ from select_eq policy tables input rfl rfl rfl,
      show result' = _ from select_eq _ tables input rfl rfl rfl]
    refine ⟨?_, ?_, ?_⟩
    · exact map_take_prefix (filesSelected_le h _) _
    · exact map_take_prefix (failuresSelected_le h _ _) _
    · exact map_take_prefix (docsSelected_le h _ _ _) _
  obtain ⟨hfiles, hfailures, hdocs⟩ := hprefix
  refine ⟨hfiles, hfailures, hdocs, fun id => ?_⟩
  simp only [selectedIds, List.count_append]
  have hf := hfiles.sublist.count_le id
  have hx := hfailures.sublist.count_le id
  have hd := hdocs.sublist.count_le id
  omega

theorem select_prefix_of_maxTotal_le_twoTracebacks :
    (({ maxTotal := 2 } : ContextSelectionPolicy).select asciiTables
        twoTracebacks).selectedFailureIds = ["failure:runtime error"] ∧
      (({ maxTotal := 2 } : ContextSelectionPolicy).select asciiTables
          twoTracebacks).selectedFailureIds <+:
        (({ maxTotal := 3 } : ContextSelectionPolicy).select asciiTables
          twoTracebacks).selectedFailureIds :=
  ⟨by decide, (select_prefix_of_maxTotal_le { maxTotal := 2 } 3 (by decide) asciiTables
    twoTracebacks).2.1⟩

end LargerTotal

section References

variable {policy : ContextSelectionPolicy} {tables : UnicodeTables} {input : SelectionInput}

theorem path_mem_gatherPaths {reason : String} {seen paths : List String} {path : String}
    (hmem : path ∈ paths) (hseen : path ∉ seen) (hkept : isExcluded path = false) :
    path ∈ (gatherPaths reason seen paths).map (·.path) := by
  induction paths generalizing seen with
  | nil => simp at hmem
  | cons path' paths ih =>
      simp only [gatherPaths]
      by_cases hsame : path = path'
      · subst hsame
        simp [hseen, hkept]
      · have htail := (List.mem_cons.mp hmem).resolve_left hsame
        split
        · exact ih htail hseen
        · split
          · exact ih htail hseen
          · exact List.mem_cons_of_mem _ (ih htail (by simp [hsame, hseen]))

/-- The paths a task refers to are gathered before all others. -/
theorem fileCandidates_pairwise :
    input.fileCandidates.Pairwise fun c c' =>
      c'.path ∈ input.relevantFiles → c.path ∈ input.relevantFiles := by
  rw [SelectionInput.fileCandidates, gatherFileCandidates]
  have hreferenced : ∀ c ∈ gatherPaths "explicitly referenced in task inputs" []
      input.relevantFiles, c.path ∈ input.relevantFiles := fun c hc => (gathered_of_mem hc).listed
  refine List.pairwise_append.mpr ⟨?_, ?_, ?_⟩
  · exact List.pairwise_of_forall_mem_list fun c hc _ _ _ => hreferenced c hc
  · refine List.pairwise_of_forall_mem_list fun _ _ c' hc' hrelevant => ?_
    have hgathered := gathered_of_mem hc'
    exact absurd (path_mem_gatherPaths hrelevant (by simp) hgathered.kept) hgathered.fresh
  · exact fun c hc _ _ _ => hreferenced c hc

def namesTest (tables : UnicodeTables) (path : String) : Bool :=
  ["test"].any (contains (tables.lower path) ·)

def namesSource (tables : UnicodeTables) (path : String) : Bool :=
  ["src", "lib", "app"].any (contains (tables.lower path) ·)

def isImported (input : SelectionInput) (path : String) : Prop :=
  ∃ importedBy, input.importedBy = some importedBy ∧ path ∈ importedBy

def inSelectedDir (input : SelectionInput) (path : String) : Prop :=
  ∃ selectedDir, nonEmpty input.selectedDir = some selectedDir ∧
    String.intercalate "/" (pathParts path).dropLast = selectedDir

def pathScore (tables : UnicodeTables) (input : SelectionInput) (path : String) : Int :=
  input.fileScore tables { path := path, reason := "" }

/-- What a file has to have going for it to be selected in front of a path the
task refers to. -/
structure Outweighs (tables : UnicodeTables) (input : SelectionInput) (path referenced : String) :
    Prop where
  higher : pathScore tables input referenced < pathScore tables input path
  imported : isImported input path
  test : namesTest tables path = true
  bonuses : (namesSource tables path = true ∧
      mentions (input.keywordSet tables) (tables.lower path)) ∨
    (namesSource tables path = true ∧ inSelectedDir input path) ∨
    (mentions (input.keywordSet tables) (tables.lower path) ∧ inSelectedDir input path)

theorem points_nonneg {n : Int} (hn : 0 ≤ n) (ok : Prop) [Decidable ok] :
    0 ≤ points n ok ∧ points n ok ≤ n := by
  unfold points
  split <;> omega

theorem points_of_not {n : Int} {ok : Prop} [Decidable ok] (h : ¬ ok) : points n ok = 0 :=
  if_neg h

/-- The bonus for import proximity, 0 for all calls without such a set. -/
def importBonus (input : SelectionInput) (path : String) : Int :=
  match input.importedBy with
  | some importedBy =>
      if importedBy = ∅ then 0 else
        scoreFileImportProximity { path := path, reason := "" } importedBy
  | none => 0

def directoryBonus (input : SelectionInput) (path : String) : Int :=
  match nonEmpty input.selectedDir with
  | some selectedDir => scoreFileSameDirectory { path := path, reason := "" } selectedDir
  | none => 0

theorem importBonus_bounds (input : SelectionInput) (path : String) :
    0 ≤ importBonus input path ∧ importBonus input path ≤ 40 := by
  unfold importBonus
  cases input.importedBy with
  | none => simp
  | some importedBy =>
      simp only
      split
      · simp
      · exact points_nonneg (by decide) (path ∈ importedBy)

theorem importBonus_of_not {input : SelectionInput} {path : String}
    (h : ¬ isImported input path) : importBonus input path = 0 := by
  unfold importBonus
  cases himported : input.importedBy with
  | none => rfl
  | some importedBy =>
      simp only
      split
      · rfl
      · exact points_of_not fun hmem => h ⟨importedBy, himported, hmem⟩

theorem directoryBonus_bounds (input : SelectionInput) (path : String) :
    0 ≤ directoryBonus input path ∧ directoryBonus input path ≤ 20 := by
  unfold directoryBonus
  cases nonEmpty input.selectedDir with
  | none => simp
  | some selectedDir => exact points_nonneg (by decide) _

theorem directoryBonus_of_not {input : SelectionInput} {path : String}
    (h : ¬ inSelectedDir input path) : directoryBonus input path = 0 := by
  unfold directoryBonus
  cases hdir : nonEmpty input.selectedDir with
  | none => rfl
  | some selectedDir => exact points_of_not fun hsame => h ⟨selectedDir, hdir, hsame⟩

theorem pathScore_eq (tables : UnicodeTables) (input : SelectionInput) (path : String) :
    pathScore tables input path =
      points 100 (path ∈ input.relevantSet) + points 40 (namesTest tables path = true) +
        points 15 (namesSource tables path = true) +
        points 10 (mentions (input.keywordSet tables) (tables.lower path)) +
        points 5 (mentions (input.keywordSet tables) (tables.lower input.taskTitle)) +
        importBonus input path + directoryBonus input path :=
  rfl

/-- The part of the score of a file that is about its path and nothing else. -/
def bonuses (tables : UnicodeTables) (input : SelectionInput) (path : String) : Int :=
  points 40 (namesTest tables path = true) + points 15 (namesSource tables path = true) +
    points 10 (mentions (input.keywordSet tables) (tables.lower path)) +
    importBonus input path + directoryBonus input path

theorem bonuses_nonneg (tables : UnicodeTables) (input : SelectionInput) (path : String) :
    0 ≤ bonuses tables input path := by
  have htest := (points_nonneg (n := 40) (by decide) (namesTest tables path = true)).1
  have hsource := (points_nonneg (n := 15) (by decide) (namesSource tables path = true)).1
  have hkeyword := (points_nonneg (n := 10) (by decide)
    (mentions (input.keywordSet tables) (tables.lower path))).1
  have himport := (importBonus_bounds input path).1
  have hdirectory := (directoryBonus_bounds input path).1
  unfold bonuses
  omega

/-- The points of a reference are only made up for by more than 100 others. -/
theorem lt_bonuses_of_pathScore_lt {path referenced : String}
    (hreferenced : referenced ∈ input.relevantFiles) (hpath : path ∉ input.relevantFiles)
    (hhigher : pathScore tables input referenced < pathScore tables input path) :
    100 < bonuses tables input path := by
  have hreference : points 100 (referenced ∈ input.relevantSet) = 100 :=
    if_pos (List.mem_toFinset.mpr hreferenced)
  have hnone : points 100 (path ∈ input.relevantSet) = 0 :=
    points_of_not fun hmem => hpath (List.mem_toFinset.mp hmem)
  have hnonneg := bonuses_nonneg tables input referenced
  rw [pathScore_eq, pathScore_eq, hreference, hnone] at hhigher
  unfold bonuses at hnonneg ⊢
  omega

/-- Short of those 100 points, the other bonuses only get past a reference when
nearly all of them come together. -/
theorem outweighs_of_pathScore_lt {path referenced : String}
    (hreferenced : referenced ∈ input.relevantFiles) (hpath : path ∉ input.relevantFiles)
    (hhigher : pathScore tables input referenced < pathScore tables input path) :
    Outweighs tables input path referenced := by
  have hsum := lt_bonuses_of_pathScore_lt hreferenced hpath hhigher
  rw [bonuses] at hsum
  have htest := (points_nonneg (n := 40) (by decide) (namesTest tables path = true)).2
  have hsource := (points_nonneg (n := 15) (by decide) (namesSource tables path = true)).2
  have hkeyword := (points_nonneg (n := 10) (by decide)
    (mentions (input.keywordSet tables) (tables.lower path))).2
  have himport := (importBonus_bounds input path).2
  have hdirectory := (directoryBonus_bounds input path).2
  refine ⟨hhigher, ?_, ?_, ?_⟩
  · by_contra hnot
    rw [importBonus_of_not hnot] at hsum
    omega
  · by_contra hnot
    rw [points_of_not hnot] at hsum
    omega
  · -- one bonus of the three on its own is not enough
    by_contra hnot
    by_cases hs : namesSource tables path = true
    · by_cases hk : mentions (input.keywordSet tables) (tables.lower path)
      · exact hnot (.inl ⟨hs, hk⟩)
      · have hd : ¬ inSelectedDir input path := fun hd => hnot (.inr (.inl ⟨hs, hd⟩))
        rw [points_of_not hk, directoryBonus_of_not hd] at hsum
        omega
    · by_cases hk : mentions (input.keywordSet tables) (tables.lower path)
      · have hd : ¬ inSelectedDir input path := fun hd => hnot (.inr (.inr ⟨hk, hd⟩))
        rw [points_of_not hs, directoryBonus_of_not hd] at hsum
        omega
      · rw [points_of_not hs, points_of_not hk] at hsum
        omega

/-- A file id stands for a ranked file, in front of the cut or behind it. -/
theorem exists_file_of_selected {path : String}
    (h : fileItemId { path := path, reason := "" } ∈
      (policy.select tables input).selectedFileIds) :
    ∃ p ∈ (rank (fun p => -p.1) (input.scoredFiles tables)).take
        (policy.filesSelected input.fileCandidates.length), p.2.path = path := by
  rw [select_eq policy tables input rfl rfl rfl, SelectionInput.fileDecisions, ← List.map_take,
    List.map_map] at h
  obtain ⟨p, hp, hid⟩ := List.mem_map.mp h
  exact ⟨p, hp, (String.append_right_inj _).mp hid⟩

theorem exists_file_of_dropped {path : String}
    (h : fileItemId { path := path, reason := "" } ∈ (policy.select tables input).droppedItemIds) :
    ∃ p ∈ (rank (fun p => -p.1) (input.scoredFiles tables)).drop
        (policy.filesSelected input.fileCandidates.length), p.2.path = path := by
  rw [select_eq policy tables input rfl rfl rfl, docDecisions_eq_nil] at h
  simp only [List.drop_nil, List.map_nil, List.append_nil, List.mem_append] at h
  rcases h with h | h
  · rw [SelectionInput.fileDecisions, ← List.map_drop, List.map_map] at h
    obtain ⟨p, hp, hid⟩ := List.mem_map.mp h
    exact ⟨p, hp, (String.append_right_inj _).mp hid⟩
  · rw [SelectionInput.failureDecisions, ← List.map_drop, List.map_map] at h
    obtain ⟨p, -, hid⟩ := List.mem_map.mp h
    exact absurd hid.symm (fileItemId_ne_failureItemId _ p.2)

theorem score_of_mem_ranked {p : Int × CandidateFile}
    (h : p ∈ rank (fun p => -p.1) (input.scoredFiles tables)) :
    p.1 = pathScore tables input p.2.path := by
  obtain ⟨c, -, rfl⟩ := List.mem_map.mp ((mem_rank _).mp h)
  rfl

/-- A path the task refers to only loses its place to a file that outweighs it. -/
theorem outweighs_of_reference_dropped (policy : ContextSelectionPolicy) (tables : UnicodeTables)
    (input : SelectionInput) {path referenced : String}
    (hreferenced : referenced ∈ input.relevantFiles) (hpath : path ∉ input.relevantFiles)
    (hdropped : "file:" ++ referenced ∈ (policy.select tables input).droppedItemIds)
    (hselected : "file:" ++ path ∈ (policy.select tables input).selectedFileIds) :
    Outweighs tables input path referenced := by
  obtain ⟨p, hp, rfl⟩ := exists_file_of_selected hselected
  obtain ⟨q, hq, rfl⟩ := exists_file_of_dropped hdropped
  have hranks := ranks_rank (fun p : Int × CandidateFile => -p.1) (input.scoredFiles tables)
  have hle : -p.1 ≤ -q.1 := hranks.le_of_mem_take_drop hp hq
  -- On a tie the reference, gathered first, would still be in front.
  have hne : -p.1 ≠ -q.1 := by
    intro htie
    have horder := (hranks.sublist_of_tie hp hq htie).map (·.2)
    have hcandidates : (input.scoredFiles tables).map (·.2) = input.fileCandidates := by
      simp [SelectionInput.scoredFiles, Function.comp_def]
    rw [hcandidates] at horder
    have hpair := fileCandidates_pairwise.sublist horder
    simp only [List.map_cons, List.map_nil, List.pairwise_cons, List.mem_singleton,
      forall_eq] at hpair
    exact hpath (hpair.1 hreferenced)
  refine outweighs_of_pathScore_lt hreferenced hpath ?_
  rw [← score_of_mem_ranked (List.mem_of_mem_take hp),
    ← score_of_mem_ranked (List.mem_of_mem_drop hq)]
  omega

def importedTest : SelectionInput where
  relevantFiles := ["README.md"]
  failingTests := []
  errorLogs := []
  taskTitle := "Pack the release"
  taskKeywords := ["pack"]
  repoTopPaths := ["src/test_pack.py"]
  importedBy := some {"src/test_pack.py"}

theorem outweighs_of_reference_dropped_importedTest :
    pathScore asciiTables importedTest "README.md" = 105 ∧
      pathScore asciiTables importedTest "src/test_pack.py" = 110 ∧
      Outweighs asciiTables importedTest "src/test_pack.py" "README.md" :=
  ⟨by decide, by decide, outweighs_of_reference_dropped { maxFiles := 1 } asciiTables importedTest
    (by decide) (by decide) (by decide) (by decide)⟩

theorem importedTest_not_references_first :
    ¬ ∀ (policy : ContextSelectionPolicy) (tables : UnicodeTables) (input : SelectionInput),
      (∃ referenced ∈ input.relevantFiles, isExcluded referenced = false ∧
        "file:" ++ referenced ∈ (policy.select tables input).droppedItemIds) →
      ∀ path, "file:" ++ path ∈ (policy.select tables input).selectedFileIds →
        path ∈ input.relevantFiles := by
  intro h
  have hselected := h { maxFiles := 1 } asciiTables importedTest
    ⟨"README.md", by decide, by decide, by decide⟩ "src/test_pack.py" (by decide)
  exact absurd hselected (by decide)

end References

end NovaHarness.SelectionCaps
