import NovaHarness.SelectionCaps

namespace NovaHarness.KeywordSets

open NovaHarness.Text
open NovaHarness.RankedLists
open NovaHarness.ContextCandidates
open NovaHarness.ContextSelection
open NovaHarness.SelectionAccounting
open NovaHarness.SelectionCaps

section Loops

variable (tables : UnicodeTables) (order : List String)

/-- `for kw in keywords: if kw in text: score += n; break`, the keywords being
read in the order given. -/
def addOnFirst (n : Int) (text : String) (score : Int) : List String → Int
  | [] => score
  | kw :: kws => if contains text kw then score + n else addOnFirst n text score kws

def scoreFileReading (candidate : CandidateFile) (relevantFiles : Finset String)
    (taskTitle : String) : Int :=
  let pathLower := tables.lower candidate.path
  let score := if candidate.path ∈ relevantFiles then 100 else 0
  let score := if ["test"].any (contains pathLower ·) then score + 40 else score
  let score := if ["src", "lib", "app"].any (contains pathLower ·) then score + 15 else score
  let score := addOnFirst 10 pathLower score order
  addOnFirst 5 (tables.lower taskTitle) score order

def scoreFailureReading (candidate : CandidateFailure) (relevantFiles : Finset String) : Int :=
  match nonEmpty candidate.filePath with
  | none => 0
  | some filePath =>
      let score := if filePath ∈ relevantFiles then 90 else 0
      addOnFirst 20 (tables.lower filePath) score order

def scoreDocReading (candidate : CandidateDoc) : Int :=
  let score := addOnFirst 30 (tables.lower candidate.title) 0 order
  addOnFirst 15 (tables.lower candidate.source) score order

/-- The order a set is read in: each of its members, once. -/
def Enumerates (order : List String) (keywords : Finset String) : Prop :=
  order.Nodup ∧ order.toFinset = keywords

variable {tables order} {keywords : Finset String}

theorem addOnFirst_eq (n : Int) (text : String) (score : Int) (order : List String) :
    addOnFirst n text score order = score + points n (mentions order.toFinset text) := by
  induction order with
  | nil => simp [addOnFirst, points, mentions]
  | cons kw kws ih =>
      rw [addOnFirst]
      split
      · rename_i hfound
        simp [points, mentions, hfound]
      · rename_i hmissing
        simp only [ih, points, mentions, List.mem_toFinset, List.mem_cons]
        simp [hmissing]

theorem Enumerates.addOnFirst_eq (h : Enumerates order keywords) (n : Int) (text : String)
    (score : Int) :
    addOnFirst n text score order = score + points n (mentions keywords text) := by
  obtain ⟨-, rfl⟩ := h
  exact KeywordSets.addOnFirst_eq n text score order

theorem Enumerates.scoreFileReading_eq (h : Enumerates order keywords)
    (candidate : CandidateFile) (relevantFiles : Finset String) (taskTitle : String) :
    scoreFileReading tables order candidate relevantFiles taskTitle =
      scoreFile tables keywords candidate relevantFiles taskTitle := by
  simp only [scoreFileReading, scoreFile, h.addOnFirst_eq]
  have hadd : ∀ (score n : Int) (ok : Prop) [Decidable ok],
      (if ok then score + n else score) = score + points n ok := by
    intro score n ok _
    unfold points
    split <;> simp
  rw [hadd, hadd]
  rfl

theorem Enumerates.scoreFailureReading_eq (h : Enumerates order keywords)
    (candidate : CandidateFailure) (relevantFiles : Finset String) :
    scoreFailureReading tables order candidate relevantFiles =
      scoreFailure tables keywords candidate relevantFiles := by
  unfold scoreFailureReading scoreFailure
  cases nonEmpty candidate.filePath with
  | none => rfl
  | some filePath =>
      simp only [h.addOnFirst_eq]
      rfl

theorem Enumerates.scoreDocReading_eq (h : Enumerates order keywords)
    (candidate : CandidateDoc) :
    scoreDocReading tables order candidate = scoreDoc tables keywords candidate := by
  simp only [scoreDocReading, scoreDoc, h.addOnFirst_eq, Int.zero_add]

end Loops

section Reading

variable (policy : ContextSelectionPolicy) (tables : UnicodeTables) (order : List String)
  (input : SelectionInput)

def fileScoreReading (candidate : CandidateFile) : Int :=
  scoreFileReading tables order candidate input.relevantSet input.taskTitle +
    (match input.importedBy with
      | some importedBy =>
          if importedBy = ∅ then 0 else scoreFileImportProximity candidate importedBy
      | none => 0) +
    (match nonEmpty input.selectedDir with
      | some selectedDir => scoreFileSameDirectory candidate selectedDir
      | none => 0)

/-- `select` from the sorting of the scored candidates on. -/
def selectScored (files : List (Int × CandidateFile)) (failures : List (Int × CandidateFailure))
    (docs : List (Int × CandidateDoc)) : SelectionResult :=
  let afterFiles := offerAll policy.maxFiles policy.maxTotal {}
    ((rank (fun p => -p.1) files).map fileDecision)
  let afterFailures := offerAll policy.maxFailures policy.maxTotal afterFiles
    ((rank (fun p => -p.1) failures).map failureDecision)
  let afterDocs := offerAll policy.maxDocs policy.maxTotal afterFailures
    ((rank (fun p => -p.1) docs).map docDecision)
  { selectedFileIds := afterFiles.selected
    selectedFailureIds := afterFailures.selected
    selectedDocIds := afterDocs.selected
    droppedItemIds := afterDocs.dropped
    decisions := afterDocs.decisions }

theorem select_eq_selectScored :
    policy.select tables input =
      selectScored policy (input.scoredFiles tables) (input.scoredFailures tables)
        (input.scoredDocs tables) :=
  rfl

/-- `select`, the keyword set being read in the order given. -/
def selectReading : SelectionResult :=
  selectScored policy
    (input.fileCandidates.map fun c => (fileScoreReading tables order input c, c))
    (input.failureCandidates.map fun c =>
      (scoreFailureReading tables order c input.relevantSet, c))
    ((input.docCandidates tables).map fun c => (scoreDocReading tables order c, c))

variable {policy tables order input}

theorem Enumerates.selectReading_eq (h : Enumerates order (input.keywordSet tables)) :
    selectReading policy tables order input = policy.select tables input := by
  rw [selectReading, select_eq_selectScored]
  simp only [fileScoreReading, h.scoreFileReading_eq, h.scoreFailureReading_eq,
    h.scoreDocReading_eq]
  rfl

end Reading

section Rearranging

/-- The lists a list of keywords can be turned into by changing the order,
repeating elements, and putting in blank strings. -/
inductive Rearranged : List String → List String → Prop
  | reordered {kws kws' : List String} (hperm : kws.Perm kws') : Rearranged kws kws'
  | repeated (xs ys : List String) (kw : String) (hmem : kw ∈ xs ++ ys) :
      Rearranged (xs ++ ys) (xs ++ kw :: ys)
  | padded (xs ys : List String) (kw : String) (hblank : IsBlank kw) :
      Rearranged (xs ++ ys) (xs ++ kw :: ys)
  | trans {kws kws' kws'' : List String} (h : Rearranged kws kws')
      (h' : Rearranged kws' kws'') : Rearranged kws kws''

theorem Rearranged.mem_iff {kws kws' : List String} (h : Rearranged kws kws') {kw : String}
    (hkw : ¬ IsBlank kw) : kw ∈ kws ↔ kw ∈ kws' := by
  induction h with
  | reordered hperm => exact hperm.mem_iff
  | repeated xs ys kw' hmem =>
      simp only [List.mem_append, List.mem_cons] at hmem ⊢
      constructor
      · rintro (h | h)
        · exact .inl h
        · exact .inr (.inr h)
      · rintro (h | rfl | h)
        · exact .inl h
        · exact hmem
        · exact .inr h
  | padded xs ys kw' hblank =>
      have hne : kw ≠ kw' := fun heq => hkw (heq ▸ hblank)
      simp [hne]
  | trans _ _ ih ih' => exact ih.trans ih'

def withKeywords (input : SelectionInput) (kws : List String) : SelectionInput :=
  { input with taskKeywords := kws }

theorem mem_keywordSet {tables : UnicodeTables} {input : SelectionInput} {kw : String} :
    kw ∈ input.keywordSet tables ↔
      ∃ k ∈ input.taskKeywords, ¬ IsBlank k ∧ tables.lower k = kw := by
  simp [SelectionInput.keywordSet, and_assoc]

theorem Rearranged.keywordSet_eq {tables : UnicodeTables} {input : SelectionInput}
    {kws : List String} (h : Rearranged input.taskKeywords kws) :
    (withKeywords input kws).keywordSet tables = input.keywordSet tables := by
  ext kw
  rw [mem_keywordSet, mem_keywordSet]
  refine exists_congr fun k => ?_
  constructor
  · rintro ⟨hmem, hk, hlower⟩
    exact ⟨(h.mem_iff hk).mpr hmem, hk, hlower⟩
  · rintro ⟨hmem, hk, hlower⟩
    exact ⟨(h.mem_iff hk).mp hmem, hk, hlower⟩

end Rearranging

section SearchedTexts

/-- The texts in which scoring looks for keywords: lower-cased, the path of each
file candidate, the title if there is one, and the file of each failing test. -/
def searchedTexts (tables : UnicodeTables) (input : SelectionInput) : List String :=
  input.fileCandidates.map (fun c => tables.lower c.path) ++
    (if input.fileCandidates = [] then [] else [tables.lower input.taskTitle]) ++
    input.failureCandidates.filterMap fun c => (nonEmpty c.filePath).map tables.lower

variable {policy : ContextSelectionPolicy} {tables : UnicodeTables} {input : SelectionInput}
  {kws : List String}

theorem points_eq_points_iff {n : Int} (hn : 0 < n) {ok ok' : Prop} [Decidable ok]
    [Decidable ok'] : points n ok = points n ok' ↔ (ok ↔ ok') := by
  unfold points
  by_cases h : ok <;> by_cases h' : ok' <;> simp [h, h'] <;> omega

/-- 10 points and 5 points add up to different sums. -/
theorem points_add_points_eq_iff {a b a' b' : Prop} [Decidable a] [Decidable b] [Decidable a']
    [Decidable b'] :
    points 10 a + points 5 b = points 10 a' + points 5 b' ↔ (a ↔ a') ∧ (b ↔ b') := by
  unfold points
  by_cases ha : a <;> by_cases ha' : a' <;> by_cases hb : b <;> by_cases hb' : b' <;>
    simp [ha, ha', hb, hb']

theorem pathScore_withKeywords (tables : UnicodeTables) (input : SelectionInput)
    (kws : List String) (path : String) :
    pathScore tables (withKeywords input kws) path =
      points 100 (path ∈ input.relevantSet) + points 40 (namesTest tables path = true) +
        points 15 (namesSource tables path = true) +
        points 10 (mentions ((withKeywords input kws).keywordSet tables) (tables.lower path)) +
        points 5 (mentions ((withKeywords input kws).keywordSet tables)
          (tables.lower input.taskTitle)) +
        importBonus input path + directoryBonus input path :=
  pathScore_eq tables (withKeywords input kws) path

/-- Keywords only move the score of a file through its path and the title. -/
theorem pathScore_withKeywords_eq_iff (path : String) :
    pathScore tables (withKeywords input kws) path = pathScore tables input path ↔
      (mentions ((withKeywords input kws).keywordSet tables) (tables.lower path) ↔
        mentions (input.keywordSet tables) (tables.lower path)) ∧
      (mentions ((withKeywords input kws).keywordSet tables) (tables.lower input.taskTitle) ↔
        mentions (input.keywordSet tables) (tables.lower input.taskTitle)) := by
  rw [← points_add_points_eq_iff, pathScore_withKeywords, pathScore_eq]
  constructor
  · intro h
    omega
  · intro h
    omega

theorem failureScore_withKeywords_eq_iff (c : CandidateFailure) :
    (withKeywords input kws).failureScore tables c = input.failureScore tables c ↔
      ∀ filePath, nonEmpty c.filePath = some filePath →
        (mentions ((withKeywords input kws).keywordSet tables) (tables.lower filePath) ↔
          mentions (input.keywordSet tables) (tables.lower filePath)) := by
  unfold SelectionInput.failureScore scoreFailure
  cases nonEmpty c.filePath with
  | none => simp
  | some filePath =>
      simp only [Option.some.injEq, forall_eq']
      refine Iff.trans ?_ (points_eq_points_iff (n := 20) (by decide))
      exact add_right_inj (points 90 (filePath ∈ input.relevantSet))

/-- A failure candidate has the file its name says. -/
theorem filePath_of_mem_failureCandidates {c : CandidateFailure}
    (h : c ∈ input.failureCandidates) : c.filePath = (failingTest c.testName).filePath := by
  rcases List.mem_append.mp h with h | h
  · obtain ⟨test, -, rfl⟩ := List.mem_map.mp h
    rfl
  · rw [mem_gatherErrorLogs h]
    decide

/-- Scores are the same for all candidates when they are the same in the two
ranked lists. -/
theorem score_eq_of_map_report_eq {α : Type} (itemId : α → String)
    (decision : Int × α → SelectionDecision)
    (hreport : ∀ p, report (decision p) = (itemId p.2, (decision p).itemType, p.1))
    {cs : List α} {score score' : α → Int}
    (hcongr : ∀ c ∈ cs, ∀ c' ∈ cs, itemId c = itemId c' → score c = score c')
    (h : ((rank (fun p => -p.1) (cs.map fun c => (score' c, c))).map decision).map report =
      ((rank (fun p => -p.1) (cs.map fun c => (score c, c))).map decision).map report) :
    ∀ c ∈ cs, score' c = score c := by
  intro c hc
  have hmem : report (decision (score' c, c)) ∈
      ((rank (fun p => -p.1) (cs.map fun c => (score' c, c))).map decision).map report := by
    refine List.mem_map_of_mem (List.mem_map_of_mem ?_)
    exact (mem_rank _).mpr (List.mem_map_of_mem hc)
  rw [h] at hmem
  obtain ⟨d, hd, hsame⟩ := List.mem_map.mp hmem
  obtain ⟨p, hp, rfl⟩ := List.mem_map.mp hd
  obtain ⟨c', hc', rfl⟩ := List.mem_map.mp ((mem_rank _).mp hp)
  rw [hreport, hreport, Prod.mk.injEq, Prod.mk.injEq] at hsame
  obtain ⟨hid, -, hscore⟩ := hsame
  change score c' = score' c at hscore
  rw [← hscore]
  exact (hcongr c hc c' hc' hid.symm).symm

theorem map_report_decisions (policy : ContextSelectionPolicy) (tables : UnicodeTables)
    (input : SelectionInput) :
    (policy.select tables input).decisions.map report =
      (input.fileDecisions tables).map report ++ (input.failureDecisions tables).map report := by
  rw [select_eq policy tables input rfl rfl rfl]
  simp only [List.map_append, map_report_cut, docDecisions_eq_nil, List.map_nil, List.append_nil]

theorem pathScore_eq_of_select_eq
    (h : policy.select tables (withKeywords input kws) = policy.select tables input) :
    (∀ c ∈ input.fileCandidates,
      pathScore tables (withKeywords input kws) c.path = pathScore tables input c.path) ∧
    ∀ c ∈ input.failureCandidates,
      (withKeywords input kws).failureScore tables c = input.failureScore tables c := by
  have hreports := congrArg (fun result => result.decisions.map report) h
  simp only [map_report_decisions] at hreports
  have hlength : ((withKeywords input kws).fileDecisions tables).length =
      (input.fileDecisions tables).length := by
    simp [SelectionInput.fileDecisions, SelectionInput.scoredFiles, rank,
      SelectionInput.fileCandidates, withKeywords]
  obtain ⟨hfiles, hfailures⟩ := List.append_inj hreports (by simpa using hlength)
  constructor
  · refine score_eq_of_map_report_eq fileItemId fileDecision (fun _ => rfl) ?_ hfiles
    intro c _ c' _ hid
    have hpath : c.path = c'.path := (String.append_right_inj _).mp hid
    change pathScore tables input c.path = pathScore tables input c'.path
    rw [hpath]
  · refine score_eq_of_map_report_eq failureItemId failureDecision (fun _ => rfl) ?_
      hfailures
    intro c hc c' hc' hid
    have hname : c.testName = c'.testName := (String.append_right_inj _).mp hid
    unfold SelectionInput.failureScore scoreFailure
    rw [filePath_of_mem_failureCandidates hc, filePath_of_mem_failureCandidates hc', hname]

theorem mem_searchedTexts {text : String} :
    text ∈ searchedTexts tables input ↔
      (∃ c ∈ input.fileCandidates, tables.lower c.path = text ∨
        tables.lower input.taskTitle = text) ∨
      ∃ c ∈ input.failureCandidates, ∃ filePath, nonEmpty c.filePath = some filePath ∧
        tables.lower filePath = text := by
  simp only [searchedTexts, List.mem_append, List.mem_map, List.mem_filterMap,
    Option.map_eq_some_iff]
  refine or_congr_left ?_
  cases hfiles : input.fileCandidates with
  | nil => simp
  | cons c cs =>
      simp only [if_neg (List.cons_ne_nil c cs), List.mem_singleton, exists_or, and_or_left]
      refine or_congr_right ?_
      constructor
      · rintro rfl
        exact ⟨c, List.mem_cons_self, rfl⟩
      · rintro ⟨-, -, rfl⟩
        rfl

/-- Two lists of keywords select alike exactly when each text that is searched
mentions a keyword of both lists or of neither. -/
theorem select_withKeywords_eq_iff (policy : ContextSelectionPolicy) (tables : UnicodeTables)
    (input : SelectionInput) (kws : List String) :
    policy.select tables (withKeywords input kws) = policy.select tables input ↔
      ∀ text ∈ searchedTexts tables input,
        (mentions ((withKeywords input kws).keywordSet tables) text ↔
          mentions (input.keywordSet tables) text) := by
  constructor
  · intro h text htext
    obtain ⟨hfiles, hfailures⟩ := pathScore_eq_of_select_eq h
    rcases mem_searchedTexts.mp htext with ⟨c, hc, rfl | rfl⟩ | ⟨c, hc, filePath, hpath, rfl⟩
    · exact ((pathScore_withKeywords_eq_iff c.path).mp (hfiles c hc)).1
    · exact ((pathScore_withKeywords_eq_iff c.path).mp (hfiles c hc)).2
    · exact (failureScore_withKeywords_eq_iff c).mp (hfailures c hc) filePath hpath
  · intro h
    have hfiles : (withKeywords input kws).scoredFiles tables = input.scoredFiles tables := by
      refine List.map_congr_left fun c hc => congrArg (·, c) ?_
      refine (pathScore_withKeywords_eq_iff c.path).mpr ⟨h _ ?_, h _ ?_⟩
      · exact mem_searchedTexts.mpr (.inl ⟨c, hc, .inl rfl⟩)
      · exact mem_searchedTexts.mpr (.inl ⟨c, hc, .inr rfl⟩)
    have hfailures : (withKeywords input kws).scoredFailures tables =
        input.scoredFailures tables := by
      refine List.map_congr_left fun c hc => congrArg (·, c) ?_
      refine (failureScore_withKeywords_eq_iff c).mpr fun filePath hpath => h _ ?_
      exact mem_searchedTexts.mpr (.inr ⟨c, hc, filePath, hpath, rfl⟩)
    rw [select_eq_selectScored, select_eq_selectScored, hfiles, hfailures,
      SelectionInput.scoredDocs, SelectionInput.scoredDocs, docCandidates_eq_nil,
      docCandidates_eq_nil]
    rfl

end SearchedTexts

section Irrelevance

/-- Whatever list the keywords are rearranged into and in whatever order their
set is read, the selection is the same. -/
theorem select_rearranged (policy : ContextSelectionPolicy) (tables : UnicodeTables)
    (input : SelectionInput) {kws order order' : List String}
    (h : Rearranged input.taskKeywords kws)
    (horder : Enumerates order (input.keywordSet tables))
    (horder' : Enumerates order' ((withKeywords input kws).keywordSet tables)) :
    selectReading policy tables order' (withKeywords input kws) =
        selectReading policy tables order input ∧
      selectReading policy tables order input = policy.select tables input := by
  refine ⟨?_, horder.selectReading_eq⟩
  rw [horder'.selectReading_eq, horder.selectReading_eq, select_withKeywords_eq_iff]
  intro text _
  rw [h.keywordSet_eq]

def packing : SelectionInput where
  relevantFiles := ["src/packer.py"]
  failingTests := ["tests/test_pack.py::test_pack"]
  errorLogs := []
  taskTitle := "Ship the release"
  taskKeywords := ["pack", "Ship"]
  repoTopPaths := ["docs"]

theorem select_rearranged_packing :
    selectReading {} asciiTables ["ship", "pack"]
        (withKeywords packing ["Ship", " ", "pack", "Ship"]) =
      selectReading {} asciiTables ["pack", "ship"] packing :=
  (select_rearranged {} asciiTables packing
    (((Rearranged.reordered (List.Perm.swap "Ship" "pack" [])).trans
      (.repeated ["Ship", "pack"] [] "Ship" (by decide))).trans
        (.padded ["Ship"] ["pack", "Ship"] " " (by decide)))
    ⟨by decide, by decide⟩ ⟨by decide, by decide⟩).1

/-- Each text that is searched mentions a keyword as it is given if and only if
it mentions one without the space around it. -/
def SearchedAlike (tables : UnicodeTables) (input : SelectionInput) : Prop :=
  ∀ text ∈ searchedTexts tables input,
    (∃ kw ∈ input.taskKeywords, ¬ IsBlank kw ∧ contains text (tables.lower (strip kw)) = true) ↔
      ∃ kw ∈ input.taskKeywords, ¬ IsBlank kw ∧ contains text (tables.lower kw) = true

theorem mentions_keywordSet_iff {tables : UnicodeTables} {input : SelectionInput}
    {text : String} :
    mentions (input.keywordSet tables) text ↔
      ∃ kw ∈ input.taskKeywords, ¬ IsBlank kw ∧ contains text (tables.lower kw) = true := by
  constructor
  · rintro ⟨kw, hkw, hfound⟩
    obtain ⟨k, hk, hblank, rfl⟩ := mem_keywordSet.mp hkw
    exact ⟨k, hk, hblank, hfound⟩
  · rintro ⟨k, hk, hblank, hfound⟩
    exact ⟨_, mem_keywordSet.mpr ⟨k, hk, hblank, rfl⟩, hfound⟩

theorem select_strip_eq_iff (policy : ContextSelectionPolicy) (tables : UnicodeTables)
    (input : SelectionInput) :
    policy.select tables (withKeywords input (input.taskKeywords.map strip)) =
        policy.select tables input ↔
      SearchedAlike tables input := by
  rw [select_withKeywords_eq_iff]
  refine forall₂_congr fun text _ => ?_
  rw [mentions_keywordSet_iff, mentions_keywordSet_iff]
  simp only [withKeywords, List.mem_map, exists_exists_and_eq_and, isBlank_strip]

def paddedKeyword : SelectionInput where
  relevantFiles := ["src/packer.py"]
  failingTests := []
  errorLogs := []
  taskKeywords := [" packer"]
  repoTopPaths := []

theorem paddedKeyword_not_stripped :
    ¬ ∀ (policy : ContextSelectionPolicy) (tables : UnicodeTables) (input : SelectionInput),
      policy.select tables (withKeywords input (input.taskKeywords.map strip)) =
        policy.select tables input := by
  intro h
  exact absurd (h {} asciiTables paddedKeyword) (by decide)

end Irrelevance

end NovaHarness.KeywordSets
