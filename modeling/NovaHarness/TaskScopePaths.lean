import NovaHarness.PosixPaths
import NovaHarness.TaskContractSchema

namespace NovaHarness.TaskScopePaths

open NovaHarness.Text
open NovaHarness.RecordValidation
open NovaHarness.TaskContractSchema
open NovaHarness.PosixPaths

section Entries

/-- What the loop lets through of an entry once it is stripped. -/
structure IsSubpath (entry : String) : Prop where
  ne_empty : entry ≠ ""
  strip_eq : strip entry = entry
  not_up : ¬ up <:+: entry.toList

/-- Such an entry does not start at the root either. -/
structure IsRelativeSubpath (entry : String) : Prop extends IsSubpath entry where
  relative : entry.toList.head? ≠ some separator

theorem isRelativeSubpath_strip {item : String} (hne : strip item ≠ "")
    (hrelative : ¬ ((strip item).toList.head? = some '/' ∨ contains (strip item) ".." = true)) :
    IsRelativeSubpath (strip item) := by
  rw [not_or, contains, decide_eq_true_eq] at hrelative
  exact ⟨⟨hne, strip_strip item, hrelative.2⟩, hrelative.1⟩

theorem filter_notMem_cons {seen : List String} {item : String} (xs : List String) :
    xs.filter (· ∉ item :: seen) = (xs.filter (· ∉ seen)).filter fun x => !x == item := by
  rw [List.filter_filter]
  refine List.filter_congr fun x _ => ?_
  rw [Bool.eq_iff_iff]
  simp

/-- The loop keeps the stripped entries that were not seen before it, each at
its first occurrence. -/
theorem validateSubpaths_eq_ok {seen items cleaned : List String}
    (h : TaskScope.validateSubpaths seen items = .ok cleaned) :
    cleaned = ((items.map strip).filter (· ∉ seen)).eraseDups ∧
      ∀ entry ∈ cleaned, IsRelativeSubpath entry := by
  induction items generalizing seen cleaned with
  | nil =>
      obtain rfl := Except.ok.inj h
      simp
  | cons item rest ih =>
      simp only [TaskScope.validateSubpaths] at h
      split at h
      · simp at h
      · rename_i hne
        split at h
        · simp at h
        · rename_i hrelative
          split at h
          · rename_i hseen
            obtain ⟨hcleaned, hentries⟩ := ih h
            refine ⟨?_, hentries⟩
            rw [hcleaned, List.map_cons, List.filter_cons_of_neg (by simpa using hseen)]
          · rename_i hnew
            rcases hrest : TaskScope.validateSubpaths (strip item :: seen) rest with msg | tail
            · simp [hrest, Except.map] at h
            · rw [hrest] at h
              obtain rfl := Except.ok.inj h
              obtain ⟨htail, hentries⟩ := ih hrest
              constructor
              · rw [htail, List.map_cons, List.filter_cons_of_pos (by simpa using hnew),
                  List.eraseDups_cons, filter_notMem_cons]
              · intro entry hentry
                rcases List.mem_cons.mp hentry with rfl | hentry
                · exact isRelativeSubpath_strip hne hrelative
                · exact hentries entry hentry

theorem nodup_eraseDups : (xs : List String) → xs.eraseDups.Nodup
  | [] => List.nodup_nil
  | x :: xs => by
      have hlength : (xs.filter fun y => !y == x).length < xs.length + 1 :=
        Nat.lt_succ_of_le (List.length_filter_le _ xs)
      rw [List.eraseDups_cons, List.nodup_cons]
      exact ⟨by simp [List.mem_eraseDups], nodup_eraseDups _⟩
termination_by xs => xs.length

end Entries

section Confinement

/-- What is stored of a list of entries: the stripped entries, each once, in the
order they first occur in. -/
structure StoredFrom (items stored : List String) : Prop where
  filled : ∀ entry ∈ stored, entry ≠ "" ∧ strip entry = entry
  nodup : stored.Nodup
  firsts : stored = (items.map strip).eraseDups

/-- The entry, joined to the repository, is the repository or lies below it. -/
def StaysInside (repoPath entry : String) : Prop :=
  let joined := normalize (repoPath ++ "/" ++ entry).toList
  joined = normalize repoPath.toList ∨ (normalize repoPath.toList).IsProperPrefix joined

theorem staysInside_of_isSubpath {repoPath entry : String} (hrepo : repoPath ≠ "")
    (hentry : IsSubpath entry) : StaysInside repoPath entry := by
  have hjoined : (repoPath ++ "/" ++ entry).toList =
      repoPath.toList ++ separator :: entry.toList := by
    rw [String.toList_append, String.toList_append, List.append_assoc]
    rfl
  have hne : repoPath.toList ≠ [] := fun h => hrepo (String.toList_eq_nil_iff.mp h)
  unfold StaysInside
  rw [hjoined]
  exact normalize_append_of_no_up hne hentry.not_up

theorem stored_of_subpathErrors_eq_nil {loc : String} {items : List String}
    (h : TaskScope.subpathErrors loc items = []) :
    StoredFrom items (TaskScope.cleanedPaths items) ∧
      ∀ entry ∈ TaskScope.cleanedPaths items, IsRelativeSubpath entry := by
  unfold TaskScope.subpathErrors at h
  unfold TaskScope.cleanedPaths
  cases hcleaned : TaskScope.validateSubpaths [] items with
  | error msg => simp [hcleaned] at h
  | ok cleaned =>
      obtain ⟨hfirsts, hentries⟩ := validateSubpaths_eq_ok hcleaned
      simp only [List.not_mem_nil, not_false_eq_true, decide_true, List.filter_true] at hfirsts
      refine ⟨⟨fun entry hentry => ?_, ?_, hfirsts⟩, hentries⟩
      · exact ⟨(hentries entry hentry).ne_empty, (hentries entry hentry).strip_eq⟩
      · change cleaned.Nodup
        rw [hfirsts]
        exact nodup_eraseDups _

/-- No entry of an accepted scope leaves the repository. -/
theorem scope_stays_inside (tables : UnicodeTables) (raw scope : TaskScope)
    (h : raw.validate tables = .ok scope) :
    (∀ entry ∈ scope.allowedPaths ++ scope.blockedPaths, StaysInside scope.repoPath entry) ∧
      StoredFrom raw.allowedPaths scope.allowedPaths ∧
      StoredFrom raw.blockedPaths scope.blockedPaths := by
  have hrepo := (TaskScope.not_isBlank_of_validate h).1
  obtain ⟨⟨-, hallowed, hblocked⟩, -, rfl⟩ := (TaskScope.validate_eq_ok tables raw scope).mp h
  obtain ⟨hstored, hinside⟩ := stored_of_subpathErrors_eq_nil hallowed
  obtain ⟨hstored', hinside'⟩ := stored_of_subpathErrors_eq_nil hblocked
  have hne : raw.normalized.repoPath ≠ "" := fun hempty => hrepo (by rw [hempty]; decide)
  refine ⟨fun entry hentry => staysInside_of_isSubpath hne ?_, hstored, hstored'⟩
  rcases List.mem_append.mp hentry with hentry | hentry
  · exact (hinside entry hentry).toIsSubpath
  · exact (hinside' entry hentry).toIsSubpath

def spacedScope : TaskScope where
  repoPath := " ../work/repo "
  allowedPaths := ["src", " src ", ".//docs/./a"]
  blockedPaths := ["."]

theorem scope_stays_inside_spacedScope :
    ∃ scope, spacedScope.validate asciiTables = .ok scope ∧
      scope.allowedPaths = ["src", ".//docs/./a"] ∧
      StaysInside "../work/repo" ".//docs/./a" := by
  refine ⟨⟨"../work/repo", ["src", ".//docs/./a"], ["."]⟩, by decide, rfl, ?_⟩
  exact (scope_stays_inside asciiTables spacedScope
    ⟨"../work/repo", ["src", ".//docs/./a"], ["."]⟩ (by decide)).1 _ (by decide)

end Confinement

section Spellings

/-- An entry of each list that are different texts for one place. -/
def Respelled (allowed blocked : String) : Prop :=
  strip allowed ≠ strip blocked ∧
    nameComponents (strip allowed).toList = nameComponents (strip blocked).toList

/-- No entry of the two lists, as they are stored, leads to the same place. -/
def PlacesApart (scope : TaskScope) : Prop :=
  ∀ a ∈ scope.allowedPaths, ∀ b ∈ scope.blockedPaths, normalize a.toList ≠ normalize b.toList

theorem StoredFrom.mem_iff {items stored : List String} (h : StoredFrom items stored)
    (entry : String) : entry ∈ stored ↔ ∃ item ∈ items, strip item = entry := by
  rw [h.firsts, List.mem_eraseDups, List.mem_map]

theorem normalize_eq_iff_of_isRelativeSubpath {a b : String} (ha : IsRelativeSubpath a)
    (hb : IsRelativeSubpath b) :
    normalize a.toList = normalize b.toList ↔
      nameComponents a.toList = nameComponents b.toList :=
  normalize_eq_iff ha.not_up hb.not_up ha.relative hb.relative

/-- The overlap test compares texts, so it keeps the two lists apart exactly
when no place is written in two ways. -/
theorem placesApart_iff (tables : UnicodeTables) (raw scope : TaskScope)
    (h : raw.validate tables = .ok scope) :
    PlacesApart scope ↔
      ∀ a ∈ raw.allowedPaths, ∀ b ∈ raw.blockedPaths, ¬ Respelled a b := by
  obtain ⟨⟨-, hallowed, hblocked⟩, hoverlap, rfl⟩ := (TaskScope.validate_eq_ok tables raw scope).mp h
  obtain ⟨hstored, hentry⟩ := stored_of_subpathErrors_eq_nil hallowed
  obtain ⟨hstored', hentry'⟩ := stored_of_subpathErrors_eq_nil hblocked
  constructor
  · rintro hapart a ha b hb ⟨-, hnames⟩
    have hmem := (hstored.mem_iff _).mpr ⟨a, ha, rfl⟩
    have hmem' := (hstored'.mem_iff _).mpr ⟨b, hb, rfl⟩
    exact hapart _ hmem _ hmem'
      ((normalize_eq_iff_of_isRelativeSubpath (hentry _ hmem) (hentry' _ hmem')).mpr hnames)
  · intro hspelled entry hmem entry' hmem' hsame
    have hnames := (normalize_eq_iff_of_isRelativeSubpath (hentry _ hmem) (hentry' _ hmem')).mp hsame
    obtain ⟨a, ha, rfl⟩ := (hstored.mem_iff entry).mp hmem
    obtain ⟨b, hb, rfl⟩ := (hstored'.mem_iff entry').mp hmem'
    -- one text on both sides would be in the overlap
    have hne : strip a ≠ strip b := by
      intro heq
      refine List.eq_nil_iff_forall_not_mem.mp hoverlap (strip a) ?_
      exact List.mem_filter.mpr ⟨hmem, by simpa [heq] using hmem'⟩
    exact hspelled a ha b hb ⟨hne, hnames⟩

/-- The directory is allowed under one spelling and blocked under another. -/
def respelledScope : TaskScope where
  repoPath := "/work/repo"
  allowedPaths := ["src"]
  blockedPaths := ["src/"]

theorem respelledScope_same_place :
    respelledScope.validate asciiTables = .ok respelledScope ∧ ¬ PlacesApart respelledScope := by
  refine ⟨by decide, fun h => h "src" (by decide) "src/" (by decide) ?_⟩
  exact (normalize_eq_iff (by decide) (by decide) (by decide) (by decide)).mpr (by decide)

theorem placesApart_spacedScope :
    PlacesApart ⟨"../work/repo", ["src", ".//docs/./a"], ["."]⟩ :=
  (placesApart_iff asciiTables spacedScope ⟨"../work/repo", ["src", ".//docs/./a"], ["."]⟩
    (by decide)).mpr (by unfold Respelled; decide)

end Spellings

end NovaHarness.TaskScopePaths
