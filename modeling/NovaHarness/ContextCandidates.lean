import Mathlib.Data.Finset.Dedup
import NovaHarness.Text

namespace NovaHarness.ContextCandidates

open NovaHarness.Text

def EXCLUDED_DIRS : List String :=
  ["node_modules", "__pycache__", ".git", ".venv", "venv", "dist", "build", ".next", ".nox",
    ".tox", ".eggs", "site-packages", ".pytest_cache", "coverage", ".coverage"]

def EXCLUDED_FILES : List String :=
  ["package-lock.json", "yarn.lock", "pnpm-lock.yaml", "poetry.lock", "Gemfile.lock"]

def EXCLUDED_EXTENSIONS : List String :=
  [".pyc", ".pyo", ".so", ".dll", ".dylib", ".png", ".jpg", ".jpeg", ".gif", ".ico", ".svg",
    ".ttf", ".woff", ".woff2", ".eot", ".zip", ".tar", ".gz", ".bz2"]

def pathParts (path : String) : List String :=
  splitOn (replaceChar path '\\' '/') "/"

def isExcluded (path : String) : Bool :=
  (pathParts path).any (EXCLUDED_DIRS.contains ·) ||
    (pathParts path).any (EXCLUDED_FILES.contains ·) ||
    EXCLUDED_EXTENSIONS.any (endsWith path ·)

structure CandidateFile where
  path : String
  reason : String
  deriving DecidableEq, Repr

structure CandidateFailure where
  testName : String
  filePath : Option String
  reason : String
  deriving DecidableEq, Repr

structure CandidateDoc where
  title : String
  source : String
  reason : String
  deriving DecidableEq, Repr

section Gathering

/-- The loop that both lists of paths go through. -/
def gatherPaths (reason : String) (seen : List String) : List String → List CandidateFile
  | [] => []
  | path :: paths =>
      if path ∈ seen then gatherPaths reason seen paths
      else if isExcluded path then gatherPaths reason seen paths
      else { path, reason } :: gatherPaths reason (path :: seen) paths

def gatherFileCandidates (relevantFiles repoTopPaths : List String) : List CandidateFile :=
  let referenced := gatherPaths "explicitly referenced in task inputs" [] relevantFiles
  -- `seen` holds the paths of the candidates so far when the second loop starts
  referenced ++ gatherPaths "top-level repo entry" (referenced.map (·.path)) repoTopPaths

def failingTest (testRef : String) : CandidateFailure :=
  let parts := splitOn testRef "::"
  { testName := testRef
    filePath := if 1 < parts.length then parts.head? else none
    reason := "failing test explicitly listed in task inputs" }

def isRuntimeError (log : String) : Bool :=
  contains log "Traceback" || contains log "Error" || contains log "Exception"

def runtimeError : CandidateFailure where
  testName := "runtime error"
  filePath := none
  reason := "error log with traceback or exception"

def gatherErrorLogs (seen : List String) : List String → List CandidateFailure
  | [] => []
  | log :: logs =>
      if log ∈ seen then gatherErrorLogs seen logs
      else if isRuntimeError log then runtimeError :: gatherErrorLogs (log :: seen) logs
      else gatherErrorLogs (log :: seen) logs

def gatherFailureCandidates (failingTests errorLogs : List String) : List CandidateFailure :=
  failingTests.map failingTest ++ gatherErrorLogs [] errorLogs

/-- The loop over the keywords only ever fills `seen`. -/
def gatherDocs (tables : UnicodeTables) (seen : List String) (candidates : List CandidateDoc) :
    List String → List CandidateDoc
  | [] => candidates
  | kw :: kws =>
      let kwLower := strip (tables.lower kw)
      if kwLower = "" ∨ kwLower ∈ seen then gatherDocs tables seen candidates kws
      else gatherDocs tables (kwLower :: seen) candidates kws

def gatherDocCandidates (tables : UnicodeTables) (taskKeywords : List String) :
    List CandidateDoc :=
  gatherDocs tables [] [] taskKeywords

end Gathering

section Scoring

variable (tables : UnicodeTables) (keywords : Finset String)

/-- A loop over the keyword set that ends at the first keyword found in `text`
does so for some keyword in whatever order the set is read. -/
def mentions (text : String) : Prop :=
  ∃ kw ∈ keywords, contains text kw = true

instance (text : String) : Decidable (mentions keywords text) :=
  inferInstanceAs (Decidable (∃ kw ∈ keywords, contains text kw = true))

def points (n : Int) (ok : Prop) [Decidable ok] : Int :=
  if ok then n else 0

def scoreFile (candidate : CandidateFile) (relevantFiles : Finset String) (taskTitle : String) :
    Int :=
  let pathLower := tables.lower candidate.path
  points 100 (candidate.path ∈ relevantFiles) +
    points 40 (["test"].any (contains pathLower ·)) +
    points 15 (["src", "lib", "app"].any (contains pathLower ·)) +
    points 10 (mentions keywords pathLower) +
    points 5 (mentions keywords (tables.lower taskTitle))

def scoreFailure (candidate : CandidateFailure) (relevantFiles : Finset String) : Int :=
  match nonEmpty candidate.filePath with
  | none => 0
  | some filePath =>
      points 90 (filePath ∈ relevantFiles) +
        points 20 (mentions keywords (tables.lower filePath))

def scoreDoc (candidate : CandidateDoc) : Int :=
  points 30 (mentions keywords (tables.lower candidate.title)) +
    points 15 (mentions keywords (tables.lower candidate.source))

def scoreFileImportProximity (candidate : CandidateFile) (directlyImportedBy : Finset String) :
    Int :=
  points 40 (candidate.path ∈ directlyImportedBy)

def scoreFileSameDirectory (candidate : CandidateFile) (selectedDir : String) : Int :=
  points 20 (String.intercalate "/" (pathParts candidate.path).dropLast = selectedDir)

end Scoring

section Repeats

/-- What the loop over a list of paths has looked at before it keeps one. -/
structure Gathered (reason : String) (seen paths : List String) (c : CandidateFile) : Prop where
  listed : c.path ∈ paths
  fresh : c.path ∉ seen
  kept : isExcluded c.path = false
  reason_eq : c.reason = reason

theorem gathered_of_mem {reason : String} {seen paths : List String} {c : CandidateFile}
    (h : c ∈ gatherPaths reason seen paths) : Gathered reason seen paths c := by
  induction paths generalizing seen with
  | nil => simp [gatherPaths] at h
  | cons path paths ih =>
      simp only [gatherPaths] at h
      split at h
      · obtain ⟨hlisted, hfresh, hkept, hreason⟩ := ih h
        exact ⟨List.mem_cons_of_mem _ hlisted, hfresh, hkept, hreason⟩
      · rename_i hseen
        split at h
        · obtain ⟨hlisted, hfresh, hkept, hreason⟩ := ih h
          exact ⟨List.mem_cons_of_mem _ hlisted, hfresh, hkept, hreason⟩
        · rename_i hexcluded
          rcases List.mem_cons.mp h with rfl | h
          · exact ⟨List.mem_cons_self, hseen, by simpa using hexcluded, rfl⟩
          · obtain ⟨hlisted, hfresh, hkept, hreason⟩ := ih h
            exact ⟨List.mem_cons_of_mem _ hlisted,
              fun hmem => hfresh (List.mem_cons_of_mem _ hmem), hkept, hreason⟩

theorem nodup_gatherPaths (reason : String) (seen paths : List String) :
    ((gatherPaths reason seen paths).map (·.path)).Nodup := by
  induction paths generalizing seen with
  | nil => simp [gatherPaths]
  | cons path paths ih =>
      simp only [gatherPaths]
      split
      · exact ih seen
      · split
        · exact ih seen
        · rw [List.map_cons, List.nodup_cons]
          refine ⟨fun hmem => ?_, ih (path :: seen)⟩
          obtain ⟨c, hc, hpath⟩ := List.mem_map.mp hmem
          exact (gathered_of_mem hc).fresh (by simp [hpath])

/-- No path is gathered twice, whatever the two lists repeat. -/
theorem nodup_gatherFileCandidates (relevantFiles repoTopPaths : List String) :
    ((gatherFileCandidates relevantFiles repoTopPaths).map (·.path)).Nodup := by
  simp only [gatherFileCandidates, List.map_append]
  refine List.Nodup.append (nodup_gatherPaths _ _ _) (nodup_gatherPaths _ _ _) ?_
  intro p hfirst hsecond
  obtain ⟨c, hc, rfl⟩ := List.mem_map.mp hsecond
  exact (gathered_of_mem hc).fresh hfirst

theorem gatherDocs_eq (tables : UnicodeTables) (seen : List String)
    (candidates : List CandidateDoc) (kws : List String) :
    gatherDocs tables seen candidates kws = candidates := by
  induction kws generalizing seen with
  | nil => rfl
  | cons kw kws ih =>
      simp only [gatherDocs]
      split
      · exact ih seen
      · exact ih _

/-- No keyword ever becomes a document candidate. -/
theorem gatherDocCandidates_eq_nil (tables : UnicodeTables) (taskKeywords : List String) :
    gatherDocCandidates tables taskKeywords = [] :=
  gatherDocs_eq tables [] [] taskKeywords

theorem mem_gatherErrorLogs {seen logs : List String} {c : CandidateFailure}
    (h : c ∈ gatherErrorLogs seen logs) : c = runtimeError := by
  induction logs generalizing seen with
  | nil => simp [gatherErrorLogs] at h
  | cons log logs ih =>
      simp only [gatherErrorLogs] at h
      split at h
      · exact ih h
      · split at h
        · rcases List.mem_cons.mp h with rfl | h
          · rfl
          · exact ih h
        · exact ih h

/-- An error log leaves a candidate exactly when it is marked and new. -/
theorem gatherErrorLogs_eq_nil (seen logs : List String) :
    gatherErrorLogs seen logs = [] ↔
      ∀ log ∈ logs, isRuntimeError log = true → log ∈ seen := by
  induction logs generalizing seen with
  | nil => simp [gatherErrorLogs]
  | cons log logs ih =>
      simp only [gatherErrorLogs, List.forall_mem_cons]
      split
      · rename_i hseen
        rw [ih]
        simp [hseen]
      · rename_i hseen
        split
        · rename_i hmark
          simp [hseen, hmark]
        · rename_i hmark
          rw [ih]
          refine ⟨fun h => ⟨fun hmark' => absurd hmark' hmark, fun l hl hml => ?_⟩, ?_⟩
          · rcases List.mem_cons.mp (h l hl hml) with rfl | hmem
            · exact absurd hml hmark
            · exact hmem
          · exact fun h l hl hml => List.mem_cons_of_mem _ (h.2 l hl hml)

theorem nodup_cons_gatherErrorLogs (seen logs : List String) :
    (runtimeError :: gatherErrorLogs seen logs).Nodup ↔ gatherErrorLogs seen logs = [] := by
  rw [List.nodup_cons]
  constructor
  · rintro ⟨hfresh, -⟩
    refine List.eq_nil_iff_forall_not_mem.mpr fun c hc => hfresh ?_
    rwa [mem_gatherErrorLogs hc] at hc
  · intro hnil
    simp [hnil]

/-- All marked logs become one and the same candidate, so two different ones
repeat it. -/
theorem nodup_gatherErrorLogs (seen logs : List String) :
    (gatherErrorLogs seen logs).Nodup ↔
      ∀ a ∈ logs, ∀ b ∈ logs, isRuntimeError a = true → isRuntimeError b = true →
        a ∉ seen → b ∉ seen → a = b := by
  induction logs generalizing seen with
  | nil => simp [gatherErrorLogs]
  | cons log logs ih =>
      simp only [gatherErrorLogs]
      split
      · rename_i hseen
        rw [ih]
        constructor
        · intro h a ha b hb hma hmb hsa hsb
          refine h a ?_ b ?_ hma hmb hsa hsb
          · exact (List.mem_cons.mp ha).resolve_left fun h => hsa (h ▸ hseen)
          · exact (List.mem_cons.mp hb).resolve_left fun h => hsb (h ▸ hseen)
        · exact fun h a ha b hb =>
            h a (List.mem_cons_of_mem _ ha) b (List.mem_cons_of_mem _ hb)
      · rename_i hseen
        split
        · rename_i hmark
          rw [nodup_cons_gatherErrorLogs, gatherErrorLogs_eq_nil]
          constructor
          · intro h
            have hlog : ∀ a ∈ log :: logs, isRuntimeError a = true → a ∉ seen → a = log := by
              intro a ha hma hsa
              rcases List.mem_cons.mp ha with rfl | ha
              · rfl
              · exact (List.mem_cons.mp (h a ha hma)).resolve_right hsa
            intro a ha b hb hma hmb hsa hsb
            rw [hlog a ha hma hsa, hlog b hb hmb hsb]
          · intro h a ha hma
            by_cases hsa : a ∈ seen
            · exact List.mem_cons_of_mem _ hsa
            · rw [h a (List.mem_cons_of_mem _ ha) log (by simp) hma hmark hsa hseen]
              exact List.mem_cons_self
        · rename_i hmark
          rw [ih]
          have hne : ∀ a, isRuntimeError a = true → a ≠ log :=
            fun a hma heq => hmark (heq ▸ hma)
          constructor
          · intro h a ha b hb hma hmb hsa hsb
            refine h a ?_ b ?_ hma hmb ?_ ?_
            · exact (List.mem_cons.mp ha).resolve_left (hne a hma)
            · exact (List.mem_cons.mp hb).resolve_left (hne b hmb)
            · simp [hne a hma, hsa]
            · simp [hne b hmb, hsb]
          · intro h a ha b hb hma hmb hsa hsb
            refine h a (List.mem_cons_of_mem _ ha) b (List.mem_cons_of_mem _ hb) hma hmb ?_ ?_
            · exact fun hmem => hsa (List.mem_cons_of_mem _ hmem)
            · exact fun hmem => hsb (List.mem_cons_of_mem _ hmem)

/-- The names failures are reported under are distinct exactly when no failing
test is listed twice, at most one marked log is given, however often, and no
test goes by the name the marked log gets. -/
theorem nodup_gatherFailureCandidates (failingTests errorLogs : List String) :
    ((gatherFailureCandidates failingTests errorLogs).map (·.testName)).Nodup ↔
      failingTests.Nodup ∧
        (∀ a ∈ errorLogs, ∀ b ∈ errorLogs,
          isRuntimeError a = true → isRuntimeError b = true → a = b) ∧
        ((∃ log ∈ errorLogs, isRuntimeError log = true) → "runtime error" ∉ failingTests) := by
  have hnames : (failingTests.map failingTest).map (·.testName) = failingTests := by
    simp [Function.comp_def, failingTest]
  have hlogs : gatherErrorLogs [] errorLogs =
      List.replicate (gatherErrorLogs [] errorLogs).length runtimeError :=
    List.eq_replicate_of_mem fun c => mem_gatherErrorLogs
  have hlogNames : ((gatherErrorLogs [] errorLogs).map (·.testName)).Nodup ↔
      (gatherErrorLogs [] errorLogs).Nodup := by
    rw [hlogs, List.map_replicate, List.nodup_replicate, List.nodup_replicate]
  have hmarked : (∃ log ∈ errorLogs, isRuntimeError log = true) ↔
      "runtime error" ∈ (gatherErrorLogs [] errorLogs).map (·.testName) := by
    rw [hlogs, List.map_replicate, List.mem_replicate, ne_eq, List.length_eq_zero_iff,
      gatherErrorLogs_eq_nil]
    simp [runtimeError]
  rw [gatherFailureCandidates, List.map_append, hnames, List.nodup_append, hlogNames,
    nodup_gatherErrorLogs, hmarked]
  simp only [List.not_mem_nil, not_false_eq_true, forall_const]
  refine and_congr_right fun _ => and_congr_right fun _ => ?_
  constructor
  · exact fun h hmem htest => h _ htest _ hmem rfl
  · intro h name htest name' hname' heq
    rw [hlogs, List.map_replicate, List.mem_replicate] at hname'
    obtain rfl : name' = "runtime error" := hname'.2
    refine h ?_ (heq ▸ htest)
    rw [hlogs, List.map_replicate, List.mem_replicate]
    exact ⟨hname'.1, rfl⟩

end Repeats

end NovaHarness.ContextCandidates
