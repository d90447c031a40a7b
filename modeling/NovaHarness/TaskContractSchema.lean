import Mathlib.Data.List.Sort
import NovaHarness.RecordValidation

namespace NovaHarness.TaskContractSchema

open NovaHarness.Text
open NovaHarness.RecordValidation

inductive TaskType where
  | bugFix
  | feature
  | refactor
  | testOnly
  deriving DecidableEq, Repr

inductive ToolName where
  | readFile
  | searchCode
  | editFile
  | runTests
  | runLint
  | runTypecheck
  | gitDiff
  deriving DecidableEq, Repr

inductive ApprovalTrigger where
  | dependencyChange
  | deleteFile
  | touchBlockedPath
  | largeDiff
  deriving DecidableEq, Repr

inductive VerificationKind where
  | test
  | lint
  | typecheck
  | diffReview
  deriving DecidableEq, Repr

def VerificationKind.value : VerificationKind → String
  | .test => "test"
  | .lint => "lint"
  | .typecheck => "typecheck"
  | .diffReview => "diff_review"

structure TaskScope where
  repoPath : String
  allowedPaths : List String := []
  blockedPaths : List String := []
  deriving DecidableEq, Repr

namespace TaskScope

/-- The loop of `validate_subpaths`, with the set of entries already seen. -/
def validateSubpaths (seen : List String) : List String → Except String (List String)
  | [] => .ok []
  | item :: rest =>
      let item := strip item
      if item = "" then .error "path entries must not be empty"
      else if item.toList.head? = some '/' ∨ contains item ".." then
        .error ("invalid relative path: " ++ item)
      else if item ∈ seen then validateSubpaths seen rest
      else (validateSubpaths (item :: seen) rest).map (item :: ·)

theorem not_isBlank_of_validateSubpaths {seen items cleaned : List String}
    (h : validateSubpaths seen items = .ok cleaned) : ∀ p ∈ cleaned, ¬ IsBlank p := by
  induction items generalizing seen cleaned with
  | nil =>
      obtain rfl := Except.ok.inj h
      simp
  | cons item rest ih =>
      simp only [validateSubpaths] at h
      split at h
      · simp at h
      · rename_i hne
        split at h
        · simp at h
        · split at h
          · exact ih h
          · rcases hrest : validateSubpaths (strip item :: seen) rest with msg | tail
            · simp [hrest, Except.map] at h
            · rw [hrest] at h
              obtain rfl := Except.ok.inj h
              intro p hp
              rcases List.mem_cons.mp hp with rfl | hp
              · rwa [isBlank_strip, IsBlank]
              · exact ih hrest p hp

/-- The field validator of both path lists: complaints and cleaned value. -/
def subpathErrors (loc : String) (items : List String) : List FieldError :=
  match validateSubpaths [] items with
  | .ok _ => []
  | .error msg => [⟨loc, msg⟩]

def cleanedPaths (items : List String) : List String :=
  (validateSubpaths [] items).toOption.getD []

theorem not_isBlank_of_mem_cleanedPaths {items : List String} :
    ∀ p ∈ cleanedPaths items, ¬ IsBlank p := by
  unfold cleanedPaths
  rcases h : validateSubpaths [] items with msg | cleaned
  · simp [Except.toOption]
  · exact not_isBlank_of_validateSubpaths h

/-- `set(self.allowed_paths) & set(self.blocked_paths)`. -/
def overlap (scope : TaskScope) : List String :=
  scope.allowedPaths.filter (· ∈ scope.blockedPaths)

def normalized (raw : TaskScope) : TaskScope where
  repoPath := strip raw.repoPath
  allowedPaths := cleanedPaths raw.allowedPaths
  blockedPaths := cleanedPaths raw.blockedPaths

def validate (tables : UnicodeTables) (raw : TaskScope) : Validated TaskScope := do
  let scope ← fields
    (nonBlank "repo_path" "repo_path must not be empty" raw.repoPath ++
      subpathErrors "allowed_paths" raw.allowedPaths ++
      subpathErrors "blocked_paths" raw.blockedPaths)
    raw.normalized
  require (scope.overlap = [])
    ("allowed_paths and blocked_paths overlap: " ++
      listStr tables (scope.overlap.dedup.insertionSort (· ≤ ·)))
  return scope

theorem validate_eq_ok (tables : UnicodeTables) (raw scope : TaskScope) :
    raw.validate tables = .ok scope ↔
      (¬ IsBlank raw.repoPath ∧ subpathErrors "allowed_paths" raw.allowedPaths = [] ∧
        subpathErrors "blocked_paths" raw.blockedPaths = []) ∧
      scope.overlap = [] ∧ raw.normalized = scope := by
  simp only [validate, bind_eq_ok, fields_eq_ok, pure_eq_ok, List.append_eq_nil_iff,
    nonBlank_eq_nil, require_eq_ok]
  constructor
  · rintro ⟨_, ⟨⟨⟨hrepo, hallowed⟩, hblocked⟩, rfl⟩, _, hoverlap, rfl⟩
    exact ⟨⟨hrepo, hallowed, hblocked⟩, hoverlap, rfl⟩
  · rintro ⟨⟨hrepo, hallowed, hblocked⟩, hoverlap, rfl⟩
    exact ⟨_, ⟨⟨⟨hrepo, hallowed⟩, hblocked⟩, rfl⟩, (), hoverlap, rfl⟩

theorem not_isBlank_of_validate {tables : UnicodeTables} {raw scope : TaskScope}
    (h : raw.validate tables = .ok scope) :
    ¬ IsBlank scope.repoPath ∧ ∀ p ∈ scope.allowedPaths, ¬ IsBlank p := by
  obtain ⟨⟨hrepo, -⟩, -, rfl⟩ := (validate_eq_ok tables raw scope).mp h
  exact ⟨by rwa [normalized, isBlank_strip], not_isBlank_of_mem_cleanedPaths⟩

end TaskScope

structure TaskInputs where
  userRequest : String
  relevantFiles : List String := []
  failingTests : List String := []
  errorLogs : List String := []
  deriving DecidableEq, Repr

structure TaskConstraints where
  maxFilesChanged : Int := 5
  maxRetries : Int := 2
  allowNetwork : Bool := false
  allowDependencyChanges : Bool := false
  deriving DecidableEq, Repr

def TaskConstraints.validate (raw : TaskConstraints) : Validated TaskConstraints :=
  fields
    (check "max_files_changed" "max_files_changed must be between 1 and 50"
        (1 ≤ raw.maxFilesChanged ∧ raw.maxFilesChanged ≤ 50) ++
      check "max_retries" "max_retries must be between 0 and 5"
        (0 ≤ raw.maxRetries ∧ raw.maxRetries ≤ 5))
    raw

structure SuccessCriterion where
  kind : VerificationKind
  target : String
  deriving DecidableEq, Repr

structure OutputRequirements where
  includeSummary : Bool := true
  includeChangedFiles : Bool := true
  includeVerificationReceipts : Bool := true
  deriving DecidableEq, Repr

structure TaskContract where
  taskId : String
  title : String
  taskType : TaskType
  goal : String
  scope : TaskScope
  inputs : TaskInputs
  constraints : TaskConstraints
  toolsAllowed : List ToolName
  successCriteria : List SuccessCriterion
  approvalGates : List ApprovalTrigger := []
  outputRequirements : OutputRequirements := {}
  deriving DecidableEq, Repr

namespace TaskContract

def normalized (tables : UnicodeTables) (raw : TaskContract) : TaskContract :=
  { raw with
    title := strip raw.title
    goal := strip raw.goal
    scope := valueD (raw.scope.validate tables) raw.scope
    constraints := valueD raw.constraints.validate raw.constraints }

def validate (tables : UnicodeTables) (raw : TaskContract) : Validated TaskContract := do
  let contract ← fields
    (nonBlank "title" "must not be blank" raw.title ++
      nonBlank "goal" "must not be blank" raw.goal ++
      errorsUnder "scope" (raw.scope.validate tables) ++
      errorsUnder "constraints" raw.constraints.validate ++
      check "tools_allowed" "tools_allowed must not be empty" (raw.toolsAllowed ≠ []) ++
      check "success_criteria" "success_criteria must not be empty" (raw.successCriteria ≠ []))
    (raw.normalized tables)
  require
    (ToolName.runTests ∈ contract.toolsAllowed → ∃ c ∈ contract.successCriteria, c.kind = .test)
    "RUN_TESTS requires at least one TEST success criterion"
  require
    (contract.constraints.allowDependencyChanges = false →
      ApprovalTrigger.dependencyChange ∈ contract.approvalGates)
    "DEPENDENCY_CHANGE approval gate required when allow_dependency_changes=False"
  return contract

instance : Schema TaskContract := ⟨validate⟩

theorem validate_eq_ok (tables : UnicodeTables) (raw contract : TaskContract) :
    raw.validate tables = .ok contract ↔
      (¬ IsBlank raw.title ∧ ¬ IsBlank raw.goal ∧
        (∃ scope, raw.scope.validate tables = .ok scope) ∧
        (∃ constraints, raw.constraints.validate = .ok constraints) ∧
        raw.toolsAllowed ≠ [] ∧ raw.successCriteria ≠ []) ∧
      (ToolName.runTests ∈ contract.toolsAllowed →
        ∃ c ∈ contract.successCriteria, c.kind = .test) ∧
      (contract.constraints.allowDependencyChanges = false →
        ApprovalTrigger.dependencyChange ∈ contract.approvalGates) ∧
      raw.normalized tables = contract := by
  simp only [validate, bind_eq_ok, fields_eq_ok, pure_eq_ok, List.append_eq_nil_iff,
    nonBlank_eq_nil, errorsUnder_eq_nil, check_eq_nil, require_eq_ok]
  constructor
  · rintro ⟨_, ⟨⟨⟨⟨⟨⟨ht, hg⟩, hs⟩, hc⟩, htools⟩, hcriteria⟩, rfl⟩, _, htests, _, hgate, rfl⟩
    exact ⟨⟨ht, hg, hs, hc, htools, hcriteria⟩, htests, hgate, rfl⟩
  · rintro ⟨⟨ht, hg, hs, hc, htools, hcriteria⟩, htests, hgate, rfl⟩
    exact ⟨_, ⟨⟨⟨⟨⟨⟨ht, hg⟩, hs⟩, hc⟩, htools⟩, hcriteria⟩, rfl⟩, (), htests, (), hgate, rfl⟩

/-- What the rest of the harness gets to rely on. -/
structure WellFormed (contract : TaskContract) : Prop where
  goal : ¬ IsBlank contract.goal
  repoPath : ¬ IsBlank contract.scope.repoPath
  allowedPaths : ∀ p ∈ contract.scope.allowedPaths, ¬ IsBlank p
  successCriteria : contract.successCriteria ≠ []

theorem wellFormed (contract : Accepted TaskContract) : contract.1.WellFormed := by
  obtain ⟨tables, raw, h⟩ := contract.2
  obtain ⟨⟨-, hgoal, ⟨scope, hscope⟩, -, -, hcriteria⟩, -, -, hnormal⟩ :=
    (validate_eq_ok tables raw contract.1).mp h
  obtain ⟨hrepo, hallowed⟩ := TaskScope.not_isBlank_of_validate hscope
  rw [← hnormal]
  refine ⟨?_, ?_, ?_, hcriteria⟩
  · change ¬ IsBlank (strip raw.goal)
    rwa [isBlank_strip]
  · simpa [normalized, hscope] using hrepo
  · simpa [normalized, hscope] using hallowed

end TaskContract

def minimalContract : Accepted TaskContract :=
  build
    { taskId := "test-task"
      title := "Test task"
      taskType := .feature
      goal := "Write a Python function."
      scope := { repoPath := "/workspace", allowedPaths := ["solution.py"] }
      inputs :=
        { userRequest := "Write add(a,b) function."
          relevantFiles := ["solution.py"] }
      constraints := { maxFilesChanged := 1, maxRetries := 1, allowDependencyChanges := true }
      toolsAllowed := [.editFile]
      successCriteria := [{ kind := .test, target := "pytest" }] }
    (by decide)

end NovaHarness.TaskContractSchema
