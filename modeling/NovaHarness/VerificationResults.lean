import NovaHarness.RecordValidation

namespace NovaHarness.VerificationResults

open NovaHarness.Text
open NovaHarness.RecordValidation

section Records

inductive CheckStatus where
  | pending
  | running
  | passed
  | failed
  | skipped
  deriving DecidableEq, Repr

inductive EvidenceType where
  | log
  | report
  | file
  | metric
  deriving DecidableEq, Repr

inductive VerdictStatus where
  | pass
  | fail
  | partially
  | blocked
  deriving DecidableEq, Repr

structure VerificationEvidence where
  evidenceId : String
  evidenceType : EvidenceType
  metricName : Option String := none
  metricValue : Option ℚ := none
  deriving DecidableEq, Repr

def VerificationEvidence.metricEvidenceHasNameAndValue (evidence : VerificationEvidence) :
    Validated Unit :=
  whenever (evidence.evidenceType = .metric) do
    requireText evidence.metricName "metric_name is required for METRIC evidence"
    require (evidence.metricValue ≠ none) "metric_value is required for METRIC evidence"

def VerificationEvidence.validate (raw : VerificationEvidence) :
    Validated VerificationEvidence :=
  twoLayers
    (nonBlank "evidence_id" "evidence_id must not be empty" raw.evidenceId)
    { raw with evidenceId := strip raw.evidenceId }
    VerificationEvidence.metricEvidenceHasNameAndValue

structure VerificationCheck where
  checkId : String
  name : String
  blocking : Bool := true
  command : Option String := none
  acceptanceRule : Option String := none
  status : CheckStatus := .pending
  evidence : List VerificationEvidence := []
  failureReason : Option String := none
  deriving DecidableEq, Repr

namespace VerificationCheck

def rules (c : VerificationCheck) : Validated Unit := do
  require (¬ (nonEmpty c.command = none ∧ nonEmpty c.acceptanceRule = none))
    "each check must have either command or acceptance_rule"
  whenever (c.status = .failed)
    (requireText c.failureReason "failure_reason is required when status is FAILED")

def validate (raw : VerificationCheck) : Validated VerificationCheck :=
  twoLayers
    (nonBlank "check_id" "must not be empty" raw.checkId ++
      nonBlank "name" "must not be empty" raw.name ++
      listErrors "evidence" VerificationEvidence.validate raw.evidence)
    { raw with
      checkId := strip raw.checkId
      name := strip raw.name
      evidence := listValues VerificationEvidence.validate raw.evidence }
    rules

end VerificationCheck

structure VerificationPlan where
  planId : String
  taskId : String
  checks : List VerificationCheck := []
  deriving DecidableEq, Repr

namespace VerificationPlan

def atLeastOneCheck (plan : VerificationPlan) : Validated Unit :=
  require (plan.checks ≠ []) "verification plan must contain at least one check"

def validate (raw : VerificationPlan) : Validated VerificationPlan :=
  twoLayers
    (nonBlank "plan_id" "plan_id must not be empty" raw.planId ++
      nonBlank "task_id" "task_id must not be empty" raw.taskId ++
      listErrors "checks" VerificationCheck.validate raw.checks)
    { planId := strip raw.planId
      taskId := strip raw.taskId
      checks := listValues VerificationCheck.validate raw.checks }
    atLeastOneCheck

end VerificationPlan

structure VerificationVerdict where
  status : VerdictStatus
  blockingFailures : List String := []
  deriving DecidableEq, Repr

def VerificationVerdict.blockingFailuresAffectVerdict (verdict : VerificationVerdict) :
    Validated Unit :=
  require (¬ (verdict.blockingFailures ≠ [] ∧ verdict.status = .pass))
    "verdict cannot be PASS when blocking failures exist"

def VerificationVerdict.validate (raw : VerificationVerdict) : Validated VerificationVerdict :=
  twoLayers [] raw VerificationVerdict.blockingFailuresAffectVerdict

structure VerificationResult where
  planId : String
  runId : String
  checks : List VerificationCheck := []
  verdict : VerificationVerdict
  finishedAt : Option String := none
  deriving DecidableEq, Repr

namespace VerificationResult

def finishedAtWhenTerminal (result : VerificationResult) : Validated Unit :=
  whenever (result.verdict.status ∈ [VerdictStatus.pass, .fail])
    (requireText result.finishedAt "finished_at is required when verdict is PASS or FAIL")

def validate (raw : VerificationResult) : Validated VerificationResult :=
  twoLayers
    (nonBlank "plan_id" "plan_id must not be empty" raw.planId ++
      nonBlank "run_id" "run_id must not be empty" raw.runId ++
      listErrors "checks" VerificationCheck.validate raw.checks ++
      errorsUnder "verdict" raw.verdict.validate)
    { raw with
      planId := strip raw.planId
      runId := strip raw.runId
      checks := listValues VerificationCheck.validate raw.checks
      verdict := valueD raw.verdict.validate raw.verdict }
    finishedAtWhenTerminal

instance : Schema VerificationResult := ⟨fun _ => validate⟩

end VerificationResult

end Records

section Accounts

/-- The checks that the verdict depends on and that did not pass. -/
def failedBlocking (result : VerificationResult) : List VerificationCheck :=
  result.checks.filter fun c => c.blocking = true ∧ c.status = .failed

/-- A result that passes has no such check. -/
def PassesWithoutFailure (result : VerificationResult) : Prop :=
  result.verdict.status = .pass → failedBlocking result = []

/-- The verdict leaves out none of them. -/
def NamesFailures (result : VerificationResult) : Prop :=
  ∀ c ∈ failedBlocking result, c.checkId ∈ result.verdict.blockingFailures

theorem blockingFailures_of_pass (result : Accepted VerificationResult)
    (hpass : result.1.verdict.status = .pass) : result.1.verdict.blockingFailures = [] := by
  obtain ⟨_, raw, h⟩ := result.2
  change raw.validate = .ok result.1 at h
  obtain ⟨⟨herrors, -⟩, hresult⟩ := (twoLayers_eq_ok _ _ _ _).mp h
  simp only [List.append_eq_nil_iff, errorsUnder_eq_nil] at herrors
  obtain ⟨verdict, hverdict⟩ := herrors.2
  have hkept : result.1.verdict = verdict := by
    rw [← hresult, hverdict, valueD_ok]
  have hrule := rules_of_twoLayers hverdict
  rw [VerificationVerdict.blockingFailuresAffectVerdict, require_eq_ok] at hrule
  rw [hkept] at hpass ⊢
  exact by_contra fun hsome => hrule ⟨hsome, hpass⟩

/-- Only the list of the verdict keeps it from passing, so it has to be
complete. -/
theorem passes_without_failure_iff (result : Accepted VerificationResult) :
    PassesWithoutFailure result.1 ↔
      (result.1.verdict.status = .pass → NamesFailures result.1) := by
  constructor
  · intro hnone hpass c hc
    rw [hnone hpass] at hc
    exact absurd hc List.not_mem_nil
  · intro hnamed hpass
    rw [List.eq_nil_iff_forall_not_mem]
    intro c hc
    have hmem := hnamed hpass c hc
    rw [blockingFailures_of_pass result hpass] at hmem
    exact List.not_mem_nil hmem

/-- The tests have failed, and the verdict does not say so. -/
def unnamedFailure : Accepted VerificationResult :=
  build
    { planId := "plan-001"
      runId := "run-001"
      checks :=
        [{ checkId := "chk-001"
           name := "Run tests"
           command := some "pytest tests/"
           status := .failed
           failureReason := some "3 tests failed" }]
      verdict := { status := .pass }
      finishedAt := some "2025-01-01T00:01:30Z" }
    (by decide)

theorem unnamedFailure_passes : ¬ PassesWithoutFailure unnamedFailure.1 := by
  intro h
  exact absurd (h rfl) (by decide)

end Accounts

end NovaHarness.VerificationResults
