import NovaHarness.RecordValidation

namespace NovaHarness.AcceptanceDone

open NovaHarness.Text
open NovaHarness.RecordValidation

section Enumerations

inductive CriterionStatus where
  | notStarted
  | inProgress
  | met
  | failed
  | waived
  deriving DecidableEq, Repr

inductive DoneCheckType where
  | qualityGate
  | verificationGate
  | documentationGate
  | policyGate
  | releaseGate
  deriving DecidableEq, Repr

inductive DoneStatus where
  | notChecked
  | passed
  | failed
  | waived
  deriving DecidableEq, Repr

inductive CompletionDisposition where
  | accepted
  | acceptedWithCaveats
  | needsRework
  | rejected
  | deferred
  deriving DecidableEq, Repr

end Enumerations

section Records

structure AcceptanceCriterionRecord where
  criterionId : String
  taskId : String
  description : String
  priority : Int := 0
  required : Bool := true
  status : CriterionStatus := .notStarted
  notes : Option String := none
  deriving DecidableEq, Repr

namespace AcceptanceCriterionRecord

def validate (raw : AcceptanceCriterionRecord) : Validated AcceptanceCriterionRecord :=
  fields
    (idField "criterion_id" "criterion_id must not be blank" raw.criterionId ++
      idField "task_id" "task_id must not be blank" raw.taskId ++
      idField "description" "description must not be blank" raw.description ++
      atLeast "priority" "0" 0 raw.priority)
    { raw with
      criterionId := strip raw.criterionId
      taskId := strip raw.taskId
      description := strip raw.description }

/-- The set and the envelope both make this check. -/
def notWaivedWithoutNotes (c : AcceptanceCriterionRecord) : Validated Unit :=
  whenever (c.status = .waived)
    (requireText c.notes ("required criterion '" ++ c.criterionId ++ "' waived without notes"))

end AcceptanceCriterionRecord

structure AcceptanceCriteriaSet where
  criteriaSetId : String
  taskId : String
  criteria : List AcceptanceCriterionRecord := []
  deriving DecidableEq, Repr

namespace AcceptanceCriteriaSet

def requiredCriteriaNotWaivedWithoutNotes (set : AcceptanceCriteriaSet) : Validated Unit :=
  set.criteria |> forEach fun c => whenever (c.required = true) c.notWaivedWithoutNotes

def validate (raw : AcceptanceCriteriaSet) : Validated AcceptanceCriteriaSet :=
  twoLayers
    (idField "criteria_set_id" "criteria_set_id must not be blank" raw.criteriaSetId ++
      idField "task_id" "task_id must not be blank" raw.taskId ++
      listErrors "criteria" AcceptanceCriterionRecord.validate raw.criteria)
    { criteriaSetId := strip raw.criteriaSetId
      taskId := strip raw.taskId
      criteria := listValues AcceptanceCriterionRecord.validate raw.criteria }
    requiredCriteriaNotWaivedWithoutNotes

end AcceptanceCriteriaSet

structure DefinitionOfDoneCheck where
  doneCheckId : String
  doneCheckType : DoneCheckType
  description : String
  required : Bool := true
  status : DoneStatus := .notChecked
  notes : Option String := none
  deriving DecidableEq, Repr

namespace DefinitionOfDoneCheck

def requiredCheckNotWaivedWithoutNotes (d : DefinitionOfDoneCheck) : Validated Unit :=
  whenever (d.required = true ∧ d.status = .waived)
    (requireText d.notes ("required done check '" ++ d.doneCheckId ++ "' waived without notes"))

def validate (raw : DefinitionOfDoneCheck) : Validated DefinitionOfDoneCheck :=
  twoLayers
    (idField "done_check_id" "done_check_id must not be blank" raw.doneCheckId ++
      idField "description" "description must not be blank" raw.description)
    { raw with
      doneCheckId := strip raw.doneCheckId
      description := strip raw.description }
    requiredCheckNotWaivedWithoutNotes

end DefinitionOfDoneCheck

structure DefinitionOfDoneProfile where
  dodProfileId : String
  name : String
  checks : List DefinitionOfDoneCheck := []
  deriving DecidableEq, Repr

def DefinitionOfDoneProfile.validate (raw : DefinitionOfDoneProfile) :
    Validated DefinitionOfDoneProfile :=
  fields
    (idField "dod_profile_id" "dod_profile_id must not be blank" raw.dodProfileId ++
      idField "name" "name must not be blank" raw.name ++
      listErrors "checks" DefinitionOfDoneCheck.validate raw.checks)
    { dodProfileId := strip raw.dodProfileId
      name := strip raw.name
      checks := listValues DefinitionOfDoneCheck.validate raw.checks }

structure CompletionEvidenceRecord where
  evidenceId : String
  taskId : String
  criterionOrCheckRef : Option String := none
  evidenceType : String
  summary : String
  deriving DecidableEq, Repr

def CompletionEvidenceRecord.validate (raw : CompletionEvidenceRecord) :
    Validated CompletionEvidenceRecord :=
  fields
    (idField "evidence_id" "evidence_id must not be blank" raw.evidenceId ++
      idField "task_id" "task_id must not be blank" raw.taskId ++
      idField "evidence_type" "evidence_type must not be blank" raw.evidenceType ++
      idField "summary" "summary must not be blank" raw.summary)
    { raw with
      evidenceId := strip raw.evidenceId
      taskId := strip raw.taskId
      evidenceType := strip raw.evidenceType
      summary := strip raw.summary }

structure CompletionAssessmentRecord where
  assessmentId : String
  taskId : String
  criteriaMetCount : Int := 0
  criteriaFailedCount : Int := 0
  dodPassedCount : Int := 0
  dodFailedCount : Int := 0
  deriving DecidableEq, Repr

def CompletionAssessmentRecord.validate (raw : CompletionAssessmentRecord) :
    Validated CompletionAssessmentRecord :=
  fields
    (idField "assessment_id" "assessment_id must not be blank" raw.assessmentId ++
      idField "task_id" "task_id must not be blank" raw.taskId ++
      atLeast "criteria_met_count" "0" 0 raw.criteriaMetCount ++
      atLeast "criteria_failed_count" "0" 0 raw.criteriaFailedCount ++
      atLeast "dod_passed_count" "0" 0 raw.dodPassedCount ++
      atLeast "dod_failed_count" "0" 0 raw.dodFailedCount)
    { raw with
      assessmentId := strip raw.assessmentId
      taskId := strip raw.taskId }

structure CompletionDecisionRecord where
  decisionId : String
  taskId : String
  completionDisposition : CompletionDisposition
  decisionReason : Option String := none
  releaseReady : Bool := false
  followupActions : List String := []
  deriving DecidableEq, Repr

namespace CompletionDecisionRecord

def rules (decision : CompletionDecisionRecord) : Validated Unit := do
  whenever (decision.completionDisposition ∈ [CompletionDisposition.rejected, .needsRework])
    (requireText decision.decisionReason
      "rejected/needs_rework disposition must include decision_reason")
  whenever (decision.completionDisposition = .acceptedWithCaveats)
    (require (¬ (decision.followupActions = [] ∧ nonEmpty decision.decisionReason = none))
      "accepted_with_caveats must include followup_actions or decision_reason")

def validate (raw : CompletionDecisionRecord) : Validated CompletionDecisionRecord :=
  twoLayers
    (idField "decision_id" "decision_id must not be blank" raw.decisionId ++
      idField "task_id" "task_id must not be blank" raw.taskId)
    { raw with
      decisionId := strip raw.decisionId
      taskId := strip raw.taskId }
    rules

end CompletionDecisionRecord

structure AcceptanceDoneEnvelope where
  envelopeId : String
  acceptanceCriteriaSet : AcceptanceCriteriaSet
  definitionOfDoneProfile : DefinitionOfDoneProfile
  evidenceRecords : List CompletionEvidenceRecord := []
  assessment : CompletionAssessmentRecord
  decision : CompletionDecisionRecord
  deriving DecidableEq, Repr

namespace AcceptanceDoneEnvelope

def validCriterionIds (envelope : AcceptanceDoneEnvelope) : List String :=
  envelope.acceptanceCriteriaSet.criteria.map (·.criterionId)

def validDoneCheckIds (envelope : AcceptanceDoneEnvelope) : List String :=
  envelope.definitionOfDoneProfile.checks.map (·.doneCheckId)

def requiredCriteria (envelope : AcceptanceDoneEnvelope) : List AcceptanceCriterionRecord :=
  envelope.acceptanceCriteriaSet.criteria.filter (·.required)

def requiredChecks (envelope : AcceptanceDoneEnvelope) : List DefinitionOfDoneCheck :=
  envelope.definitionOfDoneProfile.checks.filter (·.required)

def releaseChecks (envelope : AcceptanceDoneEnvelope) : List DefinitionOfDoneCheck :=
  envelope.definitionOfDoneProfile.checks.filter fun d =>
    d.doneCheckType = .releaseGate ∧ d.required = true

def evidenceReferencesValidCriterionOrCheck (envelope : AcceptanceDoneEnvelope) :
    Validated Unit :=
  envelope.evidenceRecords |> forEach fun ev =>
    require
      (∀ ref ∈ ev.criterionOrCheckRef,
        ref ∈ envelope.validCriterionIds ∨ ref ∈ envelope.validDoneCheckIds)
      ("evidence '" ++ ev.evidenceId ++ "' references unknown criterion or check '" ++
        ev.criterionOrCheckRef.getD "" ++ "'")

def acceptedRequiresRequiredCriteriaAndChecks (envelope : AcceptanceDoneEnvelope) :
    Validated Unit :=
  whenever (envelope.decision.completionDisposition = .accepted) do
    envelope.requiredCriteria |> forEach fun c => do
      require (c.status ∈ [CriterionStatus.met, .waived])
        ("accepted requires required criterion '" ++ c.criterionId ++ "' to be met or waived")
      c.notWaivedWithoutNotes
    envelope.requiredChecks |> forEach fun d => do
      require (d.status ∈ [DoneStatus.passed, .waived])
        ("accepted requires required DoD check '" ++ d.doneCheckId ++
          "' to be passed or waived")
      whenever (d.status = .waived)
        (requireText d.notes ("required DoD check '" ++ d.doneCheckId ++ "' waived without notes"))

def acceptedWithCaveatsRequiresActions (envelope : AcceptanceDoneEnvelope) : Validated Unit :=
  whenever (envelope.decision.completionDisposition = .acceptedWithCaveats)
    (require (envelope.decision.followupActions ≠ [])
      "accepted_with_caveats must include followup_actions")

def releaseReadyRequiresPassedReleaseGates (envelope : AcceptanceDoneEnvelope) :
    Validated Unit :=
  whenever (envelope.decision.releaseReady = true)
    (envelope.releaseChecks |> forEach fun d =>
      require (d.status = .passed)
        ("release_ready requires release gate '" ++ d.doneCheckId ++ "' to be passed"))

def rules (envelope : AcceptanceDoneEnvelope) : Validated Unit := do
  envelope.evidenceReferencesValidCriterionOrCheck
  envelope.acceptedRequiresRequiredCriteriaAndChecks
  envelope.acceptedWithCaveatsRequiresActions
  envelope.releaseReadyRequiresPassedReleaseGates

def validate (raw : AcceptanceDoneEnvelope) : Validated AcceptanceDoneEnvelope :=
  twoLayers
    (idField "envelope_id" "envelope_id must not be blank" raw.envelopeId ++
      errorsUnder "acceptance_criteria_set" raw.acceptanceCriteriaSet.validate ++
      errorsUnder "definition_of_done_profile" raw.definitionOfDoneProfile.validate ++
      listErrors "evidence_records" CompletionEvidenceRecord.validate raw.evidenceRecords ++
      errorsUnder "assessment" raw.assessment.validate ++
      errorsUnder "decision" raw.decision.validate)
    { envelopeId := strip raw.envelopeId
      acceptanceCriteriaSet :=
        valueD raw.acceptanceCriteriaSet.validate raw.acceptanceCriteriaSet
      definitionOfDoneProfile :=
        valueD raw.definitionOfDoneProfile.validate raw.definitionOfDoneProfile
      evidenceRecords := listValues CompletionEvidenceRecord.validate raw.evidenceRecords
      assessment := valueD raw.assessment.validate raw.assessment
      decision := valueD raw.decision.validate raw.decision }
    rules

instance : Schema AcceptanceDoneEnvelope := ⟨fun _ => validate⟩

end AcceptanceDoneEnvelope

end Records

open AcceptanceDoneEnvelope

section Release

def HasNotes (notes : Option String) : Prop :=
  ∃ text, notes = some text ∧ text ≠ ""

/-- Every required item has been dealt with. -/
structure RequiredSettled (envelope : AcceptanceDoneEnvelope) : Prop where
  criteria : ∀ c ∈ envelope.acceptanceCriteriaSet.criteria, c.required = true →
    c.status = .met ∨ c.status = .waived ∧ HasNotes c.notes
  checks : ∀ d ∈ envelope.definitionOfDoneProfile.checks, d.required = true →
    d.status = .passed ∨ d.status = .waived ∧ HasNotes d.notes

/-- Every required release gate is passed; to waive it is not enough. -/
def GatesPassed (envelope : AcceptanceDoneEnvelope) : Prop :=
  ∀ d ∈ envelope.definitionOfDoneProfile.checks, d.required = true →
    d.doneCheckType = .releaseGate → d.status = .passed

/-- What is ready for release has been accepted and is done. -/
def ReleasesOnlyDone (envelope : AcceptanceDoneEnvelope) : Prop :=
  envelope.decision.releaseReady = true →
    envelope.decision.completionDisposition = .accepted ∧ RequiredSettled envelope ∧
      GatesPassed envelope

variable {envelope : AcceptanceDoneEnvelope}

theorem requiredSettled_of_rule (h : envelope.acceptedRequiresRequiredCriteriaAndChecks = .ok ())
    (haccepted : envelope.decision.completionDisposition = .accepted) :
    RequiredSettled envelope := by
  simp only [acceptedRequiresRequiredCriteriaAndChecks, whenever_eq_ok, unit_bind_eq_ok,
    forEach_eq_ok, require_eq_ok, AcceptanceCriterionRecord.notWaivedWithoutNotes,
    requireText_eq_ok, requiredCriteria, requiredChecks, List.mem_filter] at h
  obtain ⟨hcriteria, hchecks⟩ := h haccepted
  constructor
  · intro c hc hrequired
    obtain ⟨hstatus, hnotes⟩ := hcriteria c ⟨hc, hrequired⟩
    rcases List.mem_pair.mp hstatus with hmet | hwaived
    · exact .inl hmet
    · exact .inr ⟨hwaived, hnotes hwaived⟩
  · intro d hd hrequired
    obtain ⟨hstatus, hnotes⟩ := hchecks d ⟨hd, hrequired⟩
    rcases List.mem_pair.mp hstatus with hpassed | hwaived
    · exact .inl hpassed
    · exact .inr ⟨hwaived, hnotes hwaived⟩

theorem gatesPassed_of_rule (h : envelope.releaseReadyRequiresPassedReleaseGates = .ok ())
    (hready : envelope.decision.releaseReady = true) : GatesPassed envelope := by
  simp only [releaseReadyRequiresPassedReleaseGates, whenever_eq_ok, forEach_eq_ok,
    require_eq_ok, releaseChecks, List.mem_filter, decide_eq_true_eq] at h
  intro d hd hrequired hgate
  exact h hready d ⟨hd, hgate, hrequired⟩

/-- The flag is only checked against the release gates, the other requirements
only under the disposition; no rule ties the two together. -/
theorem releases_only_done_iff (envelope : Accepted AcceptanceDoneEnvelope) :
    ReleasesOnlyDone envelope.1 ↔
      (envelope.1.decision.releaseReady = true →
        envelope.1.decision.completionDisposition = .accepted) := by
  obtain ⟨_, raw, h⟩ := envelope.2
  change raw.validate = .ok envelope.1 at h
  have hrules := rules_of_twoLayers h
  simp only [rules, unit_bind_eq_ok] at hrules
  obtain ⟨-, haccepted, -, hgates⟩ := hrules
  constructor
  · intro hdone hready
    exact (hdone hready).1
  · intro hdisposition hready
    refine ⟨hdisposition hready, ?_, ?_⟩
    · exact requiredSettled_of_rule haccepted (hdisposition hready)
    · exact gatesPassed_of_rule hgates hready

/-- A task whose one criterion has failed. -/
def failedTask (disposition : CompletionDisposition) : AcceptanceDoneEnvelope where
  envelopeId := "env-completion-001"
  acceptanceCriteriaSet :=
    { criteriaSetId := "cs-001"
      taskId := "task-001"
      criteria :=
        [{ criterionId := "crit-001"
           taskId := "task-001"
           description := "Login endpoint accepts valid credentials"
           status := .failed }] }
  definitionOfDoneProfile := { dodProfileId := "dod-001", name := "Standard Code DoD" }
  assessment := { assessmentId := "asm-001", taskId := "task-001", criteriaFailedCount := 1 }
  decision :=
    { decisionId := "dec-001"
      taskId := "task-001"
      completionDisposition := disposition
      decisionReason := some "The login endpoint does not work."
      releaseReady := true }

def rejectedForRelease : Accepted AcceptanceDoneEnvelope :=
  build (failedTask .rejected) (by decide)

/-- Rejected for its criterion, and ready for release. -/
theorem rejectedForRelease_not_done :
    ¬ ReleasesOnlyDone rejectedForRelease.1 ∧ ¬ RequiredSettled rejectedForRelease.1 := by
  refine ⟨fun h => ?_, fun h => ?_⟩
  · exact absurd (h rfl).1 (by decide)
  · have hcriterion : (failedTask .rejected).acceptanceCriteriaSet.criteria.head (by decide) ∈
        rejectedForRelease.1.acceptanceCriteriaSet.criteria := by decide
    rcases h.criteria _ hcriterion rfl with hmet | ⟨hwaived, -⟩
    · exact absurd hmet (by decide)
    · exact absurd hwaived (by decide)

end Release

end NovaHarness.AcceptanceDone
