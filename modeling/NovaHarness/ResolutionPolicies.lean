import Mathlib.Algebra.Order.Ring.Rat
import Mathlib.Tactic.MkIffOfInductiveProp
import NovaHarness.RecordValidation

namespace NovaHarness.ResolutionPolicies

open NovaHarness.Text
open NovaHarness.RecordValidation

inductive GapSeverity where
  | low
  | medium
  | high
  | blocking
  deriving DecidableEq, Repr

inductive ResolutionMethod where
  | askUser
  | inferFromContext
  | applyDefault
  | manualOverride
  | defer
  | escalate
  deriving DecidableEq, Repr

def ResolutionMethod.value : ResolutionMethod → String
  | .askUser => "ask_user"
  | .inferFromContext => "infer_from_context"
  | .applyDefault => "apply_default"
  | .manualOverride => "manual_override"
  | .defer => "defer"
  | .escalate => "escalate"

inductive ResolutionStatus where
  | opened
  | questionIssued
  | answered
  | resolved
  | deferred
  | escalated
  | closedUnresolved
  deriving DecidableEq, Repr

def ResolutionStatus.value : ResolutionStatus → String
  | .opened => "open"
  | .questionIssued => "question_issued"
  | .answered => "answered"
  | .resolved => "resolved"
  | .deferred => "deferred"
  | .escalated => "escalated"
  | .closedUnresolved => "closed_unresolved"

inductive ClarificationDisposition where
  | readyToProceed
  | proceedWithGaps
  | awaitingResponse
  | rejected
  | escalated
  deriving DecidableEq, Repr

/-- The methods that settle a value. -/
def valueMethods : List ResolutionMethod :=
  [.askUser, .inferFromContext, .applyDefault, .manualOverride]

/-- `resolved_states`. -/
def resolvedStates : List ResolutionStatus :=
  [.resolved, .deferred, .escalated, .closedUnresolved]

/-- The text of a set of strings, in the order given; that of the source is
arbitrary. -/
def setStr (tables : UnicodeTables) (words : List String) : String :=
  "\x7b" ++ joinComma (words.map (reprStr tables)) ++ "\x7d"

section Records

structure MissingInfoGapRecord where
  gapId : String
  intakeId : String
  fieldName : String
  gapSeverity : GapSeverity
  blocking : Bool := false
  gapSummary : String
  deriving DecidableEq, Repr

def MissingInfoGapRecord.validate (raw : MissingInfoGapRecord) :
    Validated MissingInfoGapRecord := do
  let gap ← fields
    (idField "gap_id" "gap_id must not be blank" raw.gapId ++
      idField "intake_id" "intake_id must not be blank" raw.intakeId ++
      idField "field_name" "field_name must not be blank" raw.fieldName ++
      idField "gap_summary" "gap_summary must not be blank" raw.gapSummary)
    { raw with
      gapId := strip raw.gapId
      intakeId := strip raw.intakeId
      fieldName := strip raw.fieldName
      gapSummary := strip raw.gapSummary }
  require (gap.gapSeverity = .blocking → gap.blocking = true)
    "blocking severity must have blocking=True"
  return gap

structure ClarificationQuestionRecord where
  questionId : String
  gapId : String
  fieldName : String
  questionText : String
  questionOrder : Int := 0
  deriving DecidableEq, Repr

def ClarificationQuestionRecord.validate (raw : ClarificationQuestionRecord) :
    Validated ClarificationQuestionRecord :=
  fields
    (idField "question_id" "question_id must not be blank" raw.questionId ++
      idField "gap_id" "gap_id must not be blank" raw.gapId ++
      idField "field_name" "field_name must not be blank" raw.fieldName ++
      idField "question_text" "question_text must not be blank" raw.questionText ++
      atLeast "question_order" "0" 0 raw.questionOrder)
    { raw with
      questionId := strip raw.questionId
      gapId := strip raw.gapId
      fieldName := strip raw.fieldName
      questionText := strip raw.questionText }

structure ResolutionAttemptRecord where
  attemptId : String
  gapId : String
  resolutionMethod : ResolutionMethod
  proposedValueRef : Option String := none
  confidence : Option ℚ := none
  deriving DecidableEq, Repr

def ResolutionAttemptRecord.validate (raw : ResolutionAttemptRecord) :
    Validated ResolutionAttemptRecord := do
  let attempt ← fields
    (idField "attempt_id" "attempt_id must not be blank" raw.attemptId ++
      idField "gap_id" "gap_id must not be blank" raw.gapId ++
      check "confidence" "confidence must be between 0.0 and 1.0"
        (∀ value ∈ raw.confidence, 0 ≤ value ∧ value ≤ 1))
    { raw with
      attemptId := strip raw.attemptId
      gapId := strip raw.gapId }
  whenever (attempt.resolutionMethod ∈ valueMethods) do
    requireText attempt.proposedValueRef
      ("ResolutionMethod." ++ attempt.resolutionMethod.value ++
        " attempt must include proposed_value_ref")
  return attempt

theorem ResolutionAttemptRecord.proposed_of_validate {raw attempt : ResolutionAttemptRecord}
    (h : raw.validate = .ok attempt) (hmethod : attempt.resolutionMethod ∈ valueMethods) :
    ∃ value, attempt.proposedValueRef = some value ∧ value ≠ "" := by
  simp only [ResolutionAttemptRecord.validate, bind_eq_ok, whenever_eq_ok, requireText_eq_ok,
    pure_eq_ok] at h
  obtain ⟨_, -, _, hproposed, rfl⟩ := h
  exact hproposed hmethod

structure FieldResolutionRecord where
  fieldResolutionId : String
  gapId : String
  resolvedValueRef : Option String := none
  resolutionMethod : ResolutionMethod
  resolutionStatus : ResolutionStatus
  notes : Option String := none
  deriving DecidableEq, Repr

def FieldResolutionRecord.validate (raw : FieldResolutionRecord) :
    Validated FieldResolutionRecord := do
  let resolution ← fields
    (idField "field_resolution_id" "field_resolution_id must not be blank"
        raw.fieldResolutionId ++
      idField "gap_id" "gap_id must not be blank" raw.gapId)
    { raw with
      fieldResolutionId := strip raw.fieldResolutionId
      gapId := strip raw.gapId }
  require
    (resolution.resolutionStatus ∈ resolvedStates →
      (nonEmpty resolution.resolvedValueRef).isSome ∨ (nonEmpty resolution.notes).isSome)
    ("ResolutionStatus." ++ resolution.resolutionStatus.value ++
      " state requires resolved_value_ref or notes")
  return resolution

theorem FieldResolutionRecord.settled_of_validate {raw resolution : FieldResolutionRecord}
    (h : raw.validate = .ok resolution) (hstatus : resolution.resolutionStatus ∈ resolvedStates) :
    (nonEmpty resolution.resolvedValueRef).isSome ∨ (nonEmpty resolution.notes).isSome := by
  simp only [FieldResolutionRecord.validate, bind_eq_ok, require_eq_ok, pure_eq_ok] at h
  obtain ⟨_, -, _, hsettled, rfl⟩ := h
  exact hsettled hstatus

structure ResolutionPolicyRecord where
  policyId : String
  fieldName : String
  required : Bool := true
  allowDefault : Bool := false
  allowInference : Bool := false
  allowDefer : Bool := false
  escalationThreshold : Option Int := none
  maxAttempts : Option Int := none
  deriving DecidableEq, Repr

namespace ResolutionPolicyRecord

def normalized (raw : ResolutionPolicyRecord) : ResolutionPolicyRecord :=
  { raw with
    policyId := strip raw.policyId
    fieldName := strip raw.fieldName }

def validate (raw : ResolutionPolicyRecord) : Validated ResolutionPolicyRecord := do
  let policy ← fields
    (idField "policy_id" "policy_id must not be blank" raw.policyId ++
      idField "field_name" "field_name must not be blank" raw.fieldName ++
      check "escalation_threshold" "escalation_threshold must be >= 1"
        (∀ threshold ∈ raw.escalationThreshold, 1 ≤ threshold) ++
      check "max_attempts" "max_attempts must be >= 1" (∀ n ∈ raw.maxAttempts, 1 ≤ n))
    raw.normalized
  require (policy.required = true → policy.allowDefer = true →
      policy.escalationThreshold.getD 0 ≠ 0)
    "required fields with allow_defer must set escalation_threshold"
  return policy

instance : Schema ResolutionPolicyRecord := ⟨fun _ => validate⟩

/-- What a policy has to say to be accepted. -/
structure Consistent (policy : ResolutionPolicyRecord) : Prop where
  threshold : ∀ threshold ∈ policy.escalationThreshold, 1 ≤ threshold
  attempts : ∀ n ∈ policy.maxAttempts, 1 ≤ n
  deferral : policy.required = true → policy.allowDefer = true →
    policy.escalationThreshold.getD 0 ≠ 0

theorem validate_eq_ok (raw policy : ResolutionPolicyRecord) :
    raw.validate = .ok policy ↔
      (¬ IsBlank raw.policyId ∧ ¬ IsBlank raw.fieldName) ∧ raw.Consistent ∧
        raw.normalized = policy := by
  simp only [validate, normalized, bind_eq_ok, fields_eq_ok, require_eq_ok, pure_eq_ok,
    List.append_eq_nil_iff, idField_eq_nil, check_eq_nil]
  constructor
  · rintro ⟨_, ⟨⟨⟨⟨hid, hname⟩, hthreshold⟩, hattempts⟩, rfl⟩, _, hdeferral, rfl⟩
    exact ⟨⟨hid, hname⟩, ⟨hthreshold, hattempts, hdeferral⟩, rfl⟩
  · rintro ⟨⟨hid, hname⟩, ⟨hthreshold, hattempts, hdeferral⟩, rfl⟩
    exact ⟨_, ⟨⟨⟨⟨hid, hname⟩, hthreshold⟩, hattempts⟩, rfl⟩, (), hdeferral, rfl⟩

/-- Only the texts are normalised, and nothing is asked of them here. -/
theorem Consistent.normalized {raw : ResolutionPolicyRecord} (h : raw.Consistent) :
    raw.normalized.Consistent := by
  rw [ResolutionPolicyRecord.normalized]
  exact ⟨h.threshold, h.attempts, h.deferral⟩

theorem consistent_of_validate {raw policy : ResolutionPolicyRecord}
    (h : raw.validate = .ok policy) : policy.Consistent := by
  obtain ⟨-, hconsistent, rfl⟩ := (validate_eq_ok raw policy).mp h
  exact hconsistent.normalized

theorem stable_validate : Stable validate := by
  intro raw policy h
  obtain ⟨⟨hid, hname⟩, hconsistent, rfl⟩ := (validate_eq_ok raw policy).mp h
  refine (validate_eq_ok _ _).mpr ⟨⟨?_, ?_⟩, hconsistent.normalized, ?_⟩
  · simpa [normalized] using hid
  · simpa [normalized] using hname
  · simp [normalized, strip_strip]

end ResolutionPolicyRecord

structure ClarificationSessionRecord where
  clarificationSessionId : String
  intakeId : String
  relatedGapIds : List String := []
  activeQuestionIds : List String := []
  completedQuestionIds : List String := []
  sessionStatus : String := "in_progress"
  deriving DecidableEq, Repr

namespace ClarificationSessionRecord

def allowedStatuses : List String :=
  ["in_progress", "completed", "escalated", "closed"]

def overlap (session : ClarificationSessionRecord) : List String :=
  session.activeQuestionIds.dedup.filter (· ∈ session.completedQuestionIds)

def validate (tables : UnicodeTables) (raw : ClarificationSessionRecord) :
    Validated ClarificationSessionRecord := do
  let session ← fields
    (idField "clarification_session_id" "clarification_session_id must not be blank"
        raw.clarificationSessionId ++
      idField "intake_id" "intake_id must not be blank" raw.intakeId ++
      check "session_status" ("session_status must be one of " ++ setStr tables allowedStatuses)
        (raw.sessionStatus ∈ allowedStatuses))
    { raw with
      clarificationSessionId := strip raw.clarificationSessionId
      intakeId := strip raw.intakeId }
  require (session.overlap = [])
    ("question ids cannot be both active and completed: " ++ setStr tables session.overlap)
  return session

end ClarificationSessionRecord

structure ClarificationDecisionRecord where
  decisionId : String
  clarificationSessionId : String
  clarificationDisposition : ClarificationDisposition
  remainingOpenGapIds : List String := []
  decisionReason : Option String := none
  deriving DecidableEq, Repr

def ClarificationDecisionRecord.validate (raw : ClarificationDecisionRecord) :
    Validated ClarificationDecisionRecord := do
  let decision ← fields
    (idField "decision_id" "decision_id must not be blank" raw.decisionId ++
      idField "clarification_session_id" "clarification_session_id must not be blank"
        raw.clarificationSessionId)
    { raw with
      decisionId := strip raw.decisionId
      clarificationSessionId := strip raw.clarificationSessionId }
  whenever (decision.clarificationDisposition ∈ [.rejected, .escalated]) do
    requireText decision.decisionReason
      "rejected/escalated disposition must include decision_reason"
  return decision

structure ClarificationResolutionEnvelope where
  envelopeId : String
  gaps : List MissingInfoGapRecord := []
  questions : List ClarificationQuestionRecord := []
  attempts : List ResolutionAttemptRecord := []
  fieldResolutions : List FieldResolutionRecord := []
  policies : List ResolutionPolicyRecord := []
  session : ClarificationSessionRecord
  decision : ClarificationDecisionRecord
  deriving DecidableEq, Repr

end Records

namespace ClarificationResolutionEnvelope

def validGapIds (envelope : ClarificationResolutionEnvelope) : List String :=
  envelope.gaps.map (·.gapId)

def validQuestionIds (envelope : ClarificationResolutionEnvelope) : List String :=
  envelope.questions.map (·.questionId)

def resolvedGapIds (envelope : ClarificationResolutionEnvelope) : List String :=
  (envelope.fieldResolutions.filter (·.resolutionStatus ∈ resolvedStates)).map (·.gapId)

def normalized (tables : UnicodeTables) (raw : ClarificationResolutionEnvelope) :
    ClarificationResolutionEnvelope where
  envelopeId := strip raw.envelopeId
  gaps := listValues MissingInfoGapRecord.validate raw.gaps
  questions := listValues ClarificationQuestionRecord.validate raw.questions
  attempts := listValues ResolutionAttemptRecord.validate raw.attempts
  fieldResolutions := listValues FieldResolutionRecord.validate raw.fieldResolutions
  policies := listValues ResolutionPolicyRecord.validate raw.policies
  session := valueD (raw.session.validate tables) raw.session
  decision := valueD raw.decision.validate raw.decision

def validate (tables : UnicodeTables) (raw : ClarificationResolutionEnvelope) :
    Validated ClarificationResolutionEnvelope := do
  let envelope ← fields
    (idField "envelope_id" "envelope_id must not be blank" raw.envelopeId ++
      listErrors "gaps" MissingInfoGapRecord.validate raw.gaps ++
      listErrors "questions" ClarificationQuestionRecord.validate raw.questions ++
      listErrors "attempts" ResolutionAttemptRecord.validate raw.attempts ++
      listErrors "field_resolutions" FieldResolutionRecord.validate raw.fieldResolutions ++
      listErrors "policies" ResolutionPolicyRecord.validate raw.policies ++
      errorsUnder "session" (raw.session.validate tables) ++
      errorsUnder "decision" raw.decision.validate)
    (raw.normalized tables)
  forEach (fun q => require (q.gapId ∈ envelope.validGapIds)
    ("question '" ++ q.questionId ++ "' references unknown gap '" ++ q.gapId ++ "'"))
    envelope.questions
  forEach (fun a => require (a.gapId ∈ envelope.validGapIds)
    ("attempt '" ++ a.attemptId ++ "' references unknown gap '" ++ a.gapId ++ "'"))
    envelope.attempts
  forEach (fun fr => require (fr.gapId ∈ envelope.validGapIds)
    ("field_resolution '" ++ fr.fieldResolutionId ++ "' references unknown gap '" ++
      fr.gapId ++ "'"))
    envelope.fieldResolutions
  forEach (fun gid => require (gid ∈ envelope.validGapIds)
    ("session references unknown gap '" ++ gid ++ "'"))
    envelope.session.relatedGapIds
  forEach (fun qid => require (qid ∈ envelope.validQuestionIds)
    ("session active question '" ++ qid ++ "' references unknown question"))
    envelope.session.activeQuestionIds
  forEach (fun qid => require (qid ∈ envelope.validQuestionIds)
    ("session completed question '" ++ qid ++ "' references unknown question"))
    envelope.session.completedQuestionIds
  forEach (fun gid => require (gid ∈ envelope.validGapIds)
    ("decision references unknown gap '" ++ gid ++ "'"))
    envelope.decision.remainingOpenGapIds
  require
    (envelope.decision.clarificationDisposition = .awaitingResponse →
      envelope.session.activeQuestionIds ≠ [])
    "awaiting_response disposition requires at least one active question"
  whenever
    (envelope.decision.clarificationDisposition ∈ [.readyToProceed, .proceedWithGaps]) do
    forEach (fun gap => require (gap.blocking = true → gap.gapId ∈ envelope.resolvedGapIds)
      ("cannot proceed with unresolved blocking gap '" ++ gap.gapId ++ "'"))
      envelope.gaps
  return envelope

instance : Schema ClarificationResolutionEnvelope := ⟨validate⟩

/-- What the validators of the envelope compare.  The policies are not part of it. -/
structure Connected (envelope : ClarificationResolutionEnvelope) : Prop where
  questions : ∀ q ∈ envelope.questions, q.gapId ∈ envelope.validGapIds
  attempts : ∀ a ∈ envelope.attempts, a.gapId ∈ envelope.validGapIds
  resolutions : ∀ fr ∈ envelope.fieldResolutions, fr.gapId ∈ envelope.validGapIds
  related : ∀ gid ∈ envelope.session.relatedGapIds, gid ∈ envelope.validGapIds
  active : ∀ qid ∈ envelope.session.activeQuestionIds, qid ∈ envelope.validQuestionIds
  completed : ∀ qid ∈ envelope.session.completedQuestionIds, qid ∈ envelope.validQuestionIds
  stillOpen : ∀ gid ∈ envelope.decision.remainingOpenGapIds, gid ∈ envelope.validGapIds
  awaiting : envelope.decision.clarificationDisposition = .awaitingResponse →
    envelope.session.activeQuestionIds ≠ []
  proceeding : envelope.decision.clarificationDisposition ∈ [.readyToProceed, .proceedWithGaps] →
    ∀ gap ∈ envelope.gaps, gap.blocking = true → gap.gapId ∈ envelope.resolvedGapIds

/-- Every part of the raw envelope is accepted by itself. -/
structure PartsAccepted (tables : UnicodeTables) (raw : ClarificationResolutionEnvelope) :
    Prop where
  envelopeId : ¬ IsBlank raw.envelopeId
  gaps : ∀ gap ∈ raw.gaps, ∃ gap', gap.validate = .ok gap'
  questions : ∀ q ∈ raw.questions, ∃ q', q.validate = .ok q'
  attempts : ∀ a ∈ raw.attempts, ∃ a', a.validate = .ok a'
  resolutions : ∀ fr ∈ raw.fieldResolutions, ∃ fr', fr.validate = .ok fr'
  policies : ∀ policy ∈ raw.policies, ∃ policy', policy.validate = .ok policy'
  session : ∃ session, raw.session.validate tables = .ok session
  decision : ∃ decision, raw.decision.validate = .ok decision

theorem validate_eq_ok (tables : UnicodeTables) (raw envelope : ClarificationResolutionEnvelope) :
    raw.validate tables = .ok envelope ↔
      raw.PartsAccepted tables ∧ raw.normalized tables = envelope ∧ envelope.Connected := by
  simp only [validate, bind_eq_ok, fields_eq_ok, forEach_eq_ok, require_eq_ok, whenever_eq_ok,
    pure_eq_ok, List.append_eq_nil_iff, idField_eq_nil, listErrors_eq_nil, errorsUnder_eq_nil]
  constructor
  · rintro ⟨_, ⟨⟨⟨⟨⟨⟨⟨⟨hid, hgaps⟩, hquestions⟩, hattempts⟩, hresolutions⟩, hpolicies⟩,
      hsession⟩, hdecision⟩, rfl⟩, _, hasked, _, htried, _, hsettled, _, hrelated, _, hactive, _,
      hcompleted, _, hopen, _, hawaiting, _, hproceeding, rfl⟩
    exact ⟨⟨hid, hgaps, hquestions, hattempts, hresolutions, hpolicies, hsession, hdecision⟩, rfl,
      ⟨hasked, htried, hsettled, hrelated, hactive, hcompleted, hopen, hawaiting, hproceeding⟩⟩
  · rintro ⟨⟨hid, hgaps, hquestions, hattempts, hresolutions, hpolicies, hsession, hdecision⟩, rfl,
      ⟨hasked, htried, hsettled, hrelated, hactive, hcompleted, hopen, hawaiting, hproceeding⟩⟩
    exact ⟨_, ⟨⟨⟨⟨⟨⟨⟨⟨hid, hgaps⟩, hquestions⟩, hattempts⟩, hresolutions⟩, hpolicies⟩,
      hsession⟩, hdecision⟩, rfl⟩, (), hasked, (), htried, (), hsettled, (), hrelated, (), hactive,
      (), hcompleted, (), hopen, (), hawaiting, (), hproceeding, rfl⟩

/-- An accepted envelope: its links hold, its parts are complete in themselves. -/
structure Checked (envelope : ClarificationResolutionEnvelope) : Prop where
  connected : envelope.Connected
  proposed : ∀ a ∈ envelope.attempts, a.resolutionMethod ∈ valueMethods →
    ∃ value, a.proposedValueRef = some value ∧ value ≠ ""
  settled : ∀ fr ∈ envelope.fieldResolutions, fr.resolutionStatus ∈ resolvedStates →
    (nonEmpty fr.resolvedValueRef).isSome ∨ (nonEmpty fr.notes).isSome
  policies : ∀ policy ∈ envelope.policies, policy.Consistent

theorem checked_of_validate {tables : UnicodeTables}
    {raw envelope : ClarificationResolutionEnvelope} (h : raw.validate tables = .ok envelope) :
    envelope.Checked := by
  obtain ⟨hparts, rfl, hconnected⟩ := (validate_eq_ok tables raw _).mp h
  refine ⟨hconnected, ?_, ?_, ?_⟩
  · intro a ha
    obtain ⟨raw', -, hraw'⟩ := exists_of_mem_listValues hparts.attempts ha
    exact ResolutionAttemptRecord.proposed_of_validate hraw'
  · intro fr hfr
    obtain ⟨raw', -, hraw'⟩ := exists_of_mem_listValues hparts.resolutions hfr
    exact FieldResolutionRecord.settled_of_validate hraw'
  · intro policy hpolicy
    obtain ⟨raw', -, hraw'⟩ := exists_of_mem_listValues hparts.policies hpolicy
    exact ResolutionPolicyRecord.consistent_of_validate hraw'

/-- The same clarification under other policies. -/
def withPolicies (envelope : ClarificationResolutionEnvelope)
    (policies : List (Accepted ResolutionPolicyRecord)) : ClarificationResolutionEnvelope :=
  { envelope with
    policies := policies.map fun policy : Accepted ResolutionPolicyRecord => policy.1 }

/-- No validator reads the policies: they may be exchanged. -/
theorem validate_withPolicies {tables : UnicodeTables}
    {raw envelope : ClarificationResolutionEnvelope} (h : raw.validate tables = .ok envelope)
    (policies : List (Accepted ResolutionPolicyRecord)) :
    (raw.withPolicies policies).validate tables = .ok (envelope.withPolicies policies) := by
  obtain ⟨hparts, rfl, hconnected⟩ := (validate_eq_ok tables raw _).mp h
  have hagain : ∀ policy ∈ policies.map fun policy => policy.1,
      policy.validate = .ok policy := by
    intro policy hpolicy
    obtain ⟨accepted, -, rfl⟩ := List.mem_map.mp hpolicy
    exact ResolutionPolicyRecord.stable_validate.of_accepted (fun _ _ => by rfl) accepted
  refine (validate_eq_ok tables _ _).mpr ⟨?_, ?_, ?_⟩
  · exact { hparts with policies := fun policy hpolicy => ⟨policy, hagain policy hpolicy⟩ }
  · simp only [normalized, withPolicies, listValues_eq_self hagain]
  · exact { hconnected with }

end ClarificationResolutionEnvelope

section Policies

open ClarificationResolutionEnvelope

/-- How often a gap was tried. -/
def attemptsAt (envelope : ClarificationResolutionEnvelope) (gap : MissingInfoGapRecord) : Nat :=
  envelope.attempts.countP (·.gapId = gap.gapId)

/-- The methods of the attempts and the resolutions of a gap. -/
def methodsAt (envelope : ClarificationResolutionEnvelope) (gap : MissingInfoGapRecord) :
    List ResolutionMethod :=
  (envelope.attempts.filter (·.gapId = gap.gapId)).map (·.resolutionMethod) ++
    (envelope.fieldResolutions.filter (·.gapId = gap.gapId)).map (·.resolutionMethod)

@[mk_iff]
structure Obeys (envelope : ClarificationResolutionEnvelope) (gap : MissingInfoGapRecord)
    (policy : ResolutionPolicyRecord) : Prop where
  default : policy.allowDefault = false → .applyDefault ∉ methodsAt envelope gap
  inference : policy.allowInference = false → .inferFromContext ∉ methodsAt envelope gap
  deferral : policy.allowDefer = false → .defer ∉ methodsAt envelope gap
  attempts : ∀ n ∈ policy.maxAttempts, attemptsAt envelope gap ≤ n

instance (envelope : ClarificationResolutionEnvelope) (gap : MissingInfoGapRecord)
    (policy : ResolutionPolicyRecord) : Decidable (Obeys envelope gap policy) :=
  decidable_of_iff _ (obeys_iff envelope gap policy).symm

/-- Every gap is handled by the policies of its field. -/
def PoliciesBind (envelope : ClarificationResolutionEnvelope) : Prop :=
  ∀ gap ∈ envelope.gaps, ∀ policy ∈ envelope.policies, policy.fieldName = gap.fieldName →
    Obeys envelope gap policy

instance : DecidablePred PoliciesBind := fun envelope =>
  inferInstanceAs (Decidable (∀ gap ∈ envelope.gaps, ∀ policy ∈ envelope.policies,
    policy.fieldName = gap.fieldName → Obeys envelope gap policy))

/-- The gap in the deadline. -/
def deadline : MissingInfoGapRecord where
  gapId := "gap-001"
  intakeId := "intake-001"
  fieldName := "deadline"
  gapSeverity := .blocking
  blocking := true
  gapSummary := "Deadline is missing from request"

def attempt (attemptId : String) (method : ResolutionMethod) : ResolutionAttemptRecord where
  attemptId := attemptId
  gapId := "gap-001"
  resolutionMethod := method
  proposedValueRef := some "2026-07-07"

def resolution (method : ResolutionMethod) (status : ResolutionStatus) :
    FieldResolutionRecord where
  fieldResolutionId := "fr-001"
  gapId := "gap-001"
  resolvedValueRef := some "2026-07-07"
  resolutionMethod := method
  resolutionStatus := status

/-- A clarification of the deadline, of which the policy allows one attempt and
nothing but questions. -/
def clarification (attempts : List ResolutionAttemptRecord) (fr : FieldResolutionRecord) :
    ClarificationResolutionEnvelope where
  envelopeId := "env-clar-001"
  gaps := [deadline]
  attempts := attempts
  fieldResolutions := [fr]
  policies := [{ policyId := "pol-001", fieldName := "deadline", maxAttempts := some 1 }]
  session :=
    { clarificationSessionId := "cs-001", intakeId := "intake-001", relatedGapIds := ["gap-001"] }
  decision :=
    { decisionId := "dec-001"
      clarificationSessionId := "cs-001"
      clarificationDisposition := .readyToProceed
      decisionReason := some "All gaps resolved" }

def asked : Accepted ClarificationResolutionEnvelope :=
  build (clarification [attempt "att-001" .askUser] (resolution .askUser .resolved)) (by decide)

example : PoliciesBind asked.1 := by decide +kernel

def defaulted : Accepted ClarificationResolutionEnvelope :=
  build (clarification [attempt "att-001" .applyDefault] (resolution .askUser .resolved))
    (by decide)

def inferred : Accepted ClarificationResolutionEnvelope :=
  build (clarification [] (resolution .inferFromContext .resolved)) (by decide)

def deferred : Accepted ClarificationResolutionEnvelope :=
  build (clarification [] (resolution .defer .deferred)) (by decide)

def retried : Accepted ClarificationResolutionEnvelope :=
  build
    (clarification [attempt "att-001" .askUser, attempt "att-002" .askUser]
      (resolution .askUser .resolved))
    (by decide)

end Policies

end NovaHarness.ResolutionPolicies
