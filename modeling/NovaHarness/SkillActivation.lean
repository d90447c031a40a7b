import NovaHarness.RecordValidation

namespace NovaHarness.SkillActivation

open NovaHarness.Text
open NovaHarness.RecordValidation

inductive SkillStatus where
  | draft
  | active
  | deprecated
  | disabled
  deriving DecidableEq, Repr

inductive ActivationStatus where
  | requested
  | approved
  | loaded
  | executed
  | rejected
  | deferred
  | failed
  deriving DecidableEq, Repr

def LOADED_OR_EXECUTED : List ActivationStatus := [.loaded, .executed]

section Records

/-- The validator that all the id and name fields share. -/
def notBlank (loc value : String) : List FieldError :=
  nonBlank loc "must not be blank" value

structure SkillManifest where
  skillId : String
  name : String
  version : String
  status : SkillStatus := .draft
  deriving DecidableEq, Repr

def SkillManifest.validate (raw : SkillManifest) : Validated SkillManifest :=
  fields
    (notBlank "skill_id" raw.skillId ++ notBlank "name" raw.name ++
      notBlank "version" raw.version)
    { raw with
      skillId := strip raw.skillId
      name := strip raw.name
      version := strip raw.version }

structure SkillInputSpec where
  inputId : String
  name : String
  type : String
  deriving DecidableEq, Repr

def SkillInputSpec.validate (raw : SkillInputSpec) : Validated SkillInputSpec :=
  fields
    (notBlank "input_id" raw.inputId ++ notBlank "name" raw.name ++ notBlank "type" raw.type)
    { inputId := strip raw.inputId
      name := strip raw.name
      type := strip raw.type }

structure SkillOutputSpec where
  outputId : String
  name : String
  type : String
  deriving DecidableEq, Repr

def SkillOutputSpec.validate (raw : SkillOutputSpec) : Validated SkillOutputSpec :=
  fields
    (notBlank "output_id" raw.outputId ++ notBlank "name" raw.name ++ notBlank "type" raw.type)
    { outputId := strip raw.outputId
      name := strip raw.name
      type := strip raw.type }

structure SkillPermissionProfile where
  permissionProfileId : String
  toolAllowlist : List String := []
  toolDenylist : List String := []
  networkAccess : Bool := false
  fileWriteAccess : Bool := false
  sensitiveDataAccess : Bool := false
  deriving DecidableEq, Repr

def SkillPermissionProfile.validate (raw : SkillPermissionProfile) :
    Validated SkillPermissionProfile := do
  let profile ← fields (notBlank "permission_profile_id" raw.permissionProfileId)
    { raw with permissionProfileId := strip raw.permissionProfileId }
  require
    (profile.toolAllowlist = [] → profile.toolDenylist = [] →
      ¬ (profile.networkAccess || profile.fileWriteAccess || profile.sensitiveDataAccess) = true)
    "permission profile must not grant unrestricted access: allowlist or denylist required when sensitive permissions are enabled"
  return profile

structure SkillDependencyRecord where
  dependencyId : String
  dependencyType : String
  dependencyRef : String
  deriving DecidableEq, Repr

/-- `^(skill|tool|provider|runtime_feature)$`, whose end may also be in front of
a final newline. -/
def matchesDependencyType (v : String) : Prop :=
  ∃ t ∈ ["skill", "tool", "provider", "runtime_feature"], v = t ∨ v = t ++ "\n"

instance (v : String) : Decidable (matchesDependencyType v) :=
  inferInstanceAs (Decidable (∃ t ∈ _, _))

def SkillDependencyRecord.validate (raw : SkillDependencyRecord) :
    Validated SkillDependencyRecord :=
  fields
    (notBlank "dependency_id" raw.dependencyId ++
      check "dependency_type"
        "dependency_type must be one of: skill, tool, provider, runtime_feature"
        (matchesDependencyType raw.dependencyType) ++
      notBlank "dependency_ref" raw.dependencyRef)
    { raw with
      dependencyId := strip raw.dependencyId
      dependencyRef := strip raw.dependencyRef }

structure SkillActivationRule where
  ruleId : String
  deriving DecidableEq, Repr

def SkillActivationRule.validate (raw : SkillActivationRule) : Validated SkillActivationRule :=
  fields (notBlank "rule_id" raw.ruleId) { ruleId := strip raw.ruleId }

/-- `requestedBy` is `none` where a payload leaves it out.  The record then holds
an empty text, which is not validated. -/
structure SkillActivationRequest where
  activationRequestId : String
  skillId : String
  requestedBy : Option String := none
  deriving DecidableEq, Repr

def SkillActivationRequest.validate (raw : SkillActivationRequest) :
    Validated SkillActivationRequest :=
  fields
    (notBlank "activation_request_id" raw.activationRequestId ++
      notBlank "skill_id" raw.skillId ++
      (raw.requestedBy.map (notBlank "requested_by")).getD [])
    { activationRequestId := strip raw.activationRequestId
      skillId := strip raw.skillId
      requestedBy := some ((raw.requestedBy.map strip).getD "") }

structure SkillActivationDecision where
  decisionId : String
  activationRequestId : String
  approved : Bool
  decisionReason : String
  deriving DecidableEq, Repr

def SkillActivationDecision.validate (raw : SkillActivationDecision) :
    Validated SkillActivationDecision :=
  fields
    (notBlank "decision_id" raw.decisionId ++
      notBlank "activation_request_id" raw.activationRequestId ++
      notBlank "decision_reason" raw.decisionReason)
    { raw with
      decisionId := strip raw.decisionId
      activationRequestId := strip raw.activationRequestId
      decisionReason := strip raw.decisionReason }

structure SkillActivationRecord where
  activationId : String
  skillId : String
  activationRequestId : String
  activationStatus : ActivationStatus
  failureReason : String := ""
  deriving DecidableEq, Repr

def SkillActivationRecord.validate (raw : SkillActivationRecord) :
    Validated SkillActivationRecord := do
  let record ← fields
    (notBlank "activation_id" raw.activationId ++ notBlank "skill_id" raw.skillId ++
      notBlank "activation_request_id" raw.activationRequestId)
    { raw with
      activationId := strip raw.activationId
      skillId := strip raw.skillId
      activationRequestId := strip raw.activationRequestId }
  -- the validator for loaded or executed records complains about nothing
  require (record.activationStatus = .failed → ¬ IsBlank record.failureReason)
    "FAILED status requires failure_reason"
  return record

structure SkillEnvelope where
  envelopeId : String
  manifest : SkillManifest
  inputs : List SkillInputSpec := []
  outputs : List SkillOutputSpec := []
  permissionProfile : SkillPermissionProfile
  dependencies : List SkillDependencyRecord := []
  activationRules : List SkillActivationRule := []
  activationRequest : Option SkillActivationRequest := none
  activationDecision : Option SkillActivationDecision := none
  activationRecord : Option SkillActivationRecord := none
  deriving DecidableEq, Repr

end Records

namespace SkillEnvelope

variable (envelope : SkillEnvelope)

def executionRequiresApprovedDecision : Validated Unit :=
  whenever (∃ record ∈ envelope.activationRecord, record.activationStatus ∈ LOADED_OR_EXECUTED) do
    require (envelope.activationDecision ≠ none)
      "LOADED/EXECUTED status requires a prior approved activation decision"
    require (∀ decision ∈ envelope.activationDecision, decision.approved = true)
      "LOADED/EXECUTED status requires an approved activation decision"

def activationDecisionMatchesRequest : Validated Unit :=
  require
    (∀ request ∈ envelope.activationRequest, ∀ decision ∈ envelope.activationDecision,
      decision.activationRequestId = request.activationRequestId)
    "activation_decision.activation_request_id must match activation_request.activation_request_id"

def activationRecordMatchesRequest : Validated Unit :=
  require
    (∀ request ∈ envelope.activationRequest, ∀ record ∈ envelope.activationRecord,
      record.activationRequestId = request.activationRequestId)
    "activation_record.activation_request_id must match activation_request.activation_request_id"

def normalized (raw : SkillEnvelope) : SkillEnvelope where
  envelopeId := strip raw.envelopeId
  manifest := valueD raw.manifest.validate raw.manifest
  inputs := listValues SkillInputSpec.validate raw.inputs
  outputs := listValues SkillOutputSpec.validate raw.outputs
  permissionProfile := valueD raw.permissionProfile.validate raw.permissionProfile
  dependencies := listValues SkillDependencyRecord.validate raw.dependencies
  activationRules := listValues SkillActivationRule.validate raw.activationRules
  activationRequest := optionValue SkillActivationRequest.validate raw.activationRequest
  activationDecision := optionValue SkillActivationDecision.validate raw.activationDecision
  activationRecord := optionValue SkillActivationRecord.validate raw.activationRecord

def validate (raw : SkillEnvelope) : Validated SkillEnvelope := do
  let envelope ← fields
    (notBlank "envelope_id" raw.envelopeId ++
      errorsUnder "manifest" raw.manifest.validate ++
      listErrors "inputs" SkillInputSpec.validate raw.inputs ++
      listErrors "outputs" SkillOutputSpec.validate raw.outputs ++
      errorsUnder "permission_profile" raw.permissionProfile.validate ++
      listErrors "dependencies" SkillDependencyRecord.validate raw.dependencies ++
      listErrors "activation_rules" SkillActivationRule.validate raw.activationRules ++
      optionErrors "activation_request" SkillActivationRequest.validate raw.activationRequest ++
      optionErrors "activation_decision" SkillActivationDecision.validate
        raw.activationDecision ++
      optionErrors "activation_record" SkillActivationRecord.validate raw.activationRecord)
    raw.normalized
  -- the three validators in front, for inputs and outputs, for a request of an active skill and
  -- for disabled skills, complain about nothing
  envelope.executionRequiresApprovedDecision
  envelope.activationDecisionMatchesRequest
  envelope.activationRecordMatchesRequest
  return envelope

instance : Schema SkillEnvelope := ⟨fun _ => validate⟩

end SkillEnvelope

section Approval

variable (envelope : SkillEnvelope) (record : SkillActivationRecord)

/-- An approved decision on the record's own request, for the manifest's own
skill, and the skill is not disabled. -/
structure OwnApproval : Prop where
  approved : ∃ decision ∈ envelope.activationDecision,
    decision.approved = true ∧ decision.activationRequestId = record.activationRequestId
  record : record.skillId = envelope.manifest.skillId
  request : ∀ request ∈ envelope.activationRequest, request.skillId = envelope.manifest.skillId
  enabled : envelope.manifest.status ≠ .disabled

/-- What no validator makes sure of. -/
structure UncheckedApproval : Prop where
  sameRequest : envelope.activationRequest = none →
    ∀ decision ∈ envelope.activationDecision,
      decision.activationRequestId = record.activationRequestId
  record : record.skillId = envelope.manifest.skillId
  request : ∀ request ∈ envelope.activationRequest, request.skillId = envelope.manifest.skillId
  enabled : envelope.manifest.status ≠ .disabled

variable {record}

theorem approved_of_ran (envelope : Accepted SkillEnvelope)
    (hrecord : record ∈ envelope.1.activationRecord)
    (hran : record.activationStatus ∈ LOADED_OR_EXECUTED) :
    ∃ decision ∈ envelope.1.activationDecision, decision.approved = true ∧
      ∀ request ∈ envelope.1.activationRequest,
        decision.activationRequestId = record.activationRequestId := by
  obtain ⟨tables, raw, h⟩ := envelope.2
  change raw.validate = .ok envelope.1 at h
  simp only [SkillEnvelope.validate, bind_eq_ok, fields_eq_ok,
    SkillEnvelope.executionRequiresApprovedDecision,
    SkillEnvelope.activationDecisionMatchesRequest, SkillEnvelope.activationRecordMatchesRequest,
    whenever_eq_ok, require_eq_ok, pure_eq_ok] at h
  obtain ⟨checked, -, _, happroved, _, hdecision, _, hrecordMatch, hchecked⟩ := h
  subst hchecked
  obtain ⟨_, hsome, hall⟩ := happroved ⟨record, hrecord, hran⟩
  obtain ⟨decision, hdec⟩ := Option.ne_none_iff_exists'.mp hsome
  refine ⟨decision, hdec, hall decision hdec, fun request hrequest => ?_⟩
  rw [hdecision request hrequest decision hdec, hrecordMatch request hrequest record hrecord]

/-- A skill that was loaded or executed has its own approval exactly when the
unchecked part holds too. -/
theorem own_approval_iff (envelope : Accepted SkillEnvelope)
    (hrecord : record ∈ envelope.1.activationRecord)
    (hran : record.activationStatus ∈ LOADED_OR_EXECUTED) :
    OwnApproval envelope.1 record ↔ UncheckedApproval envelope.1 record := by
  obtain ⟨decision, hdecision, happroved, hmatch⟩ := approved_of_ran envelope hrecord hran
  constructor
  · intro h
    refine ⟨fun _ other hother => ?_, h.record, h.request, h.enabled⟩
    obtain ⟨own, hown, -, hsame⟩ := h.approved
    rwa [Option.mem_unique hother hown]
  · intro h
    refine ⟨⟨decision, hdecision, happroved, ?_⟩, h.record, h.request, h.enabled⟩
    rcases hrequest : envelope.1.activationRequest with _ | request
    · exact h.sameRequest hrequest decision hdecision
    · exact hmatch request hrequest

end Approval

section Envelopes

def executed (skillId : String) : SkillActivationRecord where
  activationId := "act-001"
  skillId := skillId
  activationRequestId := "ar-001"
  activationStatus := .executed

def skillEnvelope (status : SkillStatus) (decidedRequest : String) (ran : String) :
    SkillEnvelope where
  envelopeId := "env-sk-001"
  manifest := { skillId := "sk-001", name := "Coding", version := "1.0.0", status := status }
  permissionProfile := { permissionProfileId := "pp-001" }
  activationDecision := some
    { decisionId := "ad-001"
      activationRequestId := decidedRequest
      approved := true
      decisionReason := "Skill active" }
  activationRecord := some (executed ran)

def ownSkill : Accepted SkillEnvelope :=
  build (skillEnvelope .active "ar-001" "sk-001") (by decide)

theorem own_approval_iff_ownSkill : OwnApproval ownSkill.1 (executed "sk-001") := by
  apply (own_approval_iff ownSkill (by decide) (by decide)).mpr
  exact ⟨by decide, by decide, by decide, by decide⟩

def otherDecision : Accepted SkillEnvelope :=
  build (skillEnvelope .active "ar-999" "sk-001") (by decide)

def otherSkill : Accepted SkillEnvelope :=
  build (skillEnvelope .active "ar-001" "sk-999") (by decide)

def disabledSkill : Accepted SkillEnvelope :=
  build (skillEnvelope .disabled "ar-001" "sk-001") (by decide)

/-- The decision may be on another request, the record of another skill, and
the skill disabled. -/
theorem executed_without_own_approval :
    ¬ OwnApproval otherDecision.1 (executed "sk-001") ∧
      ¬ OwnApproval otherSkill.1 (executed "sk-999") ∧
      ¬ OwnApproval disabledSkill.1 (executed "sk-001") := by
  refine ⟨fun h => ?_, fun h => ?_, fun h => ?_⟩
  · exact absurd h.approved (by decide)
  · exact absurd h.record (by decide)
  · exact absurd rfl h.enabled

end Envelopes

end NovaHarness.SkillActivation
