import NovaHarness.ParallelJoins

/-!
The rules of a join are written twice: as field validators, which see the fields
before their own, and as methods of the finished envelope.
-/

namespace NovaHarness.JoinRecheck

open NovaHarness.Text
open NovaHarness.RecordValidation
open NovaHarness.ParallelJoinSchema
open NovaHarness.ParallelJoinSchema.ParallelJoinEnvelope
open NovaHarness.ParallelJoins

section Parts

theorem stable_parallelWorkRequest : Stable ParallelWorkRequest.validate :=
  stable_fields (by simp) (by simp [strip_strip])

theorem stable_branchAssignmentRecord : Stable BranchAssignmentRecord.validate :=
  stable_fields (by simp) (by simp [strip_strip])

theorem stable_branchOutputRecord : Stable BranchOutputRecord.validate :=
  stable_fields (by simp) (by simp [strip_strip])

theorem stable_branchConflictRecord : Stable BranchConflictRecord.validate :=
  stable_fields (by simp) (by simp [strip_strip])

theorem stable_joinRequirementRecord : Stable JoinRequirementRecord.validate :=
  stable_fields (by simp) (by simp [strip_strip])

theorem stable_joinExecutionRecord : Stable JoinExecutionRecord.validate :=
  stable_fields (by simp) (by simp [strip_strip])

theorem stable_mergeResultRecord : Stable MergeResultRecord.validate :=
  stable_fields (by simp) (by simp [strip_strip])

/-- The parts of an envelope that are what their own construction returned. -/
structure PartsValid (raw : ParallelJoinEnvelope) : Prop where
  envelopeId : ¬ IsBlank raw.envelopeId
  request : ∃ r : ParallelWorkRequest, r.validate = .ok raw.parallelRequest
  assignments : ∀ b ∈ raw.branchAssignments, ∃ r : BranchAssignmentRecord, r.validate = .ok b
  outputs : ∀ o ∈ raw.branchOutputs, ∃ r : BranchOutputRecord, r.validate = .ok o
  conflicts : ∀ c ∈ raw.conflicts, ∃ r : BranchConflictRecord, r.validate = .ok c
  requirements : ∃ r : JoinRequirementRecord, r.validate = .ok raw.joinRequirements
  execution : ∀ e ∈ raw.joinExecution, ∃ r : JoinExecutionRecord, r.validate = .ok e
  merge : ∀ m ∈ raw.mergeResult, ∃ r : MergeResultRecord, r.validate = .ok m

end Parts

section FieldChecks

variable (assignments : List BranchAssignmentRecord)

theorem assignmentErrors_eq_nil (h : ∀ b ∈ assignments, b.validate = .ok b) :
    assignmentErrors assignments = [] ↔
      assignments ≠ [] ∧ (assignments.map (·.branchId)).Nodup := by
  have hvalid : ∀ b ∈ assignments, ∃ a, b.validate = .ok a := fun b hb => ⟨b, h b hb⟩
  simp only [assignmentErrors, andThen_eq_nil, listErrors_eq_nil, minItems_eq_nil, check_eq_nil,
    listValues_eq_self h]
  constructor
  · rintro ⟨-, hone, hnodup, -⟩
    exact ⟨List.ne_nil_of_length_pos hone, hnodup⟩
  · rintro ⟨hne, hnodup⟩
    have hone : 1 ≤ assignments.length := List.length_pos_iff.mpr hne
    exact ⟨hvalid, hone, hnodup, by omega⟩

theorem unknownBranch_eq_ok (message : String → String) (branchIds : List String) :
    unknownBranch (some assignments) message branchIds = .ok () ↔
      ∀ bid ∈ branchIds, bid ∈ assignments.map (·.branchId) := by
  simp only [unknownBranch, forEach_eq_ok, require_eq_ok]

theorem outputErrors_eq_nil {outputs : List BranchOutputRecord}
    (h : ∀ o ∈ outputs, o.validate = .ok o) :
    outputErrors (some assignments) outputs = [] ↔
      ∀ o ∈ outputs, o.branchId ∈ assignments.map (·.branchId) := by
  have hvalid : ∀ o ∈ outputs, ∃ a, o.validate = .ok a := fun o ho => ⟨o, h o ho⟩
  rw [outputErrors, andThen_eq_nil, listErrors_eq_nil, fieldCheck_eq_nil, unknownBranch_eq_ok assignments,
    listValues_eq_self h, and_iff_right hvalid]
  exact List.forall_mem_map

theorem conflictErrors_eq_nil {conflicts : List BranchConflictRecord}
    (h : ∀ c ∈ conflicts, c.validate = .ok c) :
    conflictErrors (some assignments) conflicts = [] ↔
      ∀ c ∈ conflicts, ∀ bid ∈ c.branchIds, bid ∈ assignments.map (·.branchId) := by
  have hvalid : ∀ c ∈ conflicts, ∃ a, c.validate = .ok a := fun c hc => ⟨c, h c hc⟩
  rw [conflictErrors, andThen_eq_nil, listErrors_eq_nil, fieldCheck_eq_nil, unknownBranch_eq_ok assignments,
    listValues_eq_self h, and_iff_right hvalid]
  exact List.forall_mem_flatMap

theorem requirementErrors_eq_nil (request : ParallelWorkRequest) {req : JoinRequirementRecord}
    (h : req.validate = .ok req) :
    requirementErrors (some request) req = [] ↔
      checkCompletionCount req = .ok () ∧ checkFirstSuccess request.joinPolicy req = .ok () := by
  have hvalid : ∃ a, req.validate = .ok a := ⟨req, h⟩
  rw [requirementErrors, andThen_eq_nil, errorsUnder_eq_nil, fieldCheck_eq_nil,
    and_iff_right hvalid, h, valueD_ok]
  exact unit_bind_eq_ok _ _ _

theorem mergeErrors_eq_nil (execution : Option JoinExecutionRecord)
    {merge : Option MergeResultRecord} (h : ∀ m ∈ merge, m.validate = .ok m) :
    mergeErrors execution merge = [] ↔
      (merge ≠ none → checkMergeStatus execution = .ok ()) := by
  have hvalid : ∀ m ∈ merge, ∃ a, m.validate = .ok a := fun m hm => ⟨m, h m hm⟩
  rw [mergeErrors, andThen_eq_nil, optionErrors_eq_nil, fieldCheck_eq_nil, whenever_eq_ok,
    and_iff_right hvalid]

end FieldChecks

section Agreement

variable {raw : ParallelJoinEnvelope}

/-- No field validator complains, the earlier fields being there for the later
ones to look at. -/
structure FieldsAccepted (raw : ParallelJoinEnvelope) : Prop where
  envelopeId : ¬ IsBlank raw.envelopeId
  request : errorsUnder "parallel_request" raw.parallelRequest.validate = []
  assignments : assignmentErrors raw.branchAssignments = []
  outputs : outputErrors (some raw.normalized.branchAssignments) raw.branchOutputs = []
  conflicts : conflictErrors (some raw.normalized.branchAssignments) raw.conflicts = []
  requirements :
    requirementErrors (some raw.normalized.parallelRequest) raw.joinRequirements = []
  execution : optionErrors "join_execution" JoinExecutionRecord.validate raw.joinExecution = []
  merge : mergeErrors raw.normalized.joinExecution raw.mergeResult = []

theorem exists_validate_iff (raw : ParallelJoinEnvelope) :
    (∃ envelope, raw.validate = .ok envelope) ↔ FieldsAccepted raw := by
  simp only [validate, fields_eq_ok, List.append_eq_nil_iff, exists_and_left, exists_eq',
    and_true, idField_eq_nil]
  constructor
  · rintro ⟨⟨⟨⟨⟨⟨⟨hid, hrequest⟩, hassigned⟩, houtputs⟩, hconflicts⟩, hreq⟩, hexecution⟩, hmerge⟩
    rw [ifValid_eq_some hassigned] at houtputs hconflicts
    rw [ifValid_eq_some hrequest] at hreq
    rw [ifValid_eq_some hexecution] at hmerge
    exact ⟨hid, hrequest, hassigned, houtputs, hconflicts, hreq, hexecution, hmerge⟩
  · rintro ⟨hid, hrequest, hassigned, houtputs, hconflicts, hreq, hexecution, hmerge⟩
    rw [ifValid_eq_some hassigned, ifValid_eq_some hrequest, ifValid_eq_some hexecution]
    exact ⟨⟨⟨⟨⟨⟨⟨hid, hrequest⟩, hassigned⟩, houtputs⟩, hconflicts⟩, hreq⟩, hexecution⟩, hmerge⟩

/-- The references of an envelope: there are branches, each once, and nothing
names another one. -/
structure BranchesKnown (raw : ParallelJoinEnvelope) : Prop where
  assigned : raw.branchAssignments ≠ []
  nodup : (raw.branchAssignments.map (·.branchId)).Nodup
  outputs : ∀ o ∈ raw.branchOutputs, o.branchId ∈ raw.branchAssignments.map (·.branchId)
  conflicts : ∀ c ∈ raw.conflicts, ∀ bid ∈ c.branchIds,
    bid ∈ raw.branchAssignments.map (·.branchId)

/-- Apart from the id, construction leaves valid parts as they are. -/
theorem PartsValid.normalized_eq (hparts : PartsValid raw) :
    raw.normalized = { raw with envelopeId := strip raw.envelopeId } := by
  obtain ⟨-, ⟨request, hrequest⟩, hassignments, houtputs, hconflicts,
    ⟨requirements, hrequirements⟩, hexecution, hmerge⟩ := hparts
  simp only [normalized, stable_parallelWorkRequest _ _ hrequest,
    stable_joinRequirementRecord _ _ hrequirements, valueD_ok,
    listValues_eq_self (stable_branchAssignmentRecord.validate_eq_self hassignments),
    listValues_eq_self (stable_branchOutputRecord.validate_eq_self houtputs),
    listValues_eq_self (stable_branchConflictRecord.validate_eq_self hconflicts),
    optionValue_eq_self (stable_joinExecutionRecord.validate_eq_self hexecution),
    optionValue_eq_self (stable_mergeResultRecord.validate_eq_self hmerge)]

theorem PartsValid.fieldsAccepted_iff (hparts : PartsValid raw) :
    FieldsAccepted raw ↔ BranchesKnown raw ∧ raw.checkAllEnvelopeRules = .ok () := by
  obtain ⟨request, hrequest⟩ := hparts.request
  obtain ⟨requirements, hrequirements⟩ := hparts.requirements
  have hassignments := assignmentErrors_eq_nil raw.branchAssignments
    (stable_branchAssignmentRecord.validate_eq_self hparts.assignments)
  have houtputs := outputErrors_eq_nil raw.branchAssignments
    (stable_branchOutputRecord.validate_eq_self hparts.outputs)
  have hconflicts := conflictErrors_eq_nil raw.branchAssignments
    (stable_branchConflictRecord.validate_eq_self hparts.conflicts)
  have hreq := requirementErrors_eq_nil raw.parallelRequest
    (stable_joinRequirementRecord _ _ hrequirements)
  have hmerge := mergeErrors_eq_nil raw.joinExecution
    (stable_mergeResultRecord.validate_eq_self hparts.merge)
  rw [checkAllEnvelopeRules_eq_ok]
  constructor
  · intro h
    have houtputErrors := h.outputs
    have hconflictErrors := h.conflicts
    have hreqErrors := h.requirements
    have hmergeErrors := h.merge
    rw [hparts.normalized_eq] at houtputErrors hconflictErrors hreqErrors hmergeErrors
    obtain ⟨hsome, hnodup⟩ := hassignments.mp h.assignments
    obtain ⟨hcount, hfirst⟩ := hreq.mp hreqErrors
    exact ⟨⟨hsome, hnodup, houtputs.mp houtputErrors, hconflicts.mp hconflictErrors⟩, hcount,
      hfirst, hmerge.mp hmergeErrors⟩
  · rintro ⟨hknown, hcount, hfirst, hjoined⟩
    refine ⟨hparts.envelopeId, ?_, ?_, ?_, ?_, ?_, ?_, ?_⟩
    · exact (errorsUnder_eq_nil _ _).mpr ⟨_, stable_parallelWorkRequest _ _ hrequest⟩
    · exact hassignments.mpr ⟨hknown.assigned, hknown.nodup⟩
    · rw [hparts.normalized_eq]
      exact houtputs.mpr hknown.outputs
    · rw [hparts.normalized_eq]
      exact hconflicts.mpr hknown.conflicts
    · rw [hparts.normalized_eq]
      exact hreq.mpr ⟨hcount, hfirst⟩
    · refine (optionErrors_eq_nil _ _ _).mpr fun e he => ⟨e, ?_⟩
      exact stable_joinExecutionRecord.validate_eq_self hparts.execution e he
    · rw [hparts.normalized_eq]
      exact hmerge.mpr hjoined

/-- Construction accepts an envelope of valid parts if and only if it names its
own branches only and the methods find nothing wrong with it. -/
theorem validate_iff_recheck (raw : ParallelJoinEnvelope) (hparts : PartsValid raw) :
    ((∃ envelope, raw.validate = .ok envelope) ↔
      BranchesKnown raw ∧ raw.checkAllEnvelopeRules = .ok ()) ∧
    ∀ envelope : Accepted ParallelJoinEnvelope,
      envelope.1.checkAllEnvelopeRules = .ok () := by
  refine ⟨?_, checkAllEnvelopeRules_of_accepted⟩
  rw [exists_validate_iff]
  exact hparts.fieldsAccepted_iff

/-- A count above the number of required branches. -/
def askedTooMany : ParallelJoinEnvelope :=
  { mergedTooEarly.1 with
    joinRequirements := { mergedTooEarly.1.joinRequirements with
      requiredCompletionCount := some 2 } }

theorem validate_iff_recheck_askedTooMany :
    BranchesKnown askedTooMany ∧ askedTooMany.checkAllEnvelopeRules ≠ .ok () ∧
      ¬ ∃ envelope, askedTooMany.validate = .ok envelope := by
  have hassignments : ∀ b ∈ askedTooMany.branchAssignments, b.validate = .ok b := by decide
  have hexecution : ∀ e ∈ askedTooMany.joinExecution, e.validate = .ok e := by decide
  have hmerge : ∀ m ∈ askedTooMany.mergeResult, m.validate = .ok m := by decide
  have hparts : PartsValid askedTooMany :=
    { envelopeId := by decide
      request := ⟨askedTooMany.parallelRequest, by decide⟩
      assignments := fun b hb => ⟨b, hassignments b hb⟩
      outputs := fun o ho => absurd ho List.not_mem_nil
      conflicts := fun c hc => absurd hc List.not_mem_nil
      requirements := ⟨askedTooMany.joinRequirements, by decide⟩
      execution := fun e he => ⟨e, hexecution e he⟩
      merge := fun m hm => ⟨m, hmerge m hm⟩ }
  have hknown : BranchesKnown askedTooMany :=
    ⟨by decide, by decide, by decide, by decide⟩
  have hrejected : askedTooMany.checkAllEnvelopeRules ≠ .ok () := by decide
  refine ⟨hknown, hrejected, fun haccepted => ?_⟩
  exact hrejected ((validate_iff_recheck askedTooMany hparts).1.mp haccepted).2

end Agreement

end NovaHarness.JoinRecheck
