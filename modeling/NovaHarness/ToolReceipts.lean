import NovaHarness.RecordValidation
import NovaHarness.Timestamps

namespace NovaHarness.ToolReceipts

open NovaHarness.Text
open NovaHarness.RecordValidation
open NovaHarness.Timestamps

section Records

inductive InvocationStatus where
  | requested
  | executed
  | failed
  | timedOut
  | blocked
  | cancelled
  deriving DecidableEq, Repr

def InvocationStatus.value : InvocationStatus → String
  | .requested => "requested"
  | .executed => "executed"
  | .failed => "failed"
  | .timedOut => "timed_out"
  | .blocked => "blocked"
  | .cancelled => "cancelled"

inductive IntegrityMode where
  | none
  | hashOnly
  | signed
  | chained
  deriving DecidableEq, Repr

structure ToolInvocationRef where
  requestId : String
  runId : String
  agentId : String
  toolId : String
  action : String
  deriving DecidableEq, Repr

def ToolInvocationRef.validate (raw : ToolInvocationRef) : Validated ToolInvocationRef :=
  fields
    (filled "request_id" raw.requestId ++ filled "run_id" raw.runId ++
      filled "agent_id" raw.agentId ++ filled "tool_id" raw.toolId ++ filled "action" raw.action)
    { requestId := strip raw.requestId
      runId := strip raw.runId
      agentId := strip raw.agentId
      toolId := strip raw.toolId
      action := strip raw.action }

/-- `if v is not None and v < 0` raises. -/
def nonNegative (loc msg : String) (v : Option Int) : List FieldError :=
  check loc msg (∀ n ∈ v, ¬ n < 0)

structure ExecutionTiming where
  requestedAt : String
  startedAt : Option String := none
  completedAt : Option String := none
  durationMs : Option Int := none
  deriving DecidableEq, Repr

def ExecutionTiming.validate (raw : ExecutionTiming) : Validated ExecutionTiming :=
  fields
    (filled "requested_at" raw.requestedAt ++
      nonNegative "duration_ms" "duration_ms must be non-negative" raw.durationMs)
    { raw with requestedAt := strip raw.requestedAt }

structure ResultReference where
  resultRefId : String
  resultType : String
  itemCount : Option Int := none
  deriving DecidableEq, Repr

def ResultReference.validate (raw : ResultReference) : Validated ResultReference :=
  fields
    (filled "result_ref_id" raw.resultRefId ++ filled "result_type" raw.resultType ++
      nonNegative "item_count" "item_count must be non-negative" raw.itemCount)
    { raw with
      resultRefId := strip raw.resultRefId
      resultType := strip raw.resultType }

structure SideEffectSummary where
  targetRefs : List String := []
  summary : String
  deriving DecidableEq, Repr

def SideEffectSummary.validate (raw : SideEffectSummary) : Validated SideEffectSummary :=
  fields
    (check "target_refs" "target_refs must not contain blank entries"
        (∀ r ∈ raw.targetRefs.map strip, r ≠ "") ++
      nonBlank "summary" "summary must not be blank" raw.summary)
    { targetRefs := raw.targetRefs.map strip
      summary := strip raw.summary }

structure IntegrityMetadata where
  integrityMode : IntegrityMode := .none
  canonicalHash : Option String := none
  signatureRef : Option String := none
  previousReceiptHash : Option String := none
  deriving DecidableEq, Repr

def IntegrityMetadata.validate (raw : IntegrityMetadata) : Validated IntegrityMetadata := do
  whenever (raw.integrityMode = .signed)
    (requireText raw.signatureRef "SIGNED integrity mode requires a signature_ref")
  whenever (raw.integrityMode = .chained)
    (requireText raw.previousReceiptHash "CHAINED integrity mode requires previous_receipt_hash")
  whenever (raw.integrityMode = .hashOnly)
    (requireText raw.canonicalHash "HASH_ONLY integrity mode requires canonical_hash")
  return raw

structure ToolExecutionResult where
  status : InvocationStatus
  outcomeSummary : String
  resultReferences : List ResultReference := []
  sideEffects : List SideEffectSummary := []
  errorSummary : Option String := none
  deriving DecidableEq, Repr

namespace ToolExecutionResult

def normalized (raw : ToolExecutionResult) : ToolExecutionResult :=
  { raw with
    outcomeSummary := strip raw.outcomeSummary
    resultReferences := listValues ResultReference.validate raw.resultReferences
    sideEffects := listValues SideEffectSummary.validate raw.sideEffects }

def failureShouldHaveErrorInfo (result : ToolExecutionResult) : Validated Unit :=
  whenever (result.status ∈ [InvocationStatus.failed, .timedOut, .blocked])
    (requireText result.errorSummary
      ("status '" ++ result.status.value ++ "' requires an error_summary"))

def validate (raw : ToolExecutionResult) : Validated ToolExecutionResult :=
  twoLayers
    (nonBlank "outcome_summary" "outcome_summary must not be blank" raw.outcomeSummary ++
      listErrors "result_references" ResultReference.validate raw.resultReferences ++
      listErrors "side_effects" SideEffectSummary.validate raw.sideEffects)
    raw.normalized failureShouldHaveErrorInfo

end ToolExecutionResult

structure ToolInvocationReceipt where
  receiptId : String
  invocation : ToolInvocationRef
  timing : ExecutionTiming
  executionResult : ToolExecutionResult
  integrity : IntegrityMetadata := {}
  deriving DecidableEq, Repr

namespace ToolInvocationReceipt

def completedAtNotBeforeStartedAt (receipt : ToolInvocationReceipt) : Validated Unit :=
  match nonEmpty receipt.timing.startedAt, nonEmpty receipt.timing.completedAt with
  | some started, some completed =>
      require (¬ completed < started) "completed_at must not be earlier than started_at"
  | _, _ => .ok ()

def normalized (raw : ToolInvocationReceipt) : ToolInvocationReceipt where
  receiptId := strip raw.receiptId
  invocation := valueD raw.invocation.validate raw.invocation
  timing := valueD raw.timing.validate raw.timing
  executionResult := valueD raw.executionResult.validate raw.executionResult
  integrity := valueD raw.integrity.validate raw.integrity

def validate (raw : ToolInvocationReceipt) : Validated ToolInvocationReceipt :=
  twoLayers
    (filled "receipt_id" raw.receiptId ++
      errorsUnder "invocation" raw.invocation.validate ++
      errorsUnder "timing" raw.timing.validate ++
      errorsUnder "execution_result" raw.executionResult.validate ++
      errorsUnder "integrity" raw.integrity.validate)
    raw.normalized completedAtNotBeforeStartedAt

/-- The parts of a receipt, each by itself. -/
structure PartsAccepted (raw : ToolInvocationReceipt) : Prop where
  receiptId : ¬ IsBlank raw.receiptId
  invocation : ∃ i, raw.invocation.validate = .ok i
  timing : ∃ t, raw.timing.validate = .ok t
  executionResult : ∃ r, raw.executionResult.validate = .ok r
  integrity : ∃ i, raw.integrity.validate = .ok i

theorem exists_validate_iff (raw : ToolInvocationReceipt) :
    (∃ receipt, raw.validate = .ok receipt) ↔
      raw.PartsAccepted ∧ raw.normalized.completedAtNotBeforeStartedAt = .ok () := by
  simp only [validate, twoLayers_eq_ok, List.append_eq_nil_iff, filled_eq_nil, errorsUnder_eq_nil]
  constructor
  · rintro ⟨_, ⟨⟨⟨⟨⟨hid, hinvocation⟩, htiming⟩, hresult⟩, hintegrity⟩, htimes⟩, rfl⟩
    exact ⟨⟨hid, hinvocation, htiming, hresult, hintegrity⟩, htimes⟩
  · rintro ⟨⟨hid, hinvocation, htiming, hresult, hintegrity⟩, htimes⟩
    exact ⟨_, ⟨⟨⟨⟨⟨hid, hinvocation⟩, htiming⟩, hresult⟩, hintegrity⟩, htimes⟩, rfl⟩

end ToolInvocationReceipt

structure ReceiptEnvelope where
  envelopeId : String
  receipt : ToolInvocationReceipt
  deriving DecidableEq, Repr

def ReceiptEnvelope.validate (raw : ReceiptEnvelope) : Validated ReceiptEnvelope :=
  fields
    (filled "envelope_id" raw.envelopeId ++ errorsUnder "receipt" raw.receipt.validate)
    { envelopeId := strip raw.envelopeId
      receipt := valueD raw.receipt.validate raw.receipt }

end Records

section Chronology

variable (raw : ToolInvocationReceipt) (started completed : Timestamp)

/-- The receipt of an execution between two moments. -/
def timed : ToolInvocationReceipt :=
  { raw with
    timing :=
      { raw.timing with
        startedAt := some started.text
        completedAt := some completed.text } }

/-- Accepted exactly when the execution did not end before it began. -/
def ChronologyChecked : Prop :=
  (∃ receipt, (timed raw started completed).validate = .ok receipt) ↔
    started.instant ≤ completed.instant

/-- At equal local times it is the text behind the seconds that is compared. -/
structure TailsKeepOrder : Prop where
  east : started.offset.seconds < completed.offset.seconds → completed.tail < started.tail
  west : completed.offset.seconds < started.offset.seconds → ¬ completed.tail < started.tail
  level : completed.offset.seconds = started.offset.seconds → completed.TailsRankAlike started

/-- The clock that stands for the later one outruns its offset: in one format that of
the later local time, between the formats that of the later year, and in one year that
of the basic format. -/
def OffsetsKeepOrder : Prop :=
  if completed.format = started.format then
    if completed.localTime.seconds < started.localTime.seconds then
      completed.ClockOutruns started (completed.fractionValue < started.fractionValue)
    else if started.localTime.seconds < completed.localTime.seconds then
      started.ClockOutruns completed (started.fractionValue ≤ completed.fractionValue)
    else TailsKeepOrder started completed
  else if completed.localTime.year < started.localTime.year ∨
      completed.localTime.year = started.localTime.year ∧ completed.format = .extended then
    completed.ClockOutruns started (completed.fractionValue < started.fractionValue)
  else started.ClockOutruns completed (started.fractionValue ≤ completed.fractionValue)

variable {raw started completed}

theorem timing_timed {timing : ExecutionTiming} (h : raw.timing.validate = .ok timing) :
    (timed raw started completed).timing.validate = .ok
      { timing with
        startedAt := some started.text
        completedAt := some completed.text } := by
  obtain ⟨herrors, rfl⟩ := (fields_eq_ok _ _ _).mp h
  exact (fields_eq_ok _ _ _).mpr ⟨herrors, rfl⟩

theorem partsAccepted_timed (h : raw.PartsAccepted) :
    (timed raw started completed).PartsAccepted := by
  obtain ⟨hid, hinvocation, ⟨timing, htiming⟩, hresult, hintegrity⟩ := h
  exact ⟨hid, hinvocation, ⟨_, timing_timed htiming⟩, hresult, hintegrity⟩

theorem nonEmpty_text (t : Timestamp) : nonEmpty (some t.text) = some t.text :=
  Option.filter_some_pos (by simpa using t.text_ne_empty)

theorem times_timed_iff (h : raw.PartsAccepted) :
    (timed raw started completed).normalized.completedAtNotBeforeStartedAt = .ok () ↔
      ¬ completed.TextBefore started := by
  obtain ⟨timing, htiming⟩ := h.timing
  simp only [ToolInvocationReceipt.completedAtNotBeforeStartedAt,
    ToolInvocationReceipt.normalized, timing_timed htiming, valueD_ok, nonEmpty_text,
    require_eq_ok, Timestamp.text_lt_iff]

theorem tailsKeepOrder_iff (h : completed.localTime = started.localTime) :
    TailsKeepOrder started completed ↔
      (completed.tail < started.tail ↔ completed.instant < started.instant) := by
  rw [Timestamp.instant_lt_iff, Timestamp.ClockOutruns, h, sub_self]
  constructor
  · rintro ⟨heast, hwest, hlevel⟩
    rcases lt_trichotomy completed.offset.seconds started.offset.seconds with hlt | heq | hgt
    · have hfirst : ¬ started.offset.seconds - completed.offset.seconds < 0 := by omega
      have hsecond : ¬ started.offset.seconds - completed.offset.seconds = 0 := by omega
      simp only [hwest hlt, hfirst, hsecond, false_and, or_self]
    · simp [Timestamp.tailsRankAlike_iff.mpr (hlevel heq), heq]
    · have hfirst : started.offset.seconds - completed.offset.seconds < 0 := by omega
      simp only [heast hgt, hfirst, true_or]
  · intro hiff
    refine ⟨fun heast => ?_, fun hwest => ?_, fun hlevel => ?_⟩
    · exact hiff.mpr (.inl (by omega))
    · intro htail
      rcases hiff.mp htail with hlt | ⟨heq, -⟩
      · omega
      · omega
    · apply Timestamp.tailsRankAlike_iff.mp
      simpa [hlevel] using hiff

theorem offsetsKeepOrder_iff :
    OffsetsKeepOrder started completed ↔
      (completed.TextBefore started ↔ completed.instant < started.instant) := by
  unfold OffsetsKeepOrder Timestamp.TextBefore
  split
  · split
    · rename_i hlt
      simp only [hlt, true_or, true_iff, Timestamp.instant_lt_iff]
    · split
      · rename_i hnot hgt
        have hne : completed.localTime ≠ started.localTime := by
          intro heq
          rw [heq] at hgt
          exact lt_irrefl _ hgt
        simp only [hnot, hne, false_and, or_self, false_iff, not_lt, Timestamp.instant_le_iff]
      · rename_i hnot hnot'
        have heq : completed.localTime = started.localTime :=
          LocalTime.eq_iff_seconds.mpr (by omega)
        simp only [tailsKeepOrder_iff heq, heq, lt_irrefl, true_and, false_or]
  · split
    · rename_i hfirst
      simp only [hfirst, true_iff, Timestamp.instant_lt_iff]
    · rename_i hfirst
      simp only [hfirst, false_iff, not_lt, Timestamp.instant_le_iff]

def anyReceipt : ToolInvocationReceipt where
  receiptId := "rcpt-1"
  invocation :=
    { requestId := "req-1", runId := "run-1", agentId := "agent-1", toolId := "tool-1",
      action := "execute" }
  timing := { requestedAt := "2026-07-04T08:00:00Z" }
  executionResult := { status := .executed, outcomeSummary := "done" }

theorem anyReceipt_parts : anyReceipt.PartsAccepted :=
  ⟨by decide, ⟨anyReceipt.invocation, by decide⟩, ⟨anyReceipt.timing, by decide⟩,
    ⟨anyReceipt.executionResult, by decide⟩, ⟨anyReceipt.integrity, by decide⟩⟩

def morningAt (hour : Fin 24) (offset : Offset) : Timestamp where
  format := .extended
  localTime := ⟨2026, 7, 4, hour, 0, 0, by decide, by decide, by decide, by decide, by decide,
    hour.isLt, by decide, by decide⟩
  offset := offset

/-- Timestamps in one notation are compared as they should be. -/
theorem offsetsKeepOrder_of_sameNotation (h : Timestamp.SameNotation completed started) :
    OffsetsKeepOrder started completed :=
  offsetsKeepOrder_iff.mpr (Timestamp.textBefore_iff_of_sameNotation h)

end Chronology

end NovaHarness.ToolReceipts
