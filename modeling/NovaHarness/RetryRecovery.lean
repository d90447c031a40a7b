import Mathlib.Data.Finset.Card
import NovaHarness.RecordValidation

namespace NovaHarness.RetryRecovery

open NovaHarness.Text
open NovaHarness.RecordValidation

section Enumerations

inductive RetryStrategy where
  | none
  | fixed
  | linearBackoff
  | exponentialBackoff
  | manualRetry
  deriving DecidableEq, Repr

inductive RecoveryMode where
  | resumeFromCheckpoint
  | replayLastStep
  | replayFromIntent
  | handoffRecovery
  | manualRecovery
  | noRecovery
  deriving DecidableEq, Repr

inductive CompensationStatus where
  | notRequired
  | planned
  | inProgress
  | completed
  | failed
  | escalated
  deriving DecidableEq, Repr

inductive FailureDisposition where
  | retrying
  | recovered
  | compensated
  | escalated
  | aborted
  | terminated
  deriving DecidableEq, Repr

end Enumerations

section Records

structure FailureRecord where
  failureId : String
  scopeRef : String
  failureSummary : String
  sideEffectsPresent : Bool := false
  unknownState : Bool := false
  deriving DecidableEq, Repr

def FailureRecord.validate (raw : FailureRecord) : Validated FailureRecord :=
  fields
    (idField "failure_id" "failure_id must not be blank" raw.failureId ++
      idField "scope_ref" "scope_ref must not be blank" raw.scopeRef ++
      idField "failure_summary" "failure_summary must not be blank" raw.failureSummary)
    { raw with
      failureId := strip raw.failureId
      scopeRef := strip raw.scopeRef
      failureSummary := strip raw.failureSummary }

structure RetryPolicyRecord where
  retryPolicyId : String
  retryStrategy : RetryStrategy
  maxAttempts : Int := 3
  baseDelayMs : Int := 1000
  backoffScaleFactor : ℚ := 2
  maxDelayMs : Option Int := none
  deriving DecidableEq, Repr

namespace RetryPolicyRecord

def rules (policy : RetryPolicyRecord) : Validated Unit := do
  require (¬ (policy.retryStrategy = .none ∧ policy.maxAttempts ≠ 0))
    "retry_strategy=none requires max_attempts=0"
  require (¬ (policy.retryStrategy = .manualRetry ∧ policy.maxAttempts = 0))
    "manual_retry requires positive max_attempts"

def validate (raw : RetryPolicyRecord) : Validated RetryPolicyRecord :=
  twoLayers
    (idField "retry_policy_id" "retry_policy_id must not be blank" raw.retryPolicyId ++
      atLeast "max_attempts" "0" 0 raw.maxAttempts ++
      atLeast "base_delay_ms" "0" 0 raw.baseDelayMs ++
      atLeast "backoff_scale_factor" "1" 1 raw.backoffScaleFactor ++
      optionAtLeast "max_delay_ms" "0" 0 raw.maxDelayMs)
    { raw with retryPolicyId := strip raw.retryPolicyId }
    rules

end RetryPolicyRecord

structure RetryAttemptRecord where
  retryAttemptId : String
  failureId : String
  attemptNumber : Int := 1
  scheduledDelayMs : Int := 0
  deriving DecidableEq, Repr

def RetryAttemptRecord.validate (raw : RetryAttemptRecord) : Validated RetryAttemptRecord :=
  fields
    (idField "retry_attempt_id" "retry_attempt_id must not be blank" raw.retryAttemptId ++
      idField "failure_id" "failure_id must not be blank" raw.failureId ++
      atLeast "attempt_number" "1" 1 raw.attemptNumber ++
      atLeast "scheduled_delay_ms" "0" 0 raw.scheduledDelayMs)
    { raw with
      retryAttemptId := strip raw.retryAttemptId
      failureId := strip raw.failureId }

structure RecoveryPlanRecord where
  recoveryPlanId : String
  failureId : String
  recoveryMode : RecoveryMode
  checkpointRef : Option String := none
  intentStateRef : Option String := none
  deriving DecidableEq, Repr

namespace RecoveryPlanRecord

def rules (plan : RecoveryPlanRecord) : Validated Unit := do
  whenever (plan.recoveryMode = .resumeFromCheckpoint)
    (requireText plan.checkpointRef "resume_from_checkpoint requires checkpoint_ref")
  whenever (plan.recoveryMode = .replayFromIntent)
    (requireText plan.intentStateRef "replay_from_intent requires intent_state_ref")

def validate (raw : RecoveryPlanRecord) : Validated RecoveryPlanRecord :=
  twoLayers
    (idField "recovery_plan_id" "recovery_plan_id must not be blank" raw.recoveryPlanId ++
      idField "failure_id" "failure_id must not be blank" raw.failureId)
    { raw with
      recoveryPlanId := strip raw.recoveryPlanId
      failureId := strip raw.failureId }
    rules

end RecoveryPlanRecord

structure RecoveryExecutionRecord where
  recoveryExecutionId : String
  recoveryPlanId : String
  deriving DecidableEq, Repr

def RecoveryExecutionRecord.validate (raw : RecoveryExecutionRecord) :
    Validated RecoveryExecutionRecord :=
  fields
    (idField "recovery_execution_id" "recovery_execution_id must not be blank"
        raw.recoveryExecutionId ++
      idField "recovery_plan_id" "recovery_plan_id must not be blank" raw.recoveryPlanId)
    { recoveryExecutionId := strip raw.recoveryExecutionId
      recoveryPlanId := strip raw.recoveryPlanId }

structure CompensationActionRecord where
  compensationActionId : String
  failureId : String
  actionRef : String
  executionOrder : Int := 0
  retryPolicyRef : Option String := none
  status : CompensationStatus
  actionNotes : Option String := none
  deriving DecidableEq, Repr

namespace CompensationActionRecord

def rules (action : CompensationActionRecord) : Validated Unit := do
  -- a failed action without a retry policy only passes
  if action.status = .failed ∧ action.retryPolicyRef = none then .ok () else .ok ()
  whenever (action.status ∈ [CompensationStatus.inProgress, .failed])
    (requireText action.actionNotes "in_progress/failed compensation requires action_notes")

def validate (raw : CompensationActionRecord) : Validated CompensationActionRecord :=
  twoLayers
    (idField "compensation_action_id" "compensation_action_id must not be blank"
        raw.compensationActionId ++
      idField "failure_id" "failure_id must not be blank" raw.failureId ++
      idField "action_ref" "action_ref must not be blank" raw.actionRef ++
      atLeast "execution_order" "0" 0 raw.executionOrder)
    { raw with
      compensationActionId := strip raw.compensationActionId
      failureId := strip raw.failureId
      actionRef := strip raw.actionRef }
    rules

end CompensationActionRecord

structure CompensationPlanRecord where
  compensationPlanId : String
  failureId : String
  actions : List CompensationActionRecord := []
  planStatus : CompensationStatus
  deriving DecidableEq, Repr

namespace CompensationPlanRecord

def orders (plan : CompensationPlanRecord) : List Int :=
  plan.actions.map (·.executionOrder)

def rules (plan : CompensationPlanRecord) : Validated Unit := do
  require (plan.orders.length = plan.orders.toFinset.card)
    "compensation actions must have unique execution_order values"
  require (¬ (plan.actions ≠ [] ∧ plan.planStatus = .notRequired))
    "actions present but plan_status=not_required"

def errors (raw : CompensationPlanRecord) : List FieldError :=
  idField "compensation_plan_id" "compensation_plan_id must not be blank"
      raw.compensationPlanId ++
    idField "failure_id" "failure_id must not be blank" raw.failureId ++
    listErrors "actions" CompensationActionRecord.validate raw.actions

def normalized (raw : CompensationPlanRecord) : CompensationPlanRecord :=
  { raw with
    compensationPlanId := strip raw.compensationPlanId
    failureId := strip raw.failureId
    actions := listValues CompensationActionRecord.validate raw.actions }

def validate (raw : CompensationPlanRecord) : Validated CompensationPlanRecord :=
  twoLayers raw.errors raw.normalized rules

end CompensationPlanRecord

structure RetryRecoveryCompensationEnvelope where
  envelopeId : String
  failure : FailureRecord
  retryPolicy : Option RetryPolicyRecord := none
  retryAttempts : List RetryAttemptRecord := []
  recoveryPlan : Option RecoveryPlanRecord := none
  recoveryExecution : Option RecoveryExecutionRecord := none
  compensationPlan : Option CompensationPlanRecord := none
  failureDisposition : Option FailureDisposition := none
  deriving DecidableEq, Repr

namespace RetryRecoveryCompensationEnvelope

def noneStrategyNoAttempts (envelope : RetryRecoveryCompensationEnvelope) : Validated Unit :=
  require
    (¬ ((∃ policy ∈ envelope.retryPolicy, policy.retryStrategy = .none) ∧
      envelope.retryAttempts.length > 0))
    "retry_strategy=none but retry_attempts present"

def sideEffectsRequireCompensationOrExplicitWaiver
    (envelope : RetryRecoveryCompensationEnvelope) : Validated Unit :=
  if envelope.failure.sideEffectsPresent = true ∧ envelope.compensationPlan = none then
    if ∀ d ∈ envelope.failureDisposition,
        d ∉ [FailureDisposition.aborted, .terminated, .escalated] then
      -- it may not be decided yet
      .ok ()
    else .ok ()
  else .ok ()

def unknownStateBlocksSafeDispositions (envelope : RetryRecoveryCompensationEnvelope) :
    Validated Unit :=
  whenever (envelope.failure.unknownState = true)
    (require
      (¬ ∃ d ∈ envelope.failureDisposition, d ∈ [FailureDisposition.recovered, .compensated])
      "unknown_state cannot have recovered/compensated disposition")

def compensationFailuresRemainVisible (envelope : RetryRecoveryCompensationEnvelope) :
    Validated Unit :=
  require
    (¬ ∃ plan ∈ envelope.compensationPlan,
      (∃ a ∈ plan.actions, a.status = .failed) ∧ plan.planStatus = .completed)
    "compensation has failed actions but plan_status=completed"

def rules (envelope : RetryRecoveryCompensationEnvelope) : Validated Unit := do
  envelope.noneStrategyNoAttempts
  envelope.sideEffectsRequireCompensationOrExplicitWaiver
  envelope.unknownStateBlocksSafeDispositions
  envelope.compensationFailuresRemainVisible

def errors (raw : RetryRecoveryCompensationEnvelope) : List FieldError :=
  idField "envelope_id" "envelope_id must not be blank" raw.envelopeId ++
    errorsUnder "failure" raw.failure.validate ++
    optionErrors "retry_policy" RetryPolicyRecord.validate raw.retryPolicy ++
    listErrors "retry_attempts" RetryAttemptRecord.validate raw.retryAttempts ++
    optionErrors "recovery_plan" RecoveryPlanRecord.validate raw.recoveryPlan ++
    optionErrors "recovery_execution" RecoveryExecutionRecord.validate raw.recoveryExecution ++
    optionErrors "compensation_plan" CompensationPlanRecord.validate raw.compensationPlan

def normalized (raw : RetryRecoveryCompensationEnvelope) : RetryRecoveryCompensationEnvelope :=
  { raw with
    envelopeId := strip raw.envelopeId
    failure := valueD raw.failure.validate raw.failure
    retryPolicy := optionValue RetryPolicyRecord.validate raw.retryPolicy
    retryAttempts := listValues RetryAttemptRecord.validate raw.retryAttempts
    recoveryPlan := optionValue RecoveryPlanRecord.validate raw.recoveryPlan
    recoveryExecution := optionValue RecoveryExecutionRecord.validate raw.recoveryExecution
    compensationPlan := optionValue CompensationPlanRecord.validate raw.compensationPlan }

def validate (raw : RetryRecoveryCompensationEnvelope) :
    Validated RetryRecoveryCompensationEnvelope :=
  twoLayers raw.errors raw.normalized rules

instance : Schema RetryRecoveryCompensationEnvelope := ⟨fun _ => validate⟩

end RetryRecoveryCompensationEnvelope

end Records

open RetryRecoveryCompensationEnvelope

section Again

theorem stable_failureRecord : Stable FailureRecord.validate :=
  stable_fields (by simp) (by simp [strip_strip])

theorem stable_retryPolicyRecord : Stable RetryPolicyRecord.validate :=
  stable_twoLayers (by simp) (by simp [strip_strip])

theorem stable_retryAttemptRecord : Stable RetryAttemptRecord.validate :=
  stable_fields (by simp) (by simp [strip_strip])

theorem stable_recoveryPlanRecord : Stable RecoveryPlanRecord.validate :=
  stable_twoLayers (by simp) (by simp [strip_strip])

theorem stable_recoveryExecutionRecord : Stable RecoveryExecutionRecord.validate :=
  stable_fields (by simp) (by simp [strip_strip])

theorem stable_compensationActionRecord : Stable CompensationActionRecord.validate :=
  stable_twoLayers (by simp) (by simp [strip_strip])

theorem stable_compensationPlanRecord : Stable CompensationPlanRecord.validate := by
  refine stable_twoLayers (fun raw h => ?_) (fun raw h => ?_)
  · simp only [CompensationPlanRecord.errors, List.append_eq_nil_iff, idField_eq_nil,
      listErrors_eq_nil] at h ⊢
    obtain ⟨⟨hplan, hfailure⟩, hactions⟩ := h
    refine ⟨⟨by rwa [CompensationPlanRecord.normalized, isBlank_strip],
      by rwa [CompensationPlanRecord.normalized, isBlank_strip]⟩, fun a ha => ⟨a, ?_⟩⟩
    exact stable_compensationActionRecord.mem_listValues hactions a ha
  · simp only [CompensationPlanRecord.errors, List.append_eq_nil_iff, listErrors_eq_nil] at h
    simp only [CompensationPlanRecord.normalized, strip_strip,
      stable_compensationActionRecord.listValues_listValues h.2]

/-- The parts of an envelope, each by itself. -/
structure PartsAccepted (raw : RetryRecoveryCompensationEnvelope) : Prop where
  envelopeId : ¬ IsBlank raw.envelopeId
  failure : ∃ f, raw.failure.validate = .ok f
  retryPolicy : ∀ p ∈ raw.retryPolicy, ∃ a, p.validate = .ok a
  retryAttempts : ∀ r ∈ raw.retryAttempts, ∃ a, r.validate = .ok a
  recoveryPlan : ∀ p ∈ raw.recoveryPlan, ∃ a, p.validate = .ok a
  recoveryExecution : ∀ e ∈ raw.recoveryExecution, ∃ a, e.validate = .ok a
  compensationPlan : ∀ p ∈ raw.compensationPlan, ∃ a, p.validate = .ok a

theorem errors_eq_nil (raw : RetryRecoveryCompensationEnvelope) :
    raw.errors = [] ↔ PartsAccepted raw := by
  simp only [errors, List.append_eq_nil_iff, idField_eq_nil, errorsUnder_eq_nil,
    optionErrors_eq_nil, listErrors_eq_nil]
  constructor
  · rintro ⟨⟨⟨⟨⟨⟨hid, hf⟩, hp⟩, ha⟩, hr⟩, he⟩, hc⟩
    exact ⟨hid, hf, hp, ha, hr, he, hc⟩
  · rintro ⟨hid, hf, hp, ha, hr, he, hc⟩
    exact ⟨⟨⟨⟨⟨⟨hid, hf⟩, hp⟩, ha⟩, hr⟩, he⟩, hc⟩

/-- What the whole-record validators come down to. -/
structure RulesHold (envelope : RetryRecoveryCompensationEnvelope) : Prop where
  noneStrategy : ∀ policy ∈ envelope.retryPolicy,
    policy.retryStrategy = .none → envelope.retryAttempts = []
  unknownState : envelope.failure.unknownState = true →
    ∀ d ∈ envelope.failureDisposition, d ∉ [FailureDisposition.recovered, .compensated]
  failuresVisible : ∀ plan ∈ envelope.compensationPlan, plan.planStatus = .completed →
    ∀ a ∈ plan.actions, a.status ≠ .failed

theorem rules_eq_ok (envelope : RetryRecoveryCompensationEnvelope) :
    envelope.rules = .ok () ↔ RulesHold envelope := by
  simp only [rules, unit_bind_eq_ok, noneStrategyNoAttempts,
    sideEffectsRequireCompensationOrExplicitWaiver, unknownStateBlocksSafeDispositions,
    compensationFailuresRemainVisible, require_eq_ok, whenever_eq_ok, ite_self, true_and]
  constructor
  · rintro ⟨hnone, hunknown, hfailures⟩
    refine ⟨fun policy hp hstrategy => ?_, fun hstate d hd hsafe => ?_, ?_⟩
    · by_contra hne
      exact hnone ⟨⟨policy, hp, hstrategy⟩, List.length_pos_iff.mpr hne⟩
    · exact hunknown hstate ⟨d, hd, hsafe⟩
    · exact fun plan hp hcompleted a ha hfailed => hfailures ⟨plan, hp, ⟨a, ha, hfailed⟩, hcompleted⟩
  · rintro ⟨hnone, hunknown, hfailures⟩
    refine ⟨?_, ?_, ?_⟩
    · rintro ⟨⟨policy, hp, hstrategy⟩, hattempts⟩
      rw [hnone policy hp hstrategy] at hattempts
      exact absurd hattempts (by decide)
    · rintro hstate ⟨d, hd, hsafe⟩
      exact hunknown hstate d hd hsafe
    · rintro ⟨plan, hp, ⟨a, ha, hfailed⟩, hcompleted⟩
      exact hfailures plan hp hcompleted a ha hfailed

/-- The parts of an envelope that was returned: each is returned again. -/
structure PartsReturned (envelope : RetryRecoveryCompensationEnvelope) : Prop where
  filled : ¬ IsBlank envelope.envelopeId
  stripped : strip envelope.envelopeId = envelope.envelopeId
  failure : envelope.failure.validate = .ok envelope.failure
  retryPolicy : ∀ p ∈ envelope.retryPolicy, p.validate = .ok p
  retryAttempts : ∀ r ∈ envelope.retryAttempts, r.validate = .ok r
  recoveryPlan : ∀ p ∈ envelope.recoveryPlan, p.validate = .ok p
  recoveryExecution : ∀ e ∈ envelope.recoveryExecution, e.validate = .ok e
  compensationPlan : ∀ p ∈ envelope.compensationPlan, p.validate = .ok p

variable {raw envelope : RetryRecoveryCompensationEnvelope}

theorem returned_of_validate (h : raw.validate = .ok envelope) :
    PartsReturned envelope ∧ RulesHold envelope := by
  obtain ⟨⟨herrors, hrules⟩, rfl⟩ := (twoLayers_eq_ok _ _ _ _).mp h
  obtain ⟨hid, hf, hp, ha, hr, he, hc⟩ := (errors_eq_nil raw).mp herrors
  refine ⟨⟨?_, strip_strip _, stable_failureRecord.validate_valueD hf,
    stable_retryPolicyRecord.mem_optionValue hp, stable_retryAttemptRecord.mem_listValues ha,
    stable_recoveryPlanRecord.mem_optionValue hr,
    stable_recoveryExecutionRecord.mem_optionValue he,
    stable_compensationPlanRecord.mem_optionValue hc⟩, (rules_eq_ok _).mp hrules⟩
  rwa [normalized, isBlank_strip]

theorem validate_eq_self (hparts : PartsReturned envelope) (hrules : RulesHold envelope) :
    envelope.validate = .ok envelope := by
  obtain ⟨hid, hstrip, hf, hp, ha, hr, he, hc⟩ := hparts
  refine (twoLayers_eq_ok _ _ _ _).mpr
    ⟨⟨(errors_eq_nil envelope).mpr ?_, (rules_eq_ok envelope).mpr hrules⟩, ?_⟩
  · exact ⟨hid, ⟨_, hf⟩, fun p h => ⟨p, hp p h⟩, fun r h => ⟨r, ha r h⟩, fun p h => ⟨p, hr p h⟩,
      fun e h => ⟨e, he e h⟩, fun p h => ⟨p, hc p h⟩⟩
  · simp only [normalized, hstrip, hf, valueD_ok, optionValue_eq_self hp, listValues_eq_self ha,
      optionValue_eq_self hr, optionValue_eq_self he, optionValue_eq_self hc]

end Again

section Attempts

/-- The attempts stay within what the policy allows and belong to the failure. -/
structure WithinPolicy (envelope : RetryRecoveryCompensationEnvelope) : Prop where
  count : ∀ policy ∈ envelope.retryPolicy, envelope.retryAttempts.length ≤ policy.maxAttempts
  distinct : (envelope.retryAttempts.map (·.attemptNumber)).Nodup
  numbered : ∀ policy ∈ envelope.retryPolicy, ∀ r ∈ envelope.retryAttempts,
    r.attemptNumber ≤ policy.maxAttempts
  failure : ∀ r ∈ envelope.retryAttempts, r.failureId = envelope.failure.failureId

/-- What is checked of a policy and of the attempts. -/
structure AttemptsChecked (envelope : RetryRecoveryCompensationEnvelope) : Prop where
  none : ∀ policy ∈ envelope.retryPolicy, policy.retryStrategy = .none →
    policy.maxAttempts = 0 ∧ envelope.retryAttempts = []
  manual : ∀ policy ∈ envelope.retryPolicy, policy.retryStrategy = .manualRetry →
    1 ≤ policy.maxAttempts
  nonnegative : ∀ policy ∈ envelope.retryPolicy, 0 ≤ policy.maxAttempts
  numbered : ∀ r ∈ envelope.retryAttempts, 1 ≤ r.attemptNumber

variable {envelope : RetryRecoveryCompensationEnvelope}

theorem maxAttempts_of_validate {policy : RetryPolicyRecord} (h : policy.validate = .ok policy) :
    0 ≤ policy.maxAttempts ∧ (policy.retryStrategy = .none → policy.maxAttempts = 0) ∧
      (policy.retryStrategy = .manualRetry → 1 ≤ policy.maxAttempts) := by
  obtain ⟨⟨herrors, hrules⟩, -⟩ := (twoLayers_eq_ok _ _ _ _).mp h
  simp only [List.append_eq_nil_iff, atLeast_eq_nil] at herrors
  simp only [RetryPolicyRecord.rules, unit_bind_eq_ok, require_eq_ok] at hrules
  obtain ⟨⟨⟨⟨-, hnonneg⟩, -⟩, -⟩, -⟩ := herrors
  obtain ⟨hnone, hmanual⟩ := hrules
  refine ⟨hnonneg, fun hstrategy => ?_, fun hstrategy => ?_⟩
  · exact by_contra fun hne => hnone ⟨hstrategy, hne⟩
  · have hne : policy.maxAttempts ≠ 0 := fun hzero => hmanual ⟨hstrategy, hzero⟩
    omega

theorem attemptNumber_of_validate {r : RetryAttemptRecord} (h : r.validate = .ok r) :
    1 ≤ r.attemptNumber := by
  have herrors := ((fields_eq_ok _ _ _).mp h).1
  simp only [List.append_eq_nil_iff, atLeast_eq_nil] at herrors
  exact herrors.1.2

/-- Unless the policy allows no retry, the attempts are not compared with it: any
valid ones will do. -/
theorem attempts_checked (envelope : Accepted RetryRecoveryCompensationEnvelope) :
    AttemptsChecked envelope.1 ∧
      ((∀ policy ∈ envelope.1.retryPolicy, policy.retryStrategy ≠ .none) →
        ∀ attempts : List RetryAttemptRecord,
          (∀ r ∈ attempts, ∃ raw : RetryAttemptRecord, raw.validate = .ok r) →
            RetryRecoveryCompensationEnvelope.validate
                { envelope.1 with retryAttempts := attempts } =
              .ok { envelope.1 with retryAttempts := attempts }) := by
  obtain ⟨_, raw, h⟩ := envelope.2
  obtain ⟨hparts, hrules⟩ := returned_of_validate h
  constructor
  · refine ⟨fun policy hp hstrategy => ⟨?_, hrules.noneStrategy policy hp hstrategy⟩, ?_, ?_, ?_⟩
    · exact (maxAttempts_of_validate (hparts.retryPolicy policy hp)).2.1 hstrategy
    · exact fun policy hp => (maxAttempts_of_validate (hparts.retryPolicy policy hp)).2.2
    · exact fun policy hp => (maxAttempts_of_validate (hparts.retryPolicy policy hp)).1
    · exact fun r hr => attemptNumber_of_validate (hparts.retryAttempts r hr)
  · intro hstrategy attempts hattempts
    have hreturned := stable_retryAttemptRecord.validate_eq_self hattempts
    refine validate_eq_self { hparts with retryAttempts := hreturned }
      { hrules with noneStrategy := fun policy hp hnone => ?_ }
    exact absurd hnone (hstrategy policy hp)

def anyFailure : FailureRecord where
  failureId := "f-1"
  scopeRef := "step-1"
  failureSummary := "The connection was lost."

def attempt (number : Int) (failureId : String) : RetryAttemptRecord where
  retryAttemptId := "ra-1"
  failureId := failureId
  attemptNumber := number

/-- Retries under a policy of three attempts. -/
def retriesOf (attempts : List RetryAttemptRecord) : RetryRecoveryCompensationEnvelope where
  envelopeId := "env-1"
  failure := anyFailure
  retryPolicy := some { retryPolicyId := "rp-1", retryStrategy := .fixed }
  retryAttempts := attempts

def noAttempt : Accepted RetryRecoveryCompensationEnvelope :=
  build (retriesOf []) (by decide)

theorem attempts_checked_noAttempt :
    (retriesOf [attempt 9 "f-2"]).validate = .ok (retriesOf [attempt 9 "f-2"]) := by
  refine (attempts_checked noAttempt).2 (by decide) [attempt 9 "f-2"] ?_
  simp only [List.forall_mem_singleton]
  exact ⟨attempt 9 "f-2", by decide⟩

def fourAttempts : Accepted RetryRecoveryCompensationEnvelope :=
  build (retriesOf ([1, 2, 3, 4].map (attempt · "f-1"))) (by decide)

def repeatedNumber : Accepted RetryRecoveryCompensationEnvelope :=
  build (retriesOf [attempt 1 "f-1", attempt 1 "f-1"]) (by decide)

def highNumber : Accepted RetryRecoveryCompensationEnvelope :=
  build (retriesOf [attempt 4 "f-1"]) (by decide)

def otherFailure : Accepted RetryRecoveryCompensationEnvelope :=
  build (retriesOf [attempt 1 "f-2"]) (by decide)

/-- There may be more attempts than the policy allows, of one number or of a
number beyond it, and for another failure. -/
theorem attempts_beyond_policy :
    ¬ WithinPolicy fourAttempts.1 ∧ ¬ WithinPolicy repeatedNumber.1 ∧
      ¬ WithinPolicy highNumber.1 ∧ ¬ WithinPolicy otherFailure.1 := by
  refine ⟨fun h => ?_, fun h => ?_, fun h => ?_, fun h => ?_⟩
  · exact absurd (h.count { retryPolicyId := "rp-1", retryStrategy := .fixed } rfl) (by decide)
  · exact absurd h.distinct (by decide)
  · exact absurd (h.numbered { retryPolicyId := "rp-1", retryStrategy := .fixed } rfl
      (attempt 4 "f-1") (by decide)) (by decide)
  · exact absurd (h.failure (attempt 1 "f-2") (by decide)) (by decide)

end Attempts

section Compensation

/-- What is called compensated is: the plan's actions, and the disposition's
plan. -/
structure CompensatedMeansCompensated (envelope : RetryRecoveryCompensationEnvelope) : Prop where
  actions : ∀ plan ∈ envelope.compensationPlan, plan.planStatus = .completed →
    ∀ a ∈ plan.actions, a.status = .completed ∨ a.status = .notRequired
  plan : envelope.failureDisposition = some .compensated →
    ∃ plan ∈ envelope.compensationPlan, plan.planStatus = .completed

/-- What is checked of the statuses. -/
structure CompensationChecked (envelope : RetryRecoveryCompensationEnvelope) : Prop where
  failuresVisible : ∀ plan ∈ envelope.compensationPlan, plan.planStatus = .completed →
    ∀ a ∈ plan.actions, a.status ≠ .failed
  required : ∀ plan ∈ envelope.compensationPlan, plan.actions ≠ [] →
    plan.planStatus ≠ .notRequired
  known : envelope.failureDisposition = some .compensated →
    envelope.failure.unknownState = false

theorem planStatus_of_validate {plan : CompensationPlanRecord} (h : plan.validate = .ok plan)
    (hactions : plan.actions ≠ []) : plan.planStatus ≠ .notRequired := by
  have hrules := rules_of_twoLayers h
  simp only [CompensationPlanRecord.rules, unit_bind_eq_ok, require_eq_ok] at hrules
  exact fun hstatus => hrules.2 ⟨hactions, hstatus⟩

/-- A disposition does not rest on the plan: without it the envelope is accepted
as well. -/
theorem compensation_checked (envelope : Accepted RetryRecoveryCompensationEnvelope) :
    CompensationChecked envelope.1 ∧
      RetryRecoveryCompensationEnvelope.validate { envelope.1 with compensationPlan := none } =
        .ok { envelope.1 with compensationPlan := none } := by
  obtain ⟨_, raw, h⟩ := envelope.2
  obtain ⟨hparts, hrules⟩ := returned_of_validate h
  constructor
  · refine ⟨hrules.failuresVisible, fun plan hp => ?_, fun hdisposition => ?_⟩
    · exact planStatus_of_validate (hparts.compensationPlan plan hp)
    · refine Bool.eq_false_iff.mpr fun hstate => ?_
      exact hrules.unknownState hstate _ hdisposition (by decide)
  · exact validate_eq_self { hparts with compensationPlan := by simp }
      { hrules with failuresVisible := by simp }

def plannedAction : CompensationActionRecord where
  compensationActionId := "ca-1"
  failureId := "f-1"
  actionRef := "undo-1"
  status := .planned

def completedPlan : Accepted RetryRecoveryCompensationEnvelope :=
  build
    { envelopeId := "env-1"
      failure := anyFailure
      compensationPlan := some
        { compensationPlanId := "cp-1"
          failureId := "f-1"
          actions := [plannedAction]
          planStatus := .completed } }
    (by decide)

def compensatedWithoutPlan : Accepted RetryRecoveryCompensationEnvelope :=
  build
    { envelopeId := "env-1", failure := anyFailure, failureDisposition := some .compensated }
    (by decide)

theorem compensated_need_not_be :
    ¬ CompensatedMeansCompensated completedPlan.1 ∧
      ¬ CompensatedMeansCompensated compensatedWithoutPlan.1 := by
  refine ⟨fun h => ?_, fun h => ?_⟩
  · exact absurd (h.actions _ rfl rfl plannedAction (by decide)) (by decide)
  · obtain ⟨plan, hplan, -⟩ := h.plan rfl
    exact absurd hplan (by simp [show compensatedWithoutPlan.1.compensationPlan = none from rfl])

end Compensation

end NovaHarness.RetryRecovery
