import Mathlib.Algebra.Order.Group.Abs
import Mathlib.Tactic.Linarith
import NovaHarness.RecordValidation

namespace NovaHarness.BudgetEnvelopes

open NovaHarness.Text
open NovaHarness.RecordValidation

section Enumerations

inductive ResourceType where
  | tokens
  | computeTimeMs
  | wallClockMs
  | currencyCost
  | toolInvocations
  | networkCalls
  | parallelSlots
  | memoryMb
  deriving DecidableEq, Repr

inductive LimitSeverity where
  | soft
  | hard
  deriving DecidableEq, Repr

inductive OverrunDisposition where
  | continueWithWarning
  | throttle
  | requireApproval
  | reallocate
  | stopExecution
  deriving DecidableEq, Repr

end Enumerations

section Records

structure ExecutionBudgetEnvelope where
  budgetId : String
  scopeRef : String
  deriving DecidableEq, Repr

def ExecutionBudgetEnvelope.validate (raw : ExecutionBudgetEnvelope) :
    Validated ExecutionBudgetEnvelope :=
  fields
    (idField "budget_id" "budget_id must not be blank" raw.budgetId ++
      idField "scope_ref" "scope_ref must not be blank" raw.scopeRef)
    { budgetId := strip raw.budgetId
      scopeRef := strip raw.scopeRef }

structure ResourceBudgetLine where
  budgetLineId : String
  budgetId : String
  resourceType : ResourceType
  allocatedAmount : ℚ := 0
  reservedAmount : ℚ := 0
  consumedAmount : ℚ := 0
  remainingAmount : ℚ := 0
  unit : String
  deriving DecidableEq, Repr

namespace ResourceBudgetLine

def expectedRemaining (line : ResourceBudgetLine) : ℚ :=
  line.allocatedAmount - line.reservedAmount - line.consumedAmount

/-- The line is used beyond its allocation. -/
def Overrun (line : ResourceBudgetLine) : Prop :=
  line.reservedAmount + line.consumedAmount > line.allocatedAmount + 1 / 1000

instance (line : ResourceBudgetLine) : Decidable line.Overrun :=
  inferInstanceAs (Decidable (_ > _))

def rules (line : ResourceBudgetLine) : Validated Unit := do
  require (¬ |line.remainingAmount - line.expectedRemaining| > 1 / 1000)
    ("remaining_amount (" ++ toString line.remainingAmount ++
      ") != allocated - reserved - consumed (" ++ toString line.expectedRemaining ++ ")")
  -- an overrun is left to a decision of the envelope
  if line.Overrun then .ok () else .ok ()

def validate (raw : ResourceBudgetLine) : Validated ResourceBudgetLine :=
  -- that the amounts are finite needs no check of rationals
  twoLayers
    (idField "budget_line_id" "budget_line_id must not be blank" raw.budgetLineId ++
      idField "budget_id" "budget_id must not be blank" raw.budgetId ++
      atLeast "allocated_amount" "0" 0 raw.allocatedAmount ++
      atLeast "reserved_amount" "0" 0 raw.reservedAmount ++
      atLeast "consumed_amount" "0" 0 raw.consumedAmount ++
      idField "unit" "unit must not be blank" raw.unit)
    { raw with
      budgetLineId := strip raw.budgetLineId
      budgetId := strip raw.budgetId
      unit := strip raw.unit }
    rules

end ResourceBudgetLine

structure ResourceReservationRecord where
  reservationId : String
  budgetLineId : String
  reservedAmount : ℚ
  deriving DecidableEq, Repr

def ResourceReservationRecord.validate (raw : ResourceReservationRecord) :
    Validated ResourceReservationRecord :=
  fields
    (idField "reservation_id" "reservation_id must not be blank" raw.reservationId ++
      idField "budget_line_id" "budget_line_id must not be blank" raw.budgetLineId ++
      atLeast "reserved_amount" "0" 0 raw.reservedAmount)
    { raw with
      reservationId := strip raw.reservationId
      budgetLineId := strip raw.budgetLineId }

structure ResourceUsageRecord where
  usageId : String
  budgetLineId : String
  resourceType : ResourceType
  consumedAmount : ℚ
  deriving DecidableEq, Repr

def ResourceUsageRecord.validate (raw : ResourceUsageRecord) : Validated ResourceUsageRecord :=
  fields
    (idField "usage_id" "usage_id must not be blank" raw.usageId ++
      idField "budget_line_id" "budget_line_id must not be blank" raw.budgetLineId ++
      atLeast "consumed_amount" "0" 0 raw.consumedAmount)
    { raw with
      usageId := strip raw.usageId
      budgetLineId := strip raw.budgetLineId }

instance : Schema ResourceUsageRecord := ⟨fun _ => ResourceUsageRecord.validate⟩

structure BudgetThresholdPolicy where
  thresholdPolicyId : String
  budgetLineId : String
  limitSeverity : LimitSeverity
  thresholdValue : Option ℚ := none
  thresholdPercent : Option ℚ := none
  actionOnCross : String
  deriving DecidableEq, Repr

namespace BudgetThresholdPolicy

def rules (policy : BudgetThresholdPolicy) : Validated Unit := do
  require (¬ (policy.limitSeverity = .hard ∧ IsBlank policy.actionOnCross))
    "hard threshold must define action_on_cross"
  require (¬ (policy.thresholdValue = none ∧ policy.thresholdPercent = none))
    "must set threshold_value or threshold_percent"

def validate (raw : BudgetThresholdPolicy) : Validated BudgetThresholdPolicy :=
  twoLayers
    (idField "threshold_policy_id" "threshold_policy_id must not be blank"
        raw.thresholdPolicyId ++
      idField "budget_line_id" "budget_line_id must not be blank" raw.budgetLineId ++
      optionAtLeast "threshold_value" "0" 0 raw.thresholdValue ++
      andThen (optionAtLeast "threshold_percent" "0" 0 raw.thresholdPercent)
        (optionAtMost "threshold_percent" "100" 100 raw.thresholdPercent) ++
      idField "action_on_cross" "action_on_cross must not be blank" raw.actionOnCross)
    { raw with
      thresholdPolicyId := strip raw.thresholdPolicyId
      budgetLineId := strip raw.budgetLineId
      actionOnCross := strip raw.actionOnCross }
    rules

end BudgetThresholdPolicy

structure BudgetAlertRecord where
  alertId : String
  budgetLineId : String
  triggerValue : ℚ
  deriving DecidableEq, Repr

def BudgetAlertRecord.validate (raw : BudgetAlertRecord) : Validated BudgetAlertRecord :=
  fields
    (idField "alert_id" "alert_id must not be blank" raw.alertId ++
      idField "budget_line_id" "budget_line_id must not be blank" raw.budgetLineId ++
      atLeast "trigger_value" "0" 0 raw.triggerValue)
    { raw with
      alertId := strip raw.alertId
      budgetLineId := strip raw.budgetLineId }

structure BudgetDecisionRecord where
  decisionId : String
  budgetId : String
  overrunDisposition : OverrunDisposition
  approvedBy : Option String := none
  reallocatedFromBudgetId : Option String := none
  additionalAmount : Option ℚ := none
  effectiveUntil : Option String := none
  deriving DecidableEq, Repr

namespace BudgetDecisionRecord

def rules (decision : BudgetDecisionRecord) : Validated Unit := do
  whenever (decision.overrunDisposition = .reallocate)
    (requireText decision.reallocatedFromBudgetId
      "reallocate disposition must reference source budget")
  -- an approval that is still to be given only passes
  if decision.overrunDisposition = .requireApproval ∧ decision.approvedBy = none ∧
      decision.effectiveUntil ≠ none then .ok () else .ok ()

def validate (raw : BudgetDecisionRecord) : Validated BudgetDecisionRecord :=
  twoLayers
    (idField "decision_id" "decision_id must not be blank" raw.decisionId ++
      idField "budget_id" "budget_id must not be blank" raw.budgetId ++
      optionAtLeast "additional_amount" "0" 0 raw.additionalAmount)
    { raw with
      decisionId := strip raw.decisionId
      budgetId := strip raw.budgetId }
    rules

end BudgetDecisionRecord

structure BudgetResourceEnvelope where
  envelopeId : String
  budget : ExecutionBudgetEnvelope
  budgetLines : List ResourceBudgetLine := []
  reservations : List ResourceReservationRecord := []
  usageRecords : List ResourceUsageRecord := []
  thresholdPolicies : List BudgetThresholdPolicy := []
  alerts : List BudgetAlertRecord := []
  decisions : List BudgetDecisionRecord := []
  deriving DecidableEq, Repr

namespace BudgetResourceEnvelope

def validBudgetLineIds (envelope : BudgetResourceEnvelope) : List String :=
  envelope.budgetLines.map (·.budgetLineId)

/-- The check of a list of records that refer to lines. -/
def referencesKnown {α : Type} (known : List String) (what : String) (id lineId : α → String) :
    List α → Validated Unit :=
  forEach fun a =>
    require (lineId a ∈ known)
      (what ++ " '" ++ id a ++ "' references unknown budget_line '" ++ lineId a ++ "'")

/-- The check of a list of records that refer to the budget. -/
def referencesBudget {α : Type} (budget : String) (what : String) (id budgetId : α → String) :
    List α → Validated Unit :=
  forEach fun a =>
    require (budgetId a = budget)
      (what ++ " '" ++ id a ++ "' references budget '" ++ budgetId a ++
        "' != envelope budget '" ++ budget ++ "'")

def reservationsReferenceValidBudgetLines (envelope : BudgetResourceEnvelope) : Validated Unit :=
  envelope.reservations |>
    referencesKnown envelope.validBudgetLineIds "reservation" (·.reservationId) (·.budgetLineId)

def usageRecordsReferenceValidBudgetLines (envelope : BudgetResourceEnvelope) : Validated Unit :=
  envelope.usageRecords |>
    referencesKnown envelope.validBudgetLineIds "usage" (·.usageId) (·.budgetLineId)

def thresholdPoliciesReferenceValidBudgetLines (envelope : BudgetResourceEnvelope) :
    Validated Unit :=
  envelope.thresholdPolicies |>
    referencesKnown envelope.validBudgetLineIds "threshold policy" (·.thresholdPolicyId)
      (·.budgetLineId)

def alertsReferenceValidBudgetLines (envelope : BudgetResourceEnvelope) : Validated Unit :=
  envelope.alerts |>
    referencesKnown envelope.validBudgetLineIds "alert" (·.alertId) (·.budgetLineId)

def decisionsReferenceValidBudget (envelope : BudgetResourceEnvelope) : Validated Unit :=
  envelope.decisions |>
    referencesBudget envelope.budget.budgetId "decision" (·.decisionId) (·.budgetId)

def budgetLinesMatchEnvelopeBudgetId (envelope : BudgetResourceEnvelope) : Validated Unit :=
  envelope.budgetLines |>
    referencesBudget envelope.budget.budgetId "budget_line" (·.budgetLineId) (·.budgetId)

def rules (envelope : BudgetResourceEnvelope) : Validated Unit := do
  envelope.reservationsReferenceValidBudgetLines
  envelope.usageRecordsReferenceValidBudgetLines
  envelope.thresholdPoliciesReferenceValidBudgetLines
  envelope.alertsReferenceValidBudgetLines
  envelope.decisionsReferenceValidBudget
  envelope.budgetLinesMatchEnvelopeBudgetId

def normalized (raw : BudgetResourceEnvelope) : BudgetResourceEnvelope where
  envelopeId := strip raw.envelopeId
  budget := valueD raw.budget.validate raw.budget
  budgetLines := listValues ResourceBudgetLine.validate raw.budgetLines
  reservations := listValues ResourceReservationRecord.validate raw.reservations
  usageRecords := listValues ResourceUsageRecord.validate raw.usageRecords
  thresholdPolicies := listValues BudgetThresholdPolicy.validate raw.thresholdPolicies
  alerts := listValues BudgetAlertRecord.validate raw.alerts
  decisions := listValues BudgetDecisionRecord.validate raw.decisions

def validate (raw : BudgetResourceEnvelope) : Validated BudgetResourceEnvelope :=
  twoLayers
    (idField "envelope_id" "envelope_id must not be blank" raw.envelopeId ++
      errorsUnder "budget" raw.budget.validate ++
      listErrors "budget_lines" ResourceBudgetLine.validate raw.budgetLines ++
      listErrors "reservations" ResourceReservationRecord.validate raw.reservations ++
      listErrors "usage_records" ResourceUsageRecord.validate raw.usageRecords ++
      listErrors "threshold_policies" BudgetThresholdPolicy.validate raw.thresholdPolicies ++
      listErrors "alerts" BudgetAlertRecord.validate raw.alerts ++
      listErrors "decisions" BudgetDecisionRecord.validate raw.decisions)
    raw.normalized rules

instance : Schema BudgetResourceEnvelope := ⟨fun _ => validate⟩

end BudgetResourceEnvelope

end Records

open BudgetResourceEnvelope

section References

variable (envelope : BudgetResourceEnvelope)

/-- The lines that the records of an envelope refer to. -/
def lineReferences : List String :=
  envelope.reservations.map (·.budgetLineId) ++ envelope.usageRecords.map (·.budgetLineId) ++
    envelope.thresholdPolicies.map (·.budgetLineId) ++ envelope.alerts.map (·.budgetLineId)

def budgetReferences : List String :=
  envelope.decisions.map (·.budgetId) ++ envelope.budgetLines.map (·.budgetId)

def NamesOneLine (id : String) : Prop :=
  envelope.budgetLines.countP (fun line => line.budgetLineId = id) = 1

/-- An overrun is decided about, and the records refer to one line each, usage
to one of its own type. -/
structure NoSilentOverrun : Prop where
  decided : (∃ line ∈ envelope.budgetLines, line.Overrun) → envelope.decisions ≠ []
  distinct : envelope.validBudgetLineIds.Nodup
  one : ∀ id ∈ lineReferences envelope, NamesOneLine envelope id
  sameType : ∀ u ∈ envelope.usageRecords, ∀ line ∈ envelope.budgetLines,
    line.budgetLineId = u.budgetLineId → line.resourceType = u.resourceType

/-- The parts of an envelope, each by itself. -/
structure PartsAccepted : Prop where
  envelopeId : ¬ IsBlank envelope.envelopeId
  budget : ∃ b, envelope.budget.validate = .ok b
  budgetLines : ∀ line ∈ envelope.budgetLines, ∃ a, line.validate = .ok a
  reservations : ∀ r ∈ envelope.reservations, ∃ a, r.validate = .ok a
  usageRecords : ∀ u ∈ envelope.usageRecords, ∃ a, u.validate = .ok a
  thresholdPolicies : ∀ tp ∈ envelope.thresholdPolicies, ∃ a, tp.validate = .ok a
  alerts : ∀ a ∈ envelope.alerts, ∃ a', a.validate = .ok a'
  decisions : ∀ d ∈ envelope.decisions, ∃ a, d.validate = .ok a

/-- What the validators of the whole envelope ask for. -/
structure ReferencesClosed : Prop where
  lines : ∀ id ∈ lineReferences envelope, id ∈ envelope.validBudgetLineIds
  budget : ∀ id ∈ budgetReferences envelope, id = envelope.budget.budgetId

theorem rules_eq_ok : envelope.rules = .ok () ↔ ReferencesClosed envelope := by
  simp only [rules, unit_bind_eq_ok, reservationsReferenceValidBudgetLines,
    usageRecordsReferenceValidBudgetLines, thresholdPoliciesReferenceValidBudgetLines,
    alertsReferenceValidBudgetLines, decisionsReferenceValidBudget,
    budgetLinesMatchEnvelopeBudgetId, referencesKnown, referencesBudget, forEach_eq_ok,
    require_eq_ok]
  constructor
  · rintro ⟨hreservations, husage, hpolicies, halerts, hdecisions, hlines⟩
    constructor
    · simp only [lineReferences, List.forall_mem_append, List.forall_mem_map]
      exact ⟨⟨⟨hreservations, husage⟩, hpolicies⟩, halerts⟩
    · simp only [budgetReferences, List.forall_mem_append, List.forall_mem_map]
      exact ⟨hdecisions, hlines⟩
  · rintro ⟨hlines, hbudget⟩
    simp only [lineReferences, List.forall_mem_append, List.forall_mem_map] at hlines
    simp only [budgetReferences, List.forall_mem_append, List.forall_mem_map] at hbudget
    obtain ⟨⟨⟨hreservations, husage⟩, hpolicies⟩, halerts⟩ := hlines
    exact ⟨hreservations, husage, hpolicies, halerts, hbudget.1, hbudget.2⟩

theorem validate_eq_ok (raw envelope : BudgetResourceEnvelope) :
    raw.validate = .ok envelope ↔
      PartsAccepted raw ∧ ReferencesClosed envelope ∧ raw.normalized = envelope := by
  simp only [validate, twoLayers_eq_ok, rules_eq_ok, List.append_eq_nil_iff, idField_eq_nil,
    errorsUnder_eq_nil, listErrors_eq_nil]
  constructor
  · rintro ⟨⟨⟨⟨⟨⟨⟨⟨⟨hid, hb⟩, hl⟩, hr⟩, hu⟩, ht⟩, ha⟩, hd⟩, hclosed⟩, heq⟩
    exact ⟨⟨hid, hb, hl, hr, hu, ht, ha, hd⟩, hclosed, heq⟩
  · rintro ⟨⟨hid, hb, hl, hr, hu, ht, ha, hd⟩, hclosed, heq⟩
    exact ⟨⟨⟨⟨⟨⟨⟨⟨⟨hid, hb⟩, hl⟩, hr⟩, hu⟩, ht⟩, ha⟩, hd⟩, hclosed⟩, heq⟩

theorem exists_accepted_iff (envelope : BudgetResourceEnvelope) :
    (∃ accepted : Accepted BudgetResourceEnvelope, accepted.1 = envelope) ↔
      ∃ raw, PartsAccepted raw ∧ ReferencesClosed envelope ∧ raw.normalized = envelope := by
  constructor
  · rintro ⟨⟨_, _, raw, h⟩, rfl⟩
    exact ⟨raw, (validate_eq_ok raw _).mp h⟩
  · rintro ⟨raw, hraw⟩
    exact ⟨⟨envelope, asciiTables, raw, (validate_eq_ok raw envelope).mpr hraw⟩, rfl⟩

end References

section Accounts

/-- What a line says about its own amounts. -/
structure Balanced (line : ResourceBudgetLine) : Prop where
  allocated : 0 ≤ line.allocatedAmount
  reserved : 0 ≤ line.reservedAmount
  consumed : 0 ≤ line.consumedAmount
  remaining : |line.remainingAmount - line.expectedRemaining| ≤ 1 / 1000

theorem balanced_of_validate {raw line : ResourceBudgetLine} (h : raw.validate = .ok line) :
    Balanced line := by
  obtain ⟨⟨herrors, hrules⟩, hline⟩ := (twoLayers_eq_ok _ _ _ _).mp h
  simp only [List.append_eq_nil_iff, atLeast_eq_nil] at herrors
  obtain ⟨⟨⟨⟨-, hallocated⟩, hreserved⟩, hconsumed⟩, -⟩ := herrors
  rw [ResourceBudgetLine.rules, unit_bind_eq_ok, require_eq_ok, gt_iff_lt, not_lt] at hrules
  subst hline
  exact ⟨hallocated, hreserved, hconsumed, hrules.1⟩

/-- Nothing remains of a line that is used beyond its allocation. -/
theorem Balanced.remaining_neg {line : ResourceBudgetLine} (h : Balanced line)
    (hover : line.Overrun) : line.remainingAmount < 0 := by
  have hupper : line.remainingAmount - line.expectedRemaining ≤ 1 / 1000 :=
    (abs_le.mp h.remaining).2
  unfold ResourceBudgetLine.expectedRemaining at hupper
  unfold ResourceBudgetLine.Overrun at hover
  linarith

end Accounts

section Checked

/-- What is checked: a line that is overrun shows it, and a record refers to a
line of the envelope, which is the only one where no id is given twice. -/
structure ReferencesChecked (envelope : BudgetResourceEnvelope) : Prop where
  balanced : ∀ line ∈ envelope.budgetLines, Balanced line
  shown : ∀ line ∈ envelope.budgetLines, line.Overrun → line.remainingAmount < 0
  closed : ReferencesClosed envelope
  one : envelope.validBudgetLineIds.Nodup →
    ∀ id ∈ lineReferences envelope, NamesOneLine envelope id

theorem balanced (envelope : Accepted BudgetResourceEnvelope) :
    ∀ line ∈ envelope.1.budgetLines, Balanced line := by
  obtain ⟨raw, hparts, -, heq⟩ := (exists_accepted_iff _).mp ⟨envelope, rfl⟩
  intro line hline
  rw [← heq] at hline
  obtain ⟨_, -, hvalid⟩ := exists_of_mem_listValues hparts.budgetLines hline
  exact balanced_of_validate hvalid

theorem referencesClosed (envelope : Accepted BudgetResourceEnvelope) :
    ReferencesClosed envelope.1 := by
  obtain ⟨_, -, hclosed, -⟩ := (exists_accepted_iff _).mp ⟨envelope, rfl⟩
  exact hclosed

theorem stable_usage : Stable ResourceUsageRecord.validate :=
  stable_fields (by simp) (by simp [strip_strip])

/-- The lines are not compared with each other, so each may be listed twice. -/
theorem accepted_with_lines_twice (envelope : Accepted BudgetResourceEnvelope) :
    ∃ other : Accepted BudgetResourceEnvelope, other.1 =
      { envelope.1 with budgetLines := envelope.1.budgetLines ++ envelope.1.budgetLines } := by
  obtain ⟨raw, hparts, hclosed, heq⟩ := (exists_accepted_iff _).mp ⟨envelope, rfl⟩
  let twice : BudgetResourceEnvelope :=
    { raw with budgetLines := raw.budgetLines ++ raw.budgetLines }
  refine (exists_accepted_iff _).mpr ⟨twice, ?_, ?_, ?_⟩
  · have hlines : ∀ line ∈ raw.budgetLines ++ raw.budgetLines, ∃ a, line.validate = .ok a :=
      List.forall_mem_append.mpr ⟨hparts.budgetLines, hparts.budgetLines⟩
    exact { hparts with budgetLines := hlines }
  · constructor
    · intro id hid
      have hknown := hclosed.lines id hid
      simp only [validBudgetLineIds, List.map_append, List.mem_append] at hknown ⊢
      exact .inl hknown
    · intro id hid
      apply hclosed.budget
      simp only [budgetReferences, List.map_append, List.mem_append] at hid ⊢
      tauto
  · rw [← heq]
    simp only [twice, normalized, listValues, List.map_append]

/-- Of a usage only its line is looked up, whatever type of resource either
names. -/
theorem accepted_with_usage (envelope : Accepted BudgetResourceEnvelope)
    (usage : List (Accepted ResourceUsageRecord))
    (hknown : ∀ u ∈ usage, u.1.budgetLineId ∈ envelope.1.validBudgetLineIds) :
    ∃ other : Accepted BudgetResourceEnvelope, other.1 =
      { envelope.1 with usageRecords := usage.map (·.1) } := by
  obtain ⟨raw, hparts, hclosed, heq⟩ := (exists_accepted_iff _).mp ⟨envelope, rfl⟩
  have hagain : ∀ u ∈ usage.map (·.1), u.validate = .ok u := by
    simp only [List.forall_mem_map]
    exact fun u _ => stable_usage.of_accepted (fun _ _ => by rfl) u
  let used : BudgetResourceEnvelope := { raw with usageRecords := usage.map (·.1) }
  refine (exists_accepted_iff _).mpr ⟨used, ?_, ?_, ?_⟩
  · have husage : ∀ u ∈ usage.map (·.1), ∃ a, u.validate = .ok a :=
      fun u hu => ⟨u, hagain u hu⟩
    exact { hparts with usageRecords := husage }
  · constructor
    · have hlines := hclosed.lines
      simp only [lineReferences, List.forall_mem_append, List.forall_mem_map] at hlines ⊢
      obtain ⟨⟨⟨hreservations, -⟩, hpolicies⟩, halerts⟩ := hlines
      exact ⟨⟨⟨hreservations, hknown⟩, hpolicies⟩, halerts⟩
    · exact hclosed.budget
  · rw [← heq]
    simp only [used, normalized, listValues_eq_self hagain]

/-- What an accepted envelope keeps to, and what is left open about its lines
and its usage. -/
theorem references_checked (envelope : Accepted BudgetResourceEnvelope) :
    ReferencesChecked envelope.1 ∧
      (∃ other : Accepted BudgetResourceEnvelope, other.1 =
        { envelope.1 with budgetLines := envelope.1.budgetLines ++ envelope.1.budgetLines }) ∧
      ∀ usage : List (Accepted ResourceUsageRecord),
        (∀ u ∈ usage, u.1.budgetLineId ∈ envelope.1.validBudgetLineIds) →
          ∃ other : Accepted BudgetResourceEnvelope, other.1 =
            { envelope.1 with usageRecords := usage.map (·.1) } := by
  refine ⟨?_, accepted_with_lines_twice envelope, accepted_with_usage envelope⟩
  have hbalanced := balanced envelope
  have hclosed := referencesClosed envelope
  refine ⟨hbalanced, fun line hline => (hbalanced line hline).remaining_neg, hclosed, ?_⟩
  intro hnodup id hid
  exact (countP_eq_one_iff hnodup id).mpr (hclosed.lines id hid)

end Checked

section Silent

def lineOf (id : String) (resourceType : ResourceType) (consumed : ℚ) : ResourceBudgetLine where
  budgetLineId := id
  budgetId := "budget-1"
  resourceType := resourceType
  allocatedAmount := 10
  consumedAmount := consumed
  remainingAmount := 10 - consumed
  unit := "unit"

def envelopeOf (lines : List ResourceBudgetLine) (usage : List ResourceUsageRecord) :
    BudgetResourceEnvelope where
  envelopeId := "envelope-1"
  budget := { budgetId := "budget-1", scopeRef := "task-1" }
  budgetLines := lines
  usageRecords := usage

/-- Twice the tokens are consumed and nobody decided about it. -/
def overrunLine : Accepted BudgetResourceEnvelope :=
  build (envelopeOf [lineOf "line-1" .tokens 20] []) (by decide +kernel)

def sameId : Accepted BudgetResourceEnvelope :=
  build (envelopeOf [lineOf "line-1" .tokens 0, lineOf "line-1" .networkCalls 0] [])
    (by decide +kernel)

/-- Network calls are booked on a line of tokens. -/
def otherType : Accepted BudgetResourceEnvelope :=
  build
    (envelopeOf [lineOf "line-1" .tokens 0]
      [{ usageId := "usage-1"
         budgetLineId := "line-1"
         resourceType := .networkCalls
         consumedAmount := 3 }])
    (by decide +kernel)

theorem silent_overruns :
    ¬ NoSilentOverrun overrunLine.1 ∧ ¬ NoSilentOverrun sameId.1 ∧
      ¬ NoSilentOverrun otherType.1 := by
  refine ⟨fun h => ?_, fun h => ?_, fun h => ?_⟩
  · exact h.decided (by decide +kernel) (by decide +kernel)
  · exact absurd h.distinct (by decide +kernel)
  · exact absurd h.sameType (by decide +kernel)

end Silent

end NovaHarness.BudgetEnvelopes
