import NovaHarness.DriverRuns

namespace NovaHarness.ExecutionCycle

open NovaHarness.OrchestrationMachine
open NovaHarness.Driver
open NovaHarness.LabelledPaths
open NovaHarness.DriverRuns

def entersRunning (r : TransitionRecord) : Bool :=
  r.isAllowed && r.toState == .toolRunning

def retries (r : TransitionRecord) : Bool :=
  r.isAllowed && r.event == .retryAllowed

def stepEvents (rs : List TransitionRecord) : List RunEvent :=
  (rs.filter TransitionRecord.isAllowed).map (·.event)

/-- What has to have happened since the last execution for a run to be in a
state. -/
def sinceExecution : RunState → List RunEvent
  | .created => [.retryAllowed]
  | .assemblingPrompt => [.retryAllowed]
  | .modelPending => [.retryAllowed, .promptReady]
  | .modelCompleted => [.retryAllowed, .promptReady, .modelResponseReceived]
  | .toolPending => [.retryAllowed, .promptReady, .modelResponseReceived, .toolCallRequested]
  | .awaitingApproval =>
      [.retryAllowed, .promptReady, .modelResponseReceived, .toolCallRequested, .approvalRequired]
  | _ => []

/-- Whether the execution a run has had since its last retry still counts. -/
def executed : RunState → Nat
  | .created | .assemblingPrompt | .modelPending | .modelCompleted | .toolPending
  | .awaitingApproval => 0
  | _ => 1

theorem sinceExecution_step :
    ∀ t ∈ defaultTransitions,
      (sinceExecution t.toState).Sublist (sinceExecution t.fromState ++ [t.event]) := by
  decide

theorem executed_step :
    ∀ t ∈ defaultTransitions,
      (t.toState == .toolRunning).toNat + executed t.fromState ≤
        (t.event == .retryAllowed).toNat + executed t.toState := by
  decide

theorem running_step :
    ∀ t ∈ defaultTransitions, t.toState = .toolRunning →
      (t.fromState = .toolPending ∧ t.event = .toolApprovedOrNotRequired) ∨
        (t.fromState = .awaitingApproval ∧ t.event = .approvalGranted) := by
  decide

theorem succeeded_step :
    ∀ t ∈ defaultTransitions, t.toState = .succeeded →
      t.fromState = .verifying ∧ t.event = .verificationPassed := by
  decide

theorem executed_le_one (s : RunState) : executed s ≤ 1 := by
  cases s <;> decide

section DefaultRun

variable {m : OrchestrationStateMachine} (hm : IsDefault m) (calls : List TriggerCall)

include hm

theorem mem_defaultTransitions {start : RunState} {r : TransitionRecord}
    (hr : r ∈ (runFrom m start calls).history) (hallowed : r.isAllowed = true) :
    ∃ t ∈ defaultTransitions,
      t.fromState = r.fromState ∧ t.event = r.event ∧ t.toState = r.toState :=
  hm.mem_of_takes ((runFrom_loggedBy calls r hr).takes hallowed)

/-- The steps between two executions lead back to a state in which the tool is
pending or its approval is awaited. -/
theorem sinceExecution_between {start : RunState} {pre mid post : List TransitionRecord}
    {r₁ r₂ : TransitionRecord}
    (hhistory : (runFrom m start calls).history = pre ++ r₁ :: (mid ++ r₂ :: post))
    (hentry : r₁.toState = .toolRunning) :
    (sinceExecution r₂.fromState).Sublist (stepEvents mid) := by
  have hpath := @runFrom_isLogPath m start calls
  rw [hhistory] at hpath
  obtain ⟨-, -, -, hpath⟩ := isPath_append.mp hpath
  rw [hentry] at hpath
  obtain ⟨s, hmid, hfrom, -⟩ := isPath_append.mp hpath
  have hmem : ∀ r ∈ mid, r ∈ (runFrom m start calls).history := by
    intro r hr
    simp [hhistory, hr]
  have hsteps := hmid.filter TransitionRecord.isAllowed fun r hr hblocked =>
    (runFrom_loggedBy calls r (hmem r hr)).back hblocked
  rw [hfrom]
  refine hsteps.demand_sublist (·.event) sinceExecution ?_ (List.Sublist.refl [])
  intro r hr
  obtain ⟨hr, hallowed⟩ := List.mem_filter.mp hr
  obtain ⟨t, ht, hfrom, hevent, hto⟩ := mem_defaultTransitions hm calls (hmem r hr) hallowed
  rw [← hfrom, ← hevent, ← hto]
  exact sinceExecution_step t ht

theorem executions_le_retries :
    (runFrom m .created calls).history.countP entersRunning ≤
      1 + (runFrom m .created calls).history.countP retries := by
  have hbound := (@runFrom_allowed_isLogPath m .created calls).countP_le
    (fun r => r.toState == .toolRunning) (fun r => r.event == .retryAllowed) executed (by
      intro r hr
      obtain ⟨hmem, hallowed⟩ := List.mem_filter.mp hr
      obtain ⟨t, ht, hfrom, hevent, hto⟩ := mem_defaultTransitions hm calls hmem hallowed
      rw [← hfrom, ← hevent, ← hto]
      exact executed_step t ht)
  rw [allowedRecords, List.countP_filter, List.countP_filter] at hbound
  have hend := executed_le_one (runFrom m .created calls).currentStateId
  have hstart : executed .created = 0 := rfl
  simp only [Bool.and_comm _ (TransitionRecord.isAllowed _)] at hbound
  change List.countP entersRunning _ + _ ≤ List.countP retries _ + _ at hbound
  omega

end DefaultRun

/-- Between two executions a run goes through a retry, a prompt, a response, a
request and an approval of its own, so executions are bounded by retries. -/
theorem approval_not_reused {m : OrchestrationStateMachine} (hm : IsDefault m)
    (calls : List TriggerCall) :
    let history := (runFrom m .created calls).history
    (∀ pre r₁ mid r₂ post, history = pre ++ r₁ :: (mid ++ r₂ :: post) →
      entersRunning r₁ = true → entersRunning r₂ = true →
      List.Sublist [.retryAllowed, .promptReady, .modelResponseReceived, .toolCallRequested,
          .toolApprovedOrNotRequired] (stepEvents (mid ++ [r₂])) ∨
        List.Sublist [.retryAllowed, .promptReady, .modelResponseReceived, .toolCallRequested,
          .approvalRequired, .approvalGranted] (stepEvents (mid ++ [r₂]))) ∧
    history.countP entersRunning ≤ 1 + history.countP retries ∧
    ∀ r ∈ history, r.isAllowed = true → r.toState = .succeeded →
      r.fromState = .verifying ∧ r.event = .verificationPassed := by
  intro history
  refine ⟨?_, executions_le_retries hm calls, ?_⟩
  · intro pre r₁ mid r₂ post hhistory hentry₁ hentry₂
    simp only [entersRunning, Bool.and_eq_true, beq_iff_eq] at hentry₁ hentry₂
    have hsince := sinceExecution_between hm calls hhistory hentry₁.2
    obtain ⟨t, ht, hfrom, hevent, hto⟩ := mem_defaultTransitions hm calls
      (hhistory ▸ show r₂ ∈ pre ++ r₁ :: (mid ++ r₂ :: post) by simp) hentry₂.1
    have hlast : stepEvents (mid ++ [r₂]) = stepEvents mid ++ [r₂.event] := by
      simp [stepEvents, hentry₂.1]
    rw [hlast]
    rcases running_step t ht (hto.trans hentry₂.2) with ⟨hsource, hname⟩ | ⟨hsource, hname⟩
    · left
      rw [← hfrom, hsource] at hsince
      rw [← hevent, hname]
      exact hsince.append (List.Sublist.refl [RunEvent.toolApprovedOrNotRequired])
    · right
      rw [← hfrom, hsource] at hsince
      rw [← hevent, hname]
      exact hsince.append (List.Sublist.refl [RunEvent.approvalGranted])
  · intro r hr hallowed hsucceeded
    obtain ⟨t, ht, hfrom, hevent, hto⟩ := mem_defaultTransitions hm calls hr hallowed
    obtain ⟨hsource, hname⟩ := succeeded_step t ht (hto.trans hsucceeded)
    exact ⟨hfrom ▸ hsource, hevent ▸ hname⟩

def retriedRun : List TriggerCall :=
  [{ event := .startRun }, { event := .promptReady }, { event := .modelResponseReceived },
   { event := .toolCallRequested }, { event := .toolApprovedOrNotRequired },
   { event := .toolFailedRetryable }, { event := .retryAllowed }, { event := .promptReady },
   { event := .modelResponseReceived }, { event := .toolCallRequested },
   { event := .toolApprovedOrNotRequired }]

theorem approval_not_reused_retriedRun :
    ∃ pre r₁ mid r₂, (runFrom harnessV1 .created retriedRun).history =
        pre ++ r₁ :: (mid ++ [r₂]) ∧
      entersRunning r₁ = true ∧ entersRunning r₂ = true ∧
      (List.Sublist [.retryAllowed, .promptReady, .modelResponseReceived, .toolCallRequested,
          .toolApprovedOrNotRequired] (stepEvents (mid ++ [r₂])) ∨
        List.Sublist [.retryAllowed, .promptReady, .modelResponseReceived, .toolCallRequested,
          .approvalRequired, .approvalGranted] (stepEvents (mid ++ [r₂]))) := by
  let history := (runFrom harnessV1 .created retriedRun).history
  refine ⟨history.take 4, history.get ⟨4, by decide⟩, (history.drop 5).take 5,
    history.get ⟨10, by decide⟩, by decide, by decide, by decide, ?_⟩
  exact (approval_not_reused isDefault_harnessV1 retriedRun).1 (history.take 4)
    (history.get ⟨4, by decide⟩) ((history.drop 5).take 5) (history.get ⟨10, by decide⟩) []
    (by decide) (by decide) (by decide)

end NovaHarness.ExecutionCycle
