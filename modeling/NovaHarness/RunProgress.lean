import NovaHarness.ExecutionCycle
import NovaHarness.MachinePaths

namespace NovaHarness.RunProgress

open NovaHarness.OrchestrationMachine
open NovaHarness.Driver
open NovaHarness.DriverRuns
open NovaHarness.LabelledPaths
open NovaHarness.ExecutionCycle
open NovaHarness.TriggerOutcomes
open NovaHarness.MachinePaths

section Bound

/-- How far along a state is. -/
def rank : RunState → Nat
  | .created => 0
  | .assemblingPrompt => 1
  | .modelPending => 2
  | .modelCompleted => 3
  | .toolPending => 4
  | .awaitingApproval => 5
  | .toolRunning => 6
  | .verifying => 7
  | .retryPending => 8
  | .succeeded | .failed | .cancelled => 9

theorem rank_step :
    ∀ t ∈ defaultTransitions,
      rank t.fromState + 1 ≤ rank t.toState + 8 * (t.event == .retryAllowed).toNat := by
  decide

theorem rank_le (s : RunState) : rank s ≤ 9 := by
  cases s <;> decide

theorem steps_le {m : OrchestrationStateMachine} (hm : IsDefault m) (calls : List TriggerCall) :
    (stepEvents (runFrom m .created calls).history).length ≤
      8 * (stepEvents (runFrom m .created calls).history).count .retryAllowed + 9 := by
  have hpath : IsLogPath .created (allowedRecords (runFrom m .created calls))
      (runFrom m .created calls).currentStateId := runFrom_allowed_isLogPath calls
  have hbound := hpath.length_le rank (fun r => r.event == .retryAllowed) 8 <| by
    intro r hr
    obtain ⟨t, ht, hfrom, hevent, hto⟩ := hm.mem_of_takes (runFrom_allowed_takes calls r hr)
    rw [← hfrom, ← hevent, ← hto]
    exact rank_step t ht
  have hsteps : stepEvents (runFrom m .created calls).history =
      (allowedRecords (runFrom m .created calls)).map (·.event) := rfl
  have hlast := rank_le (runFrom m .created calls).currentStateId
  rw [hsteps, List.length_map, List.count, List.countP_map]
  change _ ≤ 8 * (allowedRecords (runFrom m .created calls)).countP
    (fun r => r.event == .retryAllowed) + 9
  omega

end Bound

section Longest

def rulesFor (keys : List (RunState × RunEvent)) : List TransitionRule :=
  keys.filterMap fun k => harnessV1.selects k.1 k.2

/-- From one retry to the next, with every step a run can take in between. -/
def lap : List TransitionRule :=
  rulesFor [(.retryPending, .retryAllowed), (.assemblingPrompt, .promptReady),
    (.modelPending, .modelResponseReceived), (.modelCompleted, .toolCallRequested),
    (.toolPending, .approvalRequired), (.awaitingApproval, .approvalGranted),
    (.toolRunning, .toolCompleted), (.verifying, .verificationFailedRetryable)]

/-- The start takes the place of the retry in the first lap. -/
def firstLap : List TransitionRule :=
  rulesFor [(.created, .startRun)] ++ lap.tail

def longest (k : Nat) : List TransitionRule :=
  firstLap ++ ((List.replicate k lap).flatten ++ rulesFor [(.retryPending, .cancelRun)])

theorem isPath_longest (k : Nat) :
    IsPath TransitionRule.fromState TransitionRule.toState .created (longest k) .cancelled := by
  have hfirst : IsPath TransitionRule.fromState TransitionRule.toState .created firstLap
      .retryPending := by decide
  have hlap : IsPath TransitionRule.fromState TransitionRule.toState .retryPending lap
      .retryPending := by decide
  have hcancel : IsPath TransitionRule.fromState TransitionRule.toState .retryPending
      (rulesFor [(.retryPending, .cancelRun)]) .cancelled := by decide
  exact hfirst.append ((hlap.replicate k).append hcancel)

theorem mem_longest {k : Nat} {t : TransitionRule} (h : t ∈ longest k) :
    t ∈ defaultTransitions ∧ t.fromState ∉ harnessV1.terminalStates := by
  have hfirst : ∀ t ∈ firstLap,
      t ∈ defaultTransitions ∧ t.fromState ∉ harnessV1.terminalStates := by decide
  have hlap : ∀ t ∈ lap,
      t ∈ defaultTransitions ∧ t.fromState ∉ harnessV1.terminalStates := by decide
  have hcancel : ∀ t ∈ rulesFor [(.retryPending, .cancelRun)],
      t ∈ defaultTransitions ∧ t.fromState ∉ harnessV1.terminalStates := by decide
  rcases List.mem_append.mp h with h | h
  · exact hfirst t h
  · rcases List.mem_append.mp h with h | h
    · obtain ⟨l, hl, ht⟩ := List.mem_flatten.mp h
      rw [List.eq_of_mem_replicate hl] at ht
      exact hlap t ht
    · exact hcancel t h

theorem leads_of_default {m : OrchestrationStateMachine} (hm : IsDefault m) {t : TransitionRule}
    (ht : t ∈ defaultTransitions) (hterminal : t.fromState ∉ harnessV1.terminalStates) :
    Leads m t := by
  rw [hm.eq_defaultParts]
  exact ⟨ht, hterminal⟩

theorem drive_default {m : OrchestrationStateMachine} (hm : IsDefault m)
    {start finish : RunState} {ts : List TransitionRule}
    (hmem : ∀ t ∈ ts, t ∈ defaultTransitions ∧ t.fromState ∉ harnessV1.terminalStates)
    (hpath : IsRulePath start ts finish) (history : List TransitionRecord) :
    drive { machine := m, currentStateId := start, history := history } (ts.map callFor) =
      { machine := m, currentStateId := finish, history := history ++ ts.map recordFor } := by
  have hwf : m.WellFormed := by
    rw [hm.eq_defaultParts]
    exact defaultParts_wellFormed _
  exact drive_path hwf (fun t ht => leads_of_default hm (hmem t ht).1 (hmem t ht).2) hpath history

theorem stepEvents_map_recordFor (ts : List TransitionRule) :
    stepEvents (ts.map recordFor) = ts.map (·.event) := by
  have hall : (ts.map recordFor).filter TransitionRecord.isAllowed = ts.map recordFor := by
    rw [List.filter_eq_self]
    intro r hr
    obtain ⟨t, -, rfl⟩ := List.mem_map.mp hr
    exact isAllowed_recordFor t
  rw [stepEvents, hall, List.map_map]
  rfl

theorem length_longest (k : Nat) : (longest k).length = 8 * k + 9 := by
  have hfirst : firstLap.length = 8 := by decide
  have hlap : lap.length = 8 := by decide
  have hcancel : (rulesFor [(.retryPending, .cancelRun)]).length = 1 := by decide
  rw [longest, List.length_append, List.length_append, List.length_flatten, List.map_replicate,
    List.sum_replicate_nat, hfirst, hlap, hcancel]
  omega

theorem count_longest (k : Nat) :
    ((longest k).map (·.event)).count .retryAllowed = k := by
  have hfirst : (firstLap.map (·.event)).count .retryAllowed = 0 := by decide
  have hlap : (lap.map (·.event)).count .retryAllowed = 1 := by decide
  have hcancel : ((rulesFor [(.retryPending, .cancelRun)]).map (·.event)).count .retryAllowed = 0 := by
    decide
  have hlaps : ((List.replicate k lap).flatten.map (·.event)).count .retryAllowed = k := by
    induction k with
    | zero => rfl
    | succ k ih =>
        rw [List.replicate_succ, List.flatten_cons, List.map_append, List.count_append, hlap, ih]
        omega
  rw [longest, List.map_append, List.map_append, List.count_append, List.count_append, hfirst,
    hlaps, hcancel]
  omega

/-- Retries are all that makes a run of a default machine long: it takes at most
eight steps for each and nine more, and for every number of retries some run
takes that many. -/
theorem retries_bound_steps (m : OrchestrationStateMachine) (hm : IsDefault m) :
    (∀ calls,
      (stepEvents (runFrom m .created calls).history).length ≤
        8 * (stepEvents (runFrom m .created calls).history).count .retryAllowed + 9) ∧
    ∀ k, ∃ calls,
      (stepEvents (runFrom m .created calls).history).count .retryAllowed = k ∧
        (stepEvents (runFrom m .created calls).history).length = 8 * k + 9 := by
  refine ⟨steps_le hm, fun k => ⟨(longest k).map callFor, ?_⟩⟩
  have hrun : runFrom m .created ((longest k).map callFor) = _ :=
    drive_default hm (fun t ht => mem_longest ht) (isPath_longest k) []
  rw [hrun, List.nil_append, stepEvents_map_recordFor, List.length_map]
  exact ⟨count_longest k, length_longest k⟩

theorem retries_bound_steps_harnessV1 :
    ∃ calls, (stepEvents (runFrom harnessV1 .created calls).history).count .retryAllowed = 3 ∧
      (stepEvents (runFrom harnessV1 .created calls).history).length = 33 :=
  (retries_bound_steps harnessV1 isDefault_harnessV1).2 3

end Longest

section Finish

/-- How many calls a run is away from a success, from where it can still have one. -/
def callsToSuccess : RunState → Option Nat
  | .created | .retryPending => some 5
  | .assemblingPrompt => some 4
  | .modelPending | .toolPending | .awaitingApproval => some 3
  | .modelCompleted | .toolRunning => some 2
  | .verifying => some 1
  | .succeeded => some 0
  | .failed | .cancelled => none

/-- The shortest way to a success. -/
def finish : RunState → List TransitionRule
  | .created => rulesFor [(.created, .startRun)] ++ fromPrompt
  | .retryPending => rulesFor [(.retryPending, .retryAllowed)] ++ fromPrompt
  | .assemblingPrompt => fromPrompt
  | .modelPending => fromPrompt.drop 1
  | .modelCompleted => fromPrompt.drop 2
  | .verifying => fromPrompt.drop 3
  | .toolPending => rulesFor [(.toolPending, .toolApprovedOrNotRequired)] ++ fromTool
  | .awaitingApproval => rulesFor [(.awaitingApproval, .approvalGranted)] ++ fromTool
  | .toolRunning => fromTool
  | .succeeded | .failed | .cancelled => []
where
  fromPrompt : List TransitionRule :=
    rulesFor [(.assemblingPrompt, .promptReady), (.modelPending, .modelResponseReceived),
      (.modelCompleted, .noToolNeeded), (.verifying, .verificationPassed)]
  fromTool : List TransitionRule :=
    rulesFor [(.toolRunning, .toolCompleted), (.verifying, .verificationPassed)]

theorem finish_leads (s : RunState) :
    ∀ t ∈ finish s, t ∈ defaultTransitions ∧ t.fromState ∉ harnessV1.terminalStates := by
  cases s <;> decide

theorem finish_spec {s : RunState} {n : Nat} (h : callsToSuccess s = some n) :
    IsRulePath s (finish s) .succeeded ∧ (finish s).length = n := by
  have hall : ∀ n ∈ callsToSuccess s, IsRulePath s (finish s) .succeeded ∧ (finish s).length = n := by
    cases s <;> decide
  exact hall n h

/-- One step brings a run at most one call closer. -/
theorem callsToSuccess_step :
    ∀ t ∈ defaultTransitions, ∀ n ∈ callsToSuccess t.toState,
      ∃ k ∈ callsToSuccess t.fromState, k ≤ n + 1 := by
  decide

variable {m : OrchestrationStateMachine}

theorem callsToSuccess_after (hm : IsDefault m) {d : StateDriver} (hmachine : d.machine = m)
    (call : TriggerCall) {n : Nat}
    (h : callsToSuccess (after d call).currentStateId = some n) :
    ∃ k, callsToSuccess d.currentStateId = some k ∧ k ≤ n + 1 := by
  have houtcome := d.trigger_triggered call.event call.guardResults call.now
  unfold after at h
  generalize d.trigger call.event call.guardResults call.now = result at houtcome h
  cases houtcome with
  | terminal => exact ⟨n, h, by omega⟩
  | unmatched => exact ⟨n, h, by omega⟩
  | blocked => exact ⟨n, h, by omega⟩
  | allowed s htakes =>
      obtain ⟨t, ht, hfrom, -, hto⟩ := hm.mem_of_takes (hmachine ▸ htakes)
      obtain ⟨k, hk, hle⟩ := callsToSuccess_step t ht n (hto ▸ h)
      exact ⟨k, hfrom ▸ hk, hle⟩

theorem callsToSuccess_drive (hm : IsDefault m) {d : StateDriver} (hmachine : d.machine = m)
    {calls : List TriggerCall} (h : (drive d calls).currentStateId = .succeeded) :
    ∃ k, callsToSuccess d.currentStateId = some k ∧ k ≤ calls.length := by
  induction calls generalizing d with
  | nil => exact ⟨0, by rw [show d.currentStateId = .succeeded from h]; rfl, le_rfl⟩
  | cons call calls ih =>
      have hmachine' : (after d call).machine = m := (continues_after d call).1.trans hmachine
      obtain ⟨n, hn, hle⟩ := ih hmachine' h
      obtain ⟨k, hk, hle'⟩ := callsToSuccess_after hm hmachine call hn
      exact ⟨k, hk, by rw [List.length_cons]; omega⟩

/-- Wherever a driver of a default machine is, a success is still to be had unless
it has failed or been cancelled; `callsToSuccess` says how many calls it takes,
and no choice of events or guard results needs fewer. -/
theorem succeeds_iff_calls_suffice (m : OrchestrationStateMachine) (hm : IsDefault m)
    (d : StateDriver) (hmachine : d.machine = m) (n : Nat) :
    (∃ calls : List TriggerCall, calls.length = n ∧ (drive d calls).currentStateId = .succeeded) ↔
      ∃ k, callsToSuccess d.currentStateId = some k ∧ k ≤ n := by
  constructor
  · rintro ⟨calls, rfl, h⟩
    exact callsToSuccess_drive hm hmachine h
  · rintro ⟨k, hk, hle⟩
    obtain ⟨hpath, hlength⟩ := finish_spec hk
    -- A call that comes after the success is refused.
    refine ⟨(finish d.currentStateId).map callFor ++
      List.replicate (n - k) { event := .startRun }, ?_, ?_⟩
    · rw [List.length_append, List.length_map, List.length_replicate, hlength]
      omega
    · have hfinish := drive_default hm (finish_leads d.currentStateId) hpath d.history
      have hd : d = { machine := m, currentStateId := d.currentStateId, history := d.history } := by
        rw [← hmachine]
      rw [drive, List.foldl_append]
      rw [drive, ← hd] at hfinish
      rw [hfinish]
      have hdone : RunState.succeeded ∈ m.terminalStates := by
        rw [hm.eq_defaultParts]
        exact List.mem_cons_self
      let d' : StateDriver :=
        { machine := m, currentStateId := .succeeded
          history := d.history ++ (finish d.currentStateId).map recordFor }
      have hstays : drive d' (List.replicate (n - k) { event := .startRun }) = d' :=
        drive_of_terminal hdone _
      exact congrArg StateDriver.currentStateId hstays

theorem succeeds_iff_calls_suffice_approval :
    let d : StateDriver := { machine := harnessV1, currentStateId := .awaitingApproval }
    (∃ calls : List TriggerCall, calls.length = 3 ∧ (drive d calls).currentStateId = .succeeded) ∧
      ¬ ∃ calls : List TriggerCall, calls.length = 2 ∧
        (drive d calls).currentStateId = .succeeded := by
  intro d
  constructor
  · exact (succeeds_iff_calls_suffice harnessV1 isDefault_harnessV1 d rfl 3).mpr
      ⟨3, rfl, le_rfl⟩
  · rw [succeeds_iff_calls_suffice harnessV1 isDefault_harnessV1 d rfl 2]
    rintro ⟨k, hk, hle⟩
    obtain rfl : 3 = k := Option.some.inj hk
    omega

end Finish

end NovaHarness.RunProgress
