import NovaHarness.DriverRuns

namespace NovaHarness.TriggerOutcomes

open NovaHarness.Text
open NovaHarness.OrchestrationMachine
open NovaHarness.RecordValidation
open NovaHarness.Driver
open NovaHarness.DriverRuns

section Refusal

variable {d d' : StateDriver} {event : RunEvent} {guardResults : Option GuardResults}
  {now msg : String}

/-- The trigger looks at a guard that is reported false: the state is not
terminal, the event selects a transition, and the transition lists the guard. -/
def BlockedBy (d : StateDriver) (event : RunEvent) (guardResults : Option GuardResults)
    (g : TransitionGuard) : Prop :=
  d.currentStateId ∉ d.machine.terminalStates ∧
    ∃ t, d.machine.selects d.currentStateId event = some t ∧ g ∈ t.guards ∧
      (guardResults.getD []).lookup g.name = some false

def blockedRecord (d : StateDriver) (event : RunEvent) (g : TransitionGuard) (now : String) :
    TransitionRecord where
  fromState := d.currentStateId
  event := event
  toState := d.currentStateId
  timestamp := now
  guardResults := [(g.name, false)]
  decision := "blocked by guard: " ++ g.name

/-- A refused call leaves the driver as it is, or adds one record to its history. -/
theorem eq_or_blocked_of_trigger_error
    (h : d.trigger event guardResults now = (.error msg, d')) :
    (d' = d ∧ ∀ g, ¬ BlockedBy d event guardResults g) ∨
      ∃ g, BlockedBy d event guardResults g ∧
        d' = { d with history := d.history ++ [blockedRecord d event g now] } := by
  have houtcome := d.trigger_triggered event guardResults now
  rw [h] at houtcome
  cases houtcome with
  | terminal hterminal =>
      exact .inl ⟨rfl, fun g hblocked => hblocked.1 hterminal⟩
  | unmatched _ hnone =>
      refine .inl ⟨rfl, ?_⟩
      rintro g ⟨-, t, hselects, -⟩
      simp [hselects] at hnone
  | blocked hterminal t hselects g hg hfalse =>
      exact .inr ⟨g, ⟨hterminal, t, hselects, hg, hfalse⟩, rfl⟩

theorem trigger_of_terminal (hterminal : d.currentStateId ∈ d.machine.terminalStates) :
    d.trigger event guardResults now = (.error (d.terminalMsg event), d) := by
  rw [StateDriver.trigger, if_pos (d.isTerminal_iff.mpr hterminal)]

theorem drive_of_terminal (hterminal : d.currentStateId ∈ d.machine.terminalStates)
    (calls : List TriggerCall) : drive d calls = d := by
  induction calls with
  | nil => rfl
  | cons call calls ih =>
      have hafter : after d call = d := by
        rw [after, trigger_of_terminal hterminal]
      change drive (after d call) calls = d
      rw [hafter, ih]

theorem refused_trigger_atomic (d : StateDriver) :
    (∀ event guardResults now msg d',
      d.trigger event guardResults now = (.error msg, d') →
        d'.machine = d.machine ∧ d'.currentStateId = d.currentStateId ∧
        ((∃ g, BlockedBy d event guardResults g) →
          ∃ g, BlockedBy d event guardResults g ∧
            d'.history = d.history ++ [blockedRecord d event g now]) ∧
        ((¬ ∃ g, BlockedBy d event guardResults g) → d'.history = d.history)) ∧
    (d.currentStateId ∈ d.machine.terminalStates → ∀ calls : List TriggerCall,
      (∀ call : TriggerCall, ∃ msg,
        (drive d calls).trigger call.event call.guardResults call.now =
          (.error msg, drive d calls)) ∧
      (drive d calls).currentStateId = d.currentStateId ∧
      (drive d calls).history = d.history) := by
  refine ⟨?_, ?_⟩
  · intro event guardResults now msg d' h
    rcases eq_or_blocked_of_trigger_error h with ⟨rfl, hnone⟩ | ⟨g, hblocked, rfl⟩
    · exact ⟨rfl, rfl, fun ⟨g, hg⟩ => absurd hg (hnone g), fun _ => rfl⟩
    · exact ⟨rfl, rfl, fun _ => ⟨g, hblocked, rfl⟩, fun hnone => absurd ⟨g, hblocked⟩ hnone⟩
  · intro hterminal calls
    rw [drive_of_terminal hterminal calls]
    exact ⟨fun call => ⟨_, trigger_of_terminal hterminal⟩, rfl, rfl⟩

/-- A machine may list transitions out of a terminal state; no call takes them. -/
def reopening : OrchestrationStateMachine where
  machineId := "reopening"
  transitions := defaultTransitions ++
    [{ fromState := .failed, event := .retryAllowed, toState := .created, guards := retryBudget }]

theorem refused_trigger_atomic_reopening :
    (∃ msg d',
      ({ machine := reopening, currentStateId := .awaitingApproval } : StateDriver).trigger
          .approvalGranted (some [("approval_granted_if_required", false)]) "t0" =
        (.error msg, d') ∧
      d'.currentStateId = .awaitingApproval ∧ d'.history.length = 1) ∧
    ∀ calls : List TriggerCall,
      (drive { machine := reopening, currentStateId := .failed } calls).history = [] := by
  constructor
  · refine ⟨_, _, rfl, ?_⟩
    obtain ⟨-, hstate, hblocked, -⟩ :=
      (refused_trigger_atomic { machine := reopening, currentStateId := .awaitingApproval }).1
        .approvalGranted (some [("approval_granted_if_required", false)]) "t0" _ _ rfl
    obtain ⟨g, -, hhistory⟩ := hblocked ⟨_, by decide, _, rfl, List.mem_singleton_self _, rfl⟩
    exact ⟨hstate, by rw [hhistory]; rfl⟩
  · intro calls
    exact ((refused_trigger_atomic { machine := reopening, currentStateId := .failed }).2
      (by decide) calls).2.2

end Refusal

section Menu

variable {m : OrchestrationStateMachine} {resolved : GuardResults}

/-- The results report every guard the machine lists as true. -/
def GrantsAll (m : OrchestrationStateMachine) (resolved : GuardResults) : Prop :=
  ∀ t ∈ m.transitions, ∀ g ∈ t.guards, resolved.lookup g.name = some true

theorem eq_of_key_eq (hwf : m.WellFormed) {t t' : TransitionRule}
    (ht : t ∈ m.transitions) (ht' : t' ∈ m.transitions) (hkey : t'.key = t.key) : t' = t :=
  List.inj_on_of_nodup_map hwf.key_nodup ht' ht hkey

theorem availableEvents_nodup {d : StateDriver} (hwf : d.machine.WellFormed) :
    d.availableEvents.Nodup := by
  rw [StateDriver.availableEvents]
  split
  · exact List.nodup_nil
  · have hkeys : ((d.machine.transitions.filter fun t => t.fromState = d.currentStateId).map
        TransitionRule.key).Nodup :=
      (List.filter_sublist.map _).nodup hwf.key_nodup
    -- From one state the keys are the events.
    have hsame : (d.machine.transitions.filter fun t => t.fromState = d.currentStateId).map
        TransitionRule.key =
        ((d.machine.transitions.filter fun t => t.fromState = d.currentStateId).map
          (·.event)).map (Prod.mk d.currentStateId) := by
      rw [List.map_map]
      refine List.map_congr_left fun t ht => ?_
      have hfrom : t.fromState = d.currentStateId := by
        simpa using (List.mem_filter.mp ht).2
      rw [TransitionRule.key, hfrom]
      rfl
    rw [hsame] at hkeys
    exact hkeys.of_map

/-- With every guard granted, the machine has a step exactly for the events on
the menu. -/
theorem mem_availableEvents_iff_takes {d : StateDriver} {event : RunEvent}
    (hgrants : GrantsAll d.machine resolved) :
    event ∈ d.availableEvents ↔ ∃ s, d.machine.Takes d.currentStateId event resolved s := by
  rw [mem_availableEvents]
  constructor
  · rintro ⟨hterminal, t, hselects⟩
    have ht := (OrchestrationStateMachine.mem_of_selects hselects).1
    refine ⟨t.toState, hterminal, t, hselects, fun g hg => ?_, rfl⟩
    simp [hgrants t ht g hg]
  · rintro ⟨s, hterminal, t, hselects, -, -⟩
    exact ⟨hterminal, t, hselects⟩

theorem offered_iff_triggers (m : Accepted OrchestrationStateMachine) (d : StateDriver)
    (hmachine : d.machine = m.1) (resolved : GuardResults)
    (hgrants : GrantsAll d.machine resolved) (event : RunEvent) (now : String) :
    (event ∈ d.availableEvents ↔
      ∃ s d', d.trigger event (some resolved) now = (.ok s, d')) ∧
    (∀ s d', d.trigger event (some resolved) now = (.ok s, d') →
      d'.currentStateId = s ∧
        ∃ t ∈ d.machine.transitions, t.fromState = d.currentStateId ∧ t.event = event ∧
          t.toState = s ∧ ∀ t' ∈ d.machine.transitions,
            t'.fromState = d.currentStateId → t'.event = event → t' = t) ∧
    d.availableEvents.Nodup := by
  have hwf : d.machine.WellFormed := hmachine ▸ OrchestrationStateMachine.wellFormed m
  refine ⟨?_, ?_, availableEvents_nodup hwf⟩
  · rw [mem_availableEvents_iff_takes hgrants]
    constructor
    · rintro ⟨s, htakes⟩
      exact ⟨s, _, (d.trigger_eq_ok_iff ..).mpr ⟨htakes, rfl⟩⟩
    · rintro ⟨s, d', h⟩
      exact ⟨s, ((d.trigger_eq_ok_iff ..).mp h).1⟩
  · intro s d' h
    obtain ⟨⟨-, t, hselects, -, hto⟩, rfl⟩ := (d.trigger_eq_ok_iff ..).mp h
    obtain ⟨hmem, hfrom, hevent⟩ := OrchestrationStateMachine.mem_of_selects hselects
    refine ⟨rfl, t, hmem, hfrom, hevent, hto, fun t' ht' hfrom' hevent' => ?_⟩
    refine eq_of_key_eq hwf hmem ht' ?_
    rw [TransitionRule.key, TransitionRule.key, hfrom, hevent, hfrom', hevent']

theorem offered_iff_triggers_approval :
    ∃ m : Accepted OrchestrationStateMachine,
      let d : StateDriver := { machine := m.1, currentStateId := .awaitingApproval }
      let resolved := [("approval_granted_if_required", true), ("retry_budget_available", true)]
      d.availableEvents = [.approvalGranted, .approvalRejected, .cancelRun] ∧
        (.approvalGranted ∈ d.availableEvents ↔
          ∃ s d', d.trigger .approvalGranted (some resolved) "t0" = (.ok s, d')) := by
  refine ⟨⟨harnessV1, asciiTables, _, defaultMachine_harnessV1⟩, rfl, ?_⟩
  exact (offered_iff_triggers ⟨harnessV1, asciiTables, _, defaultMachine_harnessV1⟩
    { machine := harnessV1, currentStateId := .awaitingApproval } rfl _
    (show GrantsAll harnessV1 _ by unfold GrantsAll; decide) _ _).1

end Menu

end NovaHarness.TriggerOutcomes
