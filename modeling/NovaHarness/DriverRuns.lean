import NovaHarness.Driver
import NovaHarness.LabelledPaths

/-!
Runs of a driver: any finite sequence of trigger calls, accepted or rejected.
The history of a run is a path through the machine, so what holds along paths
holds of runs.
-/

namespace NovaHarness.DriverRuns

open NovaHarness.OrchestrationMachine
open NovaHarness.RecordValidation
open NovaHarness.Driver
open NovaHarness.LabelledPaths

structure TriggerCall where
  event : RunEvent
  guardResults : Option GuardResults := none
  now : String := ""

def after (d : StateDriver) (call : TriggerCall) : StateDriver :=
  (d.trigger call.event call.guardResults call.now).2

def drive (d : StateDriver) (calls : List TriggerCall) : StateDriver :=
  calls.foldl after d

abbrev IsLogPath : RunState → List TransitionRecord → RunState → Prop :=
  IsPath TransitionRecord.fromState TransitionRecord.toState

/-- What a history entry says about the machine: either it records a step of the
machine, or a rejection that left the state alone. -/
inductive LoggedBy (m : OrchestrationStateMachine) (r : TransitionRecord) : Prop
  | allowed (hdecision : r.isAllowed = true)
      (htakes : m.Takes r.fromState r.event r.guardResults r.toState)
  | blocked (hdecision : r.isAllowed = false) (hback : r.toState = r.fromState)

theorem LoggedBy.takes {m : OrchestrationStateMachine} {r : TransitionRecord}
    (h : LoggedBy m r) (hallowed : r.isAllowed = true) :
    m.Takes r.fromState r.event r.guardResults r.toState := by
  cases h with
  | allowed _ htakes => exact htakes
  | blocked hdecision => simp [hallowed] at hdecision

theorem LoggedBy.back {m : OrchestrationStateMachine} {r : TransitionRecord}
    (h : LoggedBy m r) (hblocked : r.isAllowed = false) : r.toState = r.fromState := by
  cases h with
  | allowed hdecision => simp [hblocked] at hdecision
  | blocked _ hback => exact hback

/-- One driver continues another: same machine, and the entries added to the
history lead from the old state to the new one. -/
def Continues (d d' : StateDriver) : Prop :=
  d'.machine = d.machine ∧ ∃ added, d'.history = d.history ++ added ∧
    IsLogPath d.currentStateId added d'.currentStateId ∧ ∀ r ∈ added, LoggedBy d.machine r

theorem Continues.refl (d : StateDriver) : Continues d d :=
  ⟨rfl, [], by simp, rfl, by simp⟩

theorem Continues.trans {d d' d'' : StateDriver} (h : Continues d d')
    (h' : Continues d' d'') : Continues d d'' := by
  obtain ⟨hmachine, added, hhistory, hpath, hlogged⟩ := h
  obtain ⟨hmachine', added', hhistory', hpath', hlogged'⟩ := h'
  refine ⟨hmachine'.trans hmachine, added ++ added', ?_, hpath.append hpath', ?_⟩
  · rw [hhistory', hhistory, List.append_assoc]
  · intro r hr
    rcases List.mem_append.mp hr with hr | hr
    · exact hlogged r hr
    · exact hmachine ▸ hlogged' r hr

theorem isAllowed_blocked (name : String) :
    ("blocked by guard: " ++ name == "allowed") = false := by
  rw [beq_eq_false_iff_ne]
  intro h
  have hhead := congrArg (fun s : String => s.toList.head?) h
  simp at hhead

theorem continues_after (d : StateDriver) (call : TriggerCall) :
    Continues d (after d call) := by
  have houtcome := d.trigger_triggered call.event call.guardResults call.now
  unfold after
  generalize d.trigger call.event call.guardResults call.now = result at houtcome
  cases houtcome with
  | terminal => exact .refl d
  | unmatched => exact .refl d
  | blocked _ t _ g =>
      refine ⟨rfl, _, rfl, ⟨rfl, rfl⟩, fun r hr => ?_⟩
      obtain rfl := List.mem_singleton.mp hr
      exact .blocked (isAllowed_blocked g.name) rfl
  | allowed s htakes =>
      refine ⟨rfl, _, rfl, ⟨rfl, rfl⟩, fun r hr => ?_⟩
      obtain rfl := List.mem_singleton.mp hr
      exact .allowed rfl htakes

theorem continues_drive (d : StateDriver) (calls : List TriggerCall) :
    Continues d (drive d calls) := by
  induction calls generalizing d with
  | nil => exact .refl d
  | cons call calls ih => exact (continues_after d call).trans (ih (after d call))

def allowedRecords (d : StateDriver) : List TransitionRecord :=
  d.history.filter TransitionRecord.isAllowed

section FromEmptyHistory

variable {m : OrchestrationStateMachine} {start : RunState} (calls : List TriggerCall)

abbrev runFrom (m : OrchestrationStateMachine) (start : RunState)
    (calls : List TriggerCall) : StateDriver :=
  drive { machine := m, currentStateId := start } calls

theorem runFrom_isLogPath :
    IsLogPath start (runFrom m start calls).history (runFrom m start calls).currentStateId := by
  obtain ⟨-, added, hhistory, hpath, -⟩ := continues_drive ⟨m, start, []⟩ calls
  simpa [hhistory] using hpath

theorem runFrom_loggedBy : ∀ r ∈ (runFrom m start calls).history, LoggedBy m r := by
  obtain ⟨-, added, hhistory, -, hlogged⟩ := continues_drive ⟨m, start, []⟩ calls
  simpa [hhistory] using hlogged

theorem runFrom_allowed_isLogPath :
    IsLogPath start (allowedRecords (runFrom m start calls))
      (runFrom m start calls).currentStateId :=
  (runFrom_isLogPath calls).filter _ fun r hr hblocked =>
    (runFrom_loggedBy calls r hr).back hblocked

theorem runFrom_allowed_takes :
    ∀ r ∈ allowedRecords (runFrom m start calls),
      m.Takes r.fromState r.event r.guardResults r.toState := by
  intro r hr
  obtain ⟨hmem, hallowed⟩ := List.mem_filter.mp hr
  exact (runFrom_loggedBy calls r hmem).takes hallowed

end FromEmptyHistory

section Replay

/-- Trigger the events of some records again, with the guard results they
recorded, and stop at the first one that is rejected. -/
def replay (now : String) : StateDriver → List TransitionRecord → Except String StateDriver
  | d, [] => .ok d
  | d, r :: rs =>
      match d.trigger r.event (some r.guardResults) now with
      | (.ok _, d') => replay now d' rs
      | (.error msg, _) => .error msg

theorem replay_isLogPath (now : String) {d : StateDriver} {rs : List TransitionRecord}
    {finish : RunState}
    (htakes : ∀ r ∈ rs, d.machine.Takes r.fromState r.event r.guardResults r.toState)
    (hpath : IsLogPath d.currentStateId rs finish) :
    ∃ d', replay now d rs = .ok d' ∧ d'.currentStateId = finish := by
  induction rs generalizing d with
  | nil => exact ⟨d, rfl, hpath⟩
  | cons r rs ih =>
      have hstep : d.trigger r.event (some r.guardResults) now =
          (.ok r.toState, d.taken r.event r.toState r.guardResults now) :=
        (d.trigger_eq_ok_iff ..).mpr ⟨hpath.1 ▸ htakes r (by simp), rfl⟩
      simp only [replay, hstep]
      exact ih (d := d.taken r.event r.toState r.guardResults now)
        (fun r' hr' => htakes r' (by simp [hr'])) hpath.2

theorem history_faithful (m : OrchestrationStateMachine) (start : RunState)
    (calls : List TriggerCall) :
    let d := runFrom m start calls
    ((∀ r, d.history.head? = some r → r.fromState = start) ∧
      d.history.IsChain (fun r r' => r'.fromState = r.toState) ∧
      d.currentStateId = (d.history.getLast?.map (·.toState)).getD start) ∧
    (∀ r ∈ d.history,
      (r.decision = "allowed" → ∃ t ∈ m.transitions, t.fromState = r.fromState ∧
        t.event = r.event ∧ t.toState = r.toState ∧
        ∀ g ∈ t.guards, r.guardResults.lookup g.name ≠ some false) ∧
      (r.decision ≠ "allowed" → r.toState = r.fromState)) ∧
    ∀ now, ∃ d', replay now { machine := m, currentStateId := start }
        (d.history.filter fun r => r.decision == "allowed") = .ok d' ∧
      d'.currentStateId = d.currentStateId := by
  intro d
  have hpath : IsLogPath start d.history d.currentStateId := runFrom_isLogPath calls
  refine ⟨⟨hpath.src_head, hpath.chain, hpath.eq_getLast⟩, fun r hr => ⟨?_, ?_⟩, fun now => ?_⟩
  · intro hdecision
    obtain ⟨-, t, hselects, hopen, hto⟩ :=
      (runFrom_loggedBy calls r hr).takes (beq_iff_eq.mpr hdecision)
    obtain ⟨hmem, hfrom, hevent⟩ := OrchestrationStateMachine.mem_of_selects hselects
    exact ⟨t, hmem, hfrom, hevent, hto, hopen⟩
  · intro hdecision
    exact (runFrom_loggedBy calls r hr).back (beq_eq_false_iff_ne.mpr hdecision)
  · exact replay_isLogPath now (runFrom_allowed_takes calls) (runFrom_allowed_isLogPath calls)

end Replay

section Guards

/-- In the default machine the event alone determines the transition, the
cancellation of a run apart. -/
theorem guards_of_default_event :
    ∀ t ∈ defaultTransitions,
      (t.event = .retryAllowed → t.guards = retryBudget) ∧
      (t.event = .approvalGranted → t.guards = approvalGate) := by
  decide

/-- After any run, a call takes a transition exactly when none of its guards is
reported false; a guard that is not reported does not hold it back. -/
theorem reported_guards_bind :
    (∀ (d : StateDriver) (calls : List TriggerCall) (event : RunEvent)
      (guardResults : Option GuardResults) (now : String) (s : RunState),
      (∃ d', (drive d calls).trigger event guardResults now = (.ok s, d')) ↔
        (drive d calls).currentStateId ∉ d.machine.terminalStates ∧
          ∃ t, d.machine.selects (drive d calls).currentStateId event = some t ∧
            (∀ g ∈ t.guards, (guardResults.getD []).lookup g.name ≠ some false) ∧
            t.toState = s) ∧
    ∀ m, IsDefault m → ∀ (start : RunState) (calls : List TriggerCall),
      ∀ r ∈ (runFrom m start calls).history, r.decision = "allowed" →
        (r.event = .retryAllowed →
          r.guardResults.lookup "retry_budget_available" ≠ some false) ∧
        (r.event = .approvalGranted →
          r.guardResults.lookup "approval_granted_if_required" ≠ some false) := by
  constructor
  · intro d calls event guardResults now s
    simp only [StateDriver.trigger_eq_ok_iff, exists_eq_right, (continues_drive d calls).1]
    rfl
  · intro m hm start calls r hr hdecision
    obtain ⟨-, t, hselects, hopen, -⟩ :=
      (runFrom_loggedBy calls r hr).takes (beq_iff_eq.mpr hdecision)
    obtain ⟨hmem, -, hsame⟩ := OrchestrationStateMachine.mem_of_selects hselects
    rw [hm.eq_defaultParts] at hmem
    obtain ⟨hretry, hgrant⟩ := guards_of_default_event t hmem
    constructor
    · intro hevent
      apply hopen (retryBudget.head (by decide))
      rw [hretry (hsame.trans hevent)]
      exact List.head_mem _
    · intro hevent
      apply hopen (approvalGate.head (by decide))
      rw [hgrant (hsame.trans hevent)]
      exact List.head_mem _

theorem reported_guards_bind_harnessV1 :
    ∀ r ∈ (runFrom harnessV1 .retryPending
        [{ event := .retryAllowed, guardResults := some [("retry_budget_available", true)] }]).history,
      r.guardResults.lookup "retry_budget_available" ≠ some false := by
  intro r hr
  have hrecord := hr
  simp only [show (runFrom harnessV1 .retryPending
      [{ event := .retryAllowed,
         guardResults := some [("retry_budget_available", true)] }]).history =
    [{ fromState := .retryPending, event := .retryAllowed, toState := .assemblingPrompt
       timestamp := "", guardResults := [("retry_budget_available", true)]
       decision := "allowed" }] by decide, List.mem_singleton] at hrecord
  exact (reported_guards_bind.2 harnessV1 isDefault_harnessV1 _ _ r hr
    (by rw [hrecord])).1 (by rw [hrecord])

theorem unreported_guard_lets_retry_through :
    let d := runFrom harnessV1 .created
      [{ event := .startRun }, { event := .promptReady }, { event := .modelResponseReceived },
       { event := .toolCallRequested }, { event := .toolApprovedOrNotRequired },
       { event := .toolFailedRetryable }]
    (d.trigger .retryAllowed none "").1.toOption = some .assemblingPrompt ∧
      ∃ t, d.machine.selects d.currentStateId .retryAllowed = some t ∧
        ∃ g ∈ t.guards, ([] : GuardResults).lookup g.name ≠ some true := by
  refine ⟨by decide, ?_⟩
  exact ⟨{ fromState := .retryPending, event := .retryAllowed, toState := .assemblingPrompt
           guards := retryBudget }, by decide, retryBudget.head (by decide), by decide, by decide⟩

end Guards

section Reachability

def Reachable (m : OrchestrationStateMachine) : RunState → RunState → Prop :=
  Relation.ReflTransGen fun s s' => ∃ t ∈ m.transitions, t.fromState = s ∧ t.toState = s'

theorem reachable_drive (d : StateDriver) (calls : List TriggerCall) :
    Reachable d.machine d.currentStateId (drive d calls).currentStateId := by
  obtain ⟨-, added, -, hpath, hlogged⟩ := continues_drive d calls
  refine (hpath.filter TransitionRecord.isAllowed
    fun r hr hblocked => (hlogged r hr).back hblocked).reflTransGen fun r hr => ?_
  obtain ⟨hmem, hallowed⟩ := List.mem_filter.mp hr
  obtain ⟨-, t, hselects, -, hto⟩ := (hlogged r hmem).takes hallowed
  obtain ⟨htmem, hfrom, -⟩ := OrchestrationStateMachine.mem_of_selects hselects
  exact ⟨t, htmem, hfrom, hto⟩

/-- A driver built around a machine stays within what its initial state can
reach, in every run, exactly when `created` can be reached from there: that is
where the driver starts, whatever the machine says. -/
theorem drive_reachable_iff (m : Accepted OrchestrationStateMachine) :
    (∀ calls, Reachable m.1 m.1.initialState (drive { machine := m.1 } calls).currentStateId) ↔
      Reachable m.1 m.1.initialState .created := by
  constructor
  · intro h
    exact h []
  · intro h calls
    exact h.trans (reachable_drive { machine := m.1 } calls)

def lateStart : Accepted OrchestrationStateMachine :=
  build { defaultParts "test-machine" with initialState := .assemblingPrompt } (by decide)

theorem lateStart_escapes :
    ¬ Reachable lateStart.1 lateStart.1.initialState
      (drive { machine := lateStart.1 } []).currentStateId := by
  have hback : ∀ t ∈ lateStart.1.transitions, t.toState ≠ .created := by decide
  intro h
  rcases Relation.ReflTransGen.cases_tail h with heq | ⟨s, -, t, ht, -, hto⟩
  · exact absurd heq (by decide)
  · exact hback t ht hto

theorem usedStates_drive {m : OrchestrationStateMachine} (d : StateDriver)
    (hmachine : d.machine = m) (hstart : d.currentStateId ∈ m.usedStates)
    (calls : List TriggerCall) : (drive d calls).currentStateId ∈ m.usedStates := by
  subst hmachine
  rcases Relation.ReflTransGen.cases_tail (reachable_drive d calls) with
    heq | ⟨s, -, t, ht, -, hto⟩
  · exact heq ▸ hstart
  · rw [← hto, OrchestrationStateMachine.usedStates]
    exact List.mem_cons_of_mem _ (List.mem_append_right _ (List.mem_map_of_mem ht))

/-- The menu lists the events for which the machine has a transition. -/
theorem mem_availableEvents {d : StateDriver} {event : RunEvent} :
    event ∈ d.availableEvents ↔ d.currentStateId ∉ d.machine.terminalStates ∧
      ∃ t, d.machine.selects d.currentStateId event = some t := by
  rw [← Option.isSome_iff_exists, OrchestrationStateMachine.selects, List.isSome_head?,
    StateDriver.availableEvents]
  split
  · rename_i hterminal
    simp [d.isTerminal_iff.mp hterminal]
  · rename_i hterminal
    rw [d.isTerminal_iff] at hterminal
    simp [hterminal, and_assoc]

theorem no_stuck_run (m : Accepted OrchestrationStateMachine) (history : List TransitionRecord)
    (calls : List TriggerCall) :
    let d := drive
      { machine := m.1, currentStateId := m.1.initialState, history := history } calls
    d.currentStateId ∈ m.1.terminalStates ∨
      (d.availableEvents ≠ [] ∧ ∀ event ∈ d.availableEvents, ∀ guardResults now,
        (∀ t ∈ m.1.transitions, t.fromState = d.currentStateId → t.event = event →
          ∀ g ∈ t.guards, guardResults.lookup g.name = some true) →
        ∃ s d', d.trigger event (some guardResults) now = (.ok s, d')) := by
  intro d
  have hmachine : d.machine = m.1 := (continues_drive _ calls).1
  by_cases hterminal : d.currentStateId ∈ m.1.terminalStates
  · exact .inl hterminal
  · right
    have hused : d.currentStateId ∈ m.1.usedStates :=
      usedStates_drive _ rfl (by simp [OrchestrationStateMachine.usedStates]) calls
    obtain ⟨t, ht, hfrom⟩ :=
      (OrchestrationStateMachine.wellFormed m).outgoing _ hused hterminal
    constructor
    · rw [StateDriver.availableEvents,
        if_neg (mt d.isTerminal_iff.mp (by rwa [hmachine])), hmachine]
      exact List.ne_nil_of_mem
        (List.mem_map_of_mem (List.mem_filter.mpr ⟨ht, decide_eq_true hfrom⟩))
    · intro event hevent guardResults now htrue
      obtain ⟨hnonterminal, t', hselects⟩ := mem_availableEvents.mp hevent
      obtain ⟨hmem, hfrom', hevent'⟩ := OrchestrationStateMachine.mem_of_selects hselects
      refine ⟨t'.toState, _, (d.trigger_eq_ok_iff ..).mpr
        ⟨⟨hnonterminal, t', hselects, fun g hg => ?_, rfl⟩, rfl⟩⟩
      rw [Option.getD_some, htrue t' (hmachine ▸ hmem) hfrom' hevent' g hg]
      simp

end Reachability

end NovaHarness.DriverRuns
