import NovaHarness.OrchestrationMachine

namespace NovaHarness.Driver

open NovaHarness.Text
open NovaHarness.OrchestrationMachine

structure TransitionRecord where
  fromState : RunState
  event : RunEvent
  toState : RunState
  timestamp : String
  guardResults : GuardResults := []
  decision : String := ""
  deriving DecidableEq, Repr

def TransitionRecord.isAllowed (r : TransitionRecord) : Bool :=
  r.decision == "allowed"

structure StateDriver where
  machine : OrchestrationStateMachine := harnessV1
  currentStateId : RunState := .created
  history : List TransitionRecord := []
  deriving DecidableEq, Repr

namespace StateDriver

def isTerminal (d : StateDriver) : Bool :=
  d.currentStateId ∈ d.machine.terminalStates

theorem isTerminal_iff (d : StateDriver) :
    d.isTerminal = true ↔ d.currentStateId ∈ d.machine.terminalStates :=
  decide_eq_true_iff

def availableEvents (d : StateDriver) : List RunEvent :=
  if d.isTerminal then []
  else (d.machine.transitions.filter fun t => t.fromState = d.currentStateId).map (·.event)

/-- `matches`: the transitions for an event in the current state. -/
def matching (d : StateDriver) (event : RunEvent) : List TransitionRule :=
  d.machine.transitions.filter fun t => t.fromState = d.currentStateId ∧ t.event = event

/-- `g.name in resolved and not resolved[g.name]`. -/
def reportedFalse (resolved : GuardResults) (g : TransitionGuard) : Bool :=
  resolved.lookup g.name == some false

def taken (d : StateDriver) (event : RunEvent) (toState : RunState) (resolved : GuardResults)
    (now : String) : StateDriver :=
  { d with
    currentStateId := toState
    history := d.history ++
      [{ fromState := d.currentStateId
         event := event
         toState := toState
         timestamp := now
         guardResults := resolved
         decision := "allowed" }] }

def refused (d : StateDriver) (g : TransitionGuard) (event : RunEvent) (now : String) :
    StateDriver :=
  { d with
    history := d.history ++
      [{ fromState := d.currentStateId
         event := event
         toState := d.currentStateId
         timestamp := now
         guardResults := [(g.name, false)]
         decision := "blocked by guard: " ++ g.name }] }

def terminalMsg (d : StateDriver) (event : RunEvent) : String :=
  "cannot trigger event " ++ event.value ++ ": machine is in terminal state " ++
    d.currentStateId.value

def unmatchedMsg (d : StateDriver) (event : RunEvent) : String :=
  "no transition from " ++ d.currentStateId.value ++ " for event " ++ event.value ++
    "; available events: " ++ wordListStr (d.availableEvents.map (·.value))

def guardMsg (d : StateDriver) (g : TransitionGuard) (t : TransitionRule) (event : RunEvent) :
    String :=
  "guard '" ++ g.name ++ "' rejected transition " ++ d.currentStateId.value ++ " -> " ++
    t.toState.value ++ " via " ++ event.value

/-- Trigger an event: the state reached or the text of the `ValueError`, and the
driver afterwards. -/
def trigger (d : StateDriver) (event : RunEvent) (guardResults : Option GuardResults)
    (now : String) : Except String RunState × StateDriver :=
  if d.isTerminal then (.error (d.terminalMsg event), d)
  else
    match d.matching event with
    | [] => (.error (d.unmatchedMsg event), d)
    | t :: _ =>
        let resolved := guardResults.getD []
        match t.guards.find? (reportedFalse resolved) with
        | some g => (.error (d.guardMsg g t event), d.refused g event now)
        | none => (.ok t.toState, d.taken event t.toState resolved now)

inductive Triggered (d : StateDriver) (event : RunEvent) (resolved : GuardResults)
    (now : String) : Except String RunState × StateDriver → Prop
  | terminal (hterminal : d.currentStateId ∈ d.machine.terminalStates) :
      Triggered d event resolved now (.error (d.terminalMsg event), d)
  | unmatched (hterminal : d.currentStateId ∉ d.machine.terminalStates)
      (hnone : d.machine.selects d.currentStateId event = none) :
      Triggered d event resolved now (.error (d.unmatchedMsg event), d)
  | blocked (hterminal : d.currentStateId ∉ d.machine.terminalStates) (t : TransitionRule)
      (hselects : d.machine.selects d.currentStateId event = some t)
      (g : TransitionGuard) (hg : g ∈ t.guards)
      (hfalse : resolved.lookup g.name = some false) :
      Triggered d event resolved now (.error (d.guardMsg g t event), d.refused g event now)
  | allowed (s : RunState) (htakes : d.machine.Takes d.currentStateId event resolved s) :
      Triggered d event resolved now (.ok s, d.taken event s resolved now)

theorem trigger_triggered (d : StateDriver) (event : RunEvent)
    (guardResults : Option GuardResults) (now : String) :
    Triggered d event (guardResults.getD []) now (d.trigger event guardResults now) := by
  unfold trigger
  by_cases hterminal : d.currentStateId ∈ d.machine.terminalStates
  · rw [if_pos (d.isTerminal_iff.mpr hterminal)]
    exact .terminal hterminal
  · rw [if_neg (mt d.isTerminal_iff.mp hterminal)]
    cases hmatching : d.matching event with
    | nil =>
        exact .unmatched hterminal (by
          simpa [OrchestrationStateMachine.selects, matching] using hmatching)
    | cons t rest =>
        have hselects : d.machine.selects d.currentStateId event = some t :=
          congrArg List.head? hmatching
        simp only
        rcases hfind : t.guards.find? (reportedFalse (guardResults.getD [])) with _ | g
        · refine .allowed t.toState ⟨hterminal, t, hselects, fun g hg => ?_, rfl⟩
          simpa [reportedFalse] using List.find?_eq_none.mp hfind g hg
        · exact .blocked hterminal t hselects g (List.mem_of_find?_eq_some hfind)
            (by simpa [reportedFalse] using List.find?_some hfind)

/-- The driver takes exactly the steps its machine has. -/
theorem trigger_eq_ok_iff (d : StateDriver) (event : RunEvent)
    (guardResults : Option GuardResults) (now : String) (s : RunState) (d' : StateDriver) :
    d.trigger event guardResults now = (.ok s, d') ↔
      d.machine.Takes d.currentStateId event (guardResults.getD []) s ∧
        d' = d.taken event s (guardResults.getD []) now := by
  have houtcome := trigger_triggered d event guardResults now
  constructor
  · intro h
    rw [h] at houtcome
    cases houtcome with
    | allowed _ htakes => exact ⟨htakes, rfl⟩
  · rintro ⟨⟨hterminal, t, hselects, hopen, rfl⟩, rfl⟩
    generalize d.trigger event guardResults now = result at houtcome
    cases houtcome with
    | terminal hterminal' => exact absurd hterminal' hterminal
    | unmatched _ hnone => simp [hselects] at hnone
    | blocked _ t' hselects' g hg hfalse =>
        obtain rfl := Option.some.inj (hselects.symm.trans hselects')
        exact absurd hfalse (hopen g hg)
    | allowed s htakes =>
        obtain ⟨-, t', hselects', -, rfl⟩ := htakes
        obtain rfl := Option.some.inj (hselects.symm.trans hselects')
        rfl

/-- A rejected call leaves the machine and the state of the driver alone, and
says something. -/
theorem of_trigger_error {d d' : StateDriver} {event : RunEvent}
    {guardResults : Option GuardResults} {now msg : String}
    (h : d.trigger event guardResults now = (.error msg, d')) :
    (d'.machine = d.machine ∧ d'.currentStateId = d.currentStateId) ∧ msg ≠ "" := by
  have houtcome := trigger_triggered d event guardResults now
  rw [h] at houtcome
  cases houtcome with
  | terminal =>
      refine ⟨⟨rfl, rfl⟩, ?_⟩
      iterate 3 apply append_ne_empty
      decide
  | unmatched =>
      refine ⟨⟨rfl, rfl⟩, ?_⟩
      iterate 5 apply append_ne_empty
      decide
  | blocked =>
      refine ⟨⟨rfl, rfl⟩, ?_⟩
      iterate 7 apply append_ne_empty
      decide

end StateDriver

end NovaHarness.Driver
