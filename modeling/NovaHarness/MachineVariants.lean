import NovaHarness.ExecutionCycle
import NovaHarness.FirstOccurrences
import NovaHarness.MachinePaths

namespace NovaHarness.MachineVariants

open NovaHarness.Text
open NovaHarness.RecordValidation
open NovaHarness.OrchestrationMachine
open NovaHarness.Driver
open NovaHarness.DriverRuns
open NovaHarness.ExecutionCycle
open NovaHarness.TriggerOutcomes
open NovaHarness.MachinePaths
open NovaHarness.FirstOccurrences

section Rows

/-- A row of the table of a machine. -/
structure Row where
  toState : RunState
  guards : List String
  deriving DecidableEq

def guardNames (t : TransitionRule) : List String :=
  (t.guards.map (·.name)).eraseDups

def row (m : OrchestrationStateMachine) (s : RunState) (event : RunEvent) : Option Row :=
  if s ∈ m.terminalStates then none
  else (m.selects s event).map fun t => { toState := t.toState, guards := guardNames t }

/-- What can be seen of a driver from outside. -/
abbrev Seen := RunState × List TransitionRecord

def seen (d : StateDriver) : Seen :=
  (d.currentStateId, d.history)

def isReportedFalse (resolved : GuardResults) (name : String) : Bool :=
  resolved.lookup name == some false

/-- One call, as far as it can be seen. -/
def seenAfter (call : TriggerCall) (seen : Seen) : Option Row → Seen
  | none => seen
  | some row =>
      let resolved := call.guardResults.getD []
      match row.guards.find? (isReportedFalse resolved) with
      | some name =>
          (seen.1, seen.2 ++
            [{ fromState := seen.1
               event := call.event
               toState := seen.1
               timestamp := call.now
               guardResults := [(name, false)]
               decision := "blocked by guard: " ++ name }])
      | none =>
          (row.toState, seen.2 ++
            [{ fromState := seen.1
               event := call.event
               toState := row.toState
               timestamp := call.now
               guardResults := resolved
               decision := "allowed" }])

theorem find?_guardNames (resolved : GuardResults) (t : TransitionRule) :
    (guardNames t).find? (isReportedFalse resolved) =
      (t.guards.find? (StateDriver.reportedFalse resolved)).map (·.name) := by
  rw [guardNames, find?_eraseDups, List.find?_map]
  rfl

/-- A call does to what can be seen what the row says. -/
theorem seen_after (d : StateDriver) (call : TriggerCall) :
    seen (after d call) =
      seenAfter call (seen d) (row d.machine d.currentStateId call.event) := by
  rw [after, StateDriver.trigger, row]
  by_cases hterminal : d.currentStateId ∈ d.machine.terminalStates
  · rw [if_pos (d.isTerminal_iff.mpr hterminal), if_pos hterminal]
    rfl
  · rw [if_neg (mt d.isTerminal_iff.mp hterminal), if_neg hterminal]
    have hselects : d.machine.selects d.currentStateId call.event =
        (d.matching call.event).head? := rfl
    cases hmatching : d.matching call.event with
    | nil =>
        rw [hselects, hmatching]
        rfl
    | cons t rest =>
        rw [hselects, hmatching, List.head?_cons, Option.map_some, seenAfter]
        simp only [find?_guardNames]
        cases hfind : t.guards.find? (StateDriver.reportedFalse (call.guardResults.getD [])) with
        | none => rfl
        | some g => rfl

theorem seenAfter_some_ne (call : TriggerCall) (σ : Seen) (r : Row) :
    seenAfter call σ (some r) ≠ σ := by
  intro h
  have hlength := congrArg (fun σ : Seen => σ.2.length) h
  rw [seenAfter] at hlength
  split at hlength <;> simp at hlength

/-- Calls that report the guards of a list as false. -/
def denying (event : RunEvent) (names : List String) : TriggerCall where
  event := event
  guardResults := some (names.map fun name => (name, false))

theorem isReportedFalse_denying (names : List String) :
    isReportedFalse (names.map fun name => (name, false)) = fun name => decide (name ∈ names) := by
  funext name
  induction names with
  | nil => rfl
  | cons name' names ih =>
      rw [isReportedFalse] at ih ⊢
      rw [List.map_cons, List.lookup_cons]
      by_cases hname : name = name'
      · simp [hname]
      · simp only [beq_false_of_ne hname, ih, List.mem_cons, hname, false_or]

theorem seenAfter_denying_inj {event : RunEvent} {σ : Seen} {r r' : Row}
    (h : ∀ names, seenAfter (denying event names) σ (some r) =
      seenAfter (denying event names) σ (some r')) :
    r.toState = r'.toState ∧ ∀ names : List String,
      r.guards.find? (fun name => decide (name ∈ names)) =
        r'.guards.find? fun name => decide (name ∈ names) := by
  constructor
  · have hstate := congrArg Prod.fst (h [])
    have hnone : ∀ r : Row, r.guards.find? (isReportedFalse []) = none := by
      intro r
      rw [List.find?_eq_none]
      simp [isReportedFalse]
    simp only [seenAfter, denying, List.map_nil, Option.getD_some, hnone] at hstate
    exact hstate
  · intro names
    have hrecord := congrArg (fun σ : Seen => (σ.2.getLast?).map (·.decision)) (h names)
    simp only [seenAfter, denying, Option.getD_some, isReportedFalse_denying] at hrecord
    rcases hr : r.guards.find? (fun name => decide (name ∈ names)) with _ | name <;>
      rcases hr' : r'.guards.find? (fun name => decide (name ∈ names)) with _ | name'
    · rfl
    · simp only [hr, hr', List.getLast?_concat, Option.map_some, Option.some.injEq] at hrecord
      have hblocked := isAllowed_blocked name'
      simp [← hrecord] at hblocked
    · simp only [hr, hr', List.getLast?_concat, Option.map_some, Option.some.injEq] at hrecord
      have hblocked := isAllowed_blocked name
      simp [hrecord] at hblocked
    · simp only [hr, hr', List.getLast?_concat, Option.map_some, Option.some.injEq] at hrecord
      rw [(String.append_right_inj _).mp hrecord]

variable {m m' : OrchestrationStateMachine}

theorem row_guards {s : RunState} {event : RunEvent} {r : Row} (h : row m s event = some r) :
    ∃ names : List String, r.guards = names.eraseDups := by
  rw [row] at h
  split at h
  · simp at h
  · obtain ⟨t, -, rfl⟩ := Option.map_eq_some_iff.mp h
    exact ⟨_, rfl⟩

/-- Rows that no call tells apart are the same. -/
theorem row_eq_of_seenAfter {s : RunState} {event : RunEvent} {σ : Seen}
    (h : ∀ names, seenAfter (denying event names) σ (row m s event) =
      seenAfter (denying event names) σ (row m' s event)) :
    row m s event = row m' s event := by
  rcases hr : row m s event with _ | r <;> rcases hr' : row m' s event with _ | r'
  · rfl
  · rw [hr, hr'] at h
    exact absurd (h []).symm (seenAfter_some_ne _ σ r')
  · rw [hr, hr'] at h
    exact absurd (h []) (seenAfter_some_ne _ σ r)
  · rw [hr, hr'] at h
    obtain ⟨hstate, hfirst⟩ := seenAfter_denying_inj h
    obtain ⟨names, hnames⟩ := row_guards hr
    obtain ⟨names', hnames'⟩ := row_guards hr'
    have hguards : r.guards = r'.guards := by
      rw [hnames, hnames', eraseDups_eq_iff]
      intro zs
      rw [← find?_eraseDups _ names, ← find?_eraseDups _ names', ← hnames, ← hnames']
      exact hfirst zs
    rw [Option.some.injEq]
    cases r
    cases r'
    simp_all

end Rows

section Alike

variable (m m' : OrchestrationStateMachine)

theorem seen_drive_append (start : RunState) (calls : List TriggerCall) (call : TriggerCall) :
    seen (runFrom m start (calls ++ [call])) =
      seenAfter call (seen (runFrom m start calls))
        (row m (runFrom m start calls).currentStateId call.event) := by
  have hmachine : (runFrom m start calls).machine = m := (continues_drive _ calls).1
  have hlast : runFrom m start (calls ++ [call]) = after (runFrom m start calls) call := by
    rw [runFrom, drive, List.foldl_append]
    rfl
  rw [hlast, seen_after, hmachine]

/-- Drivers look the same as long as each call finds the same row. -/
theorem seen_eq_of_rows_agree {start : RunState} {calls : List TriggerCall}
    (h : ∀ before call, before ++ [call] <+: calls →
      row m (runFrom m start before).currentStateId call.event =
        row m' (runFrom m start before).currentStateId call.event) :
    seen (runFrom m start calls) = seen (runFrom m' start calls) := by
  induction calls using List.reverseRecOn with
  | nil => rfl
  | append_singleton calls call ih =>
      have hbefore : seen (runFrom m start calls) = seen (runFrom m' start calls) :=
        ih fun before call' hinitial => h before call' (hinitial.trans (List.prefix_append _ _))
      have hstate : (runFrom m start calls).currentStateId =
          (runFrom m' start calls).currentStateId := congrArg Prod.fst hbefore
      rw [seen_drive_append, seen_drive_append, ← hbefore, ← hstate,
        h calls call (List.prefix_refl _)]

/-- Nobody who calls the drivers of two machines, both started in one state, can
tell which is which, exactly when the machines have the same rows in every state
the first of them gets to. -/
theorem alike_iff_rows_agree (start : RunState) :
    (∀ calls, seen (runFrom m start calls) = seen (runFrom m' start calls)) ↔
      ∀ calls event,
        row m (runFrom m start calls).currentStateId event =
          row m' (runFrom m start calls).currentStateId event := by
  constructor
  · intro h calls event
    apply row_eq_of_seenAfter
    intro names
    have hstate : (runFrom m start calls).currentStateId =
        (runFrom m' start calls).currentStateId := congrArg Prod.fst (h calls)
    have hnext := h (calls ++ [denying event names])
    rw [seen_drive_append, seen_drive_append, ← h calls, ← hstate] at hnext
    exact hnext
  · intro h calls
    exact seen_eq_of_rows_agree m m' fun before call _ => h before call.event

end Alike

section Extension

variable {m m' : OrchestrationStateMachine}

/-- The second machine has the terminal states of the first and all of its
transitions, in whatever order. -/
structure Extends (m m' : OrchestrationStateMachine) : Prop where
  terminal : ∀ s, s ∈ m'.terminalStates ↔ s ∈ m.terminalStates
  transitions : ∀ t ∈ m.transitions, t ∈ m'.transitions

theorem Extends.row_eq (h : Extends m m') (hwf : m'.WellFormed) {s : RunState} {event : RunEvent}
    {r : Row} (hrow : row m s event = some r) : row m' s event = some r := by
  rw [row] at hrow ⊢
  split at hrow
  · simp at hrow
  · rename_i hterminal
    rw [if_neg (mt (h.terminal s).mp hterminal)]
    obtain ⟨t, hselects, rfl⟩ := Option.map_eq_some_iff.mp hrow
    obtain ⟨ht, rfl, rfl⟩ := OrchestrationStateMachine.mem_of_selects hselects
    rw [selects_of_mem hwf (h.transitions t ht)]
    rfl

/-- Transitions that are added, or listed in another order, change nothing in a
run whose events the first machine has on its menu; and nothing at all if there
are no others. -/
theorem extension_keeps_runs (m m' : Accepted OrchestrationStateMachine)
    (hextends : Extends m.1 m'.1) (start : RunState) (calls : List TriggerCall) :
    ((∀ before call, before ++ [call] <+: calls →
        call.event ∈ (runFrom m.1 start before).availableEvents) →
      seen (runFrom m'.1 start calls) = seen (runFrom m.1 start calls)) ∧
    ((∀ t ∈ m'.1.transitions, t ∈ m.1.transitions) →
      seen (runFrom m'.1 start calls) = seen (runFrom m.1 start calls)) := by
  constructor
  · intro hmenu
    symm
    apply seen_eq_of_rows_agree
    intro before call hinitial
    have hmachine : (runFrom m.1 start before).machine = m.1 := (continues_drive _ before).1
    obtain ⟨hterminal, t, hselects⟩ := mem_availableEvents.mp (hmenu before call hinitial)
    rw [hmachine] at hterminal hselects
    obtain ⟨r, hrow⟩ : ∃ r, row m.1 (runFrom m.1 start before).currentStateId call.event = some r := by
      rw [row, if_neg hterminal, hselects]
      exact ⟨_, rfl⟩
    rw [hrow, hextends.row_eq (OrchestrationStateMachine.wellFormed m') hrow]
  · intro hback
    have hrestricts : Extends m'.1 m.1 := ⟨fun s => (hextends.terminal s).symm, hback⟩
    symm
    apply seen_eq_of_rows_agree
    intro before call _
    rcases hrow : row m.1 (runFrom m.1 start before).currentStateId call.event with _ | r
    · rcases hrow' : row m'.1 (runFrom m.1 start before).currentStateId call.event with _ | r'
      · rfl
      · rw [hrestricts.row_eq (OrchestrationStateMachine.wellFormed m) hrow'] at hrow
        simp at hrow
    · exact (hextends.row_eq (OrchestrationStateMachine.wellFormed m') hrow).symm

/-- A run is on the menu if each of its calls is. -/
theorem onMenu_of_forall_get {m : OrchestrationStateMachine} {start : RunState}
    {calls : List TriggerCall}
    (h : ∀ i : Fin calls.length,
      (calls.get i).event ∈ (runFrom m start (calls.take i)).availableEvents) :
    ∀ before call, before ++ [call] <+: calls →
      call.event ∈ (runFrom m start before).availableEvents := by
  rintro before call ⟨rest, rfl⟩
  simpa using h ⟨before.length, by simp⟩

def reversed : Accepted OrchestrationStateMachine :=
  build { harnessV1 with transitions := harnessV1.transitions.reverse } (by decide)

/-- A run that waits for a retry may also be given up. -/
def exhaustible : Accepted OrchestrationStateMachine :=
  build
    { harnessV1 with
      transitions := harnessV1.transitions ++
        [{ fromState := .retryPending, event := .verificationFailedTerminal,
           toState := .failed }] }
    (by decide)

theorem extension_keeps_runs_reversed :
    seen (runFrom reversed.1 .created retriedRun) =
        seen (runFrom harnessV1 .created retriedRun) ∧
      seen (runFrom exhaustible.1 .created retriedRun) =
        seen (runFrom harnessV1 .created retriedRun) := by
  have hterminal : reversed.1.terminalStates = harnessV1.terminalStates := by decide
  have hreversed : reversed.1.transitions = harnessV1.transitions.reverse := by decide
  have hall : ∀ t, t ∈ reversed.1.transitions ↔ t ∈ harnessV1.transitions := by
    intro t
    rw [hreversed, List.mem_reverse]
  have hterminal' : exhaustible.1.terminalStates = harnessV1.terminalStates := by decide
  have hadded : harnessV1.transitions <+: exhaustible.1.transitions := by decide
  constructor
  · exact (extension_keeps_runs ⟨harnessV1, asciiTables, _, defaultMachine_harnessV1⟩ reversed
      ⟨fun s => by rw [hterminal], fun t => (hall t).mpr⟩ .created retriedRun).2
      fun t => (hall t).mp
  · exact (extension_keeps_runs ⟨harnessV1, asciiTables, _, defaultMachine_harnessV1⟩ exhaustible
      ⟨fun s => by rw [hterminal'], fun t ht => hadded.subset ht⟩ .created retriedRun).1
      (onMenu_of_forall_get (by decide +kernel))

end Extension

end NovaHarness.MachineVariants
