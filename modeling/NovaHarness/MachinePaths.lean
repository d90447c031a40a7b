import NovaHarness.TriggerOutcomes

/-!
Paths through the transitions of a machine as runs of a driver.  A guard that
nobody reports on holds nothing back, so a driver can follow every path that
does not go on from a terminal state.
-/

namespace NovaHarness.MachinePaths

open NovaHarness.OrchestrationMachine
open NovaHarness.RecordValidation
open NovaHarness.Driver
open NovaHarness.DriverRuns
open NovaHarness.LabelledPaths
open NovaHarness.TriggerOutcomes

abbrev IsRulePath : RunState → List TransitionRule → RunState → Prop :=
  IsPath TransitionRule.fromState TransitionRule.toState

/-- A transition a driver of the machine can take. -/
def Leads (m : OrchestrationStateMachine) (t : TransitionRule) : Prop :=
  t ∈ m.transitions ∧ t.fromState ∉ m.terminalStates

instance (m : OrchestrationStateMachine) (t : TransitionRule) : Decidable (Leads m t) :=
  inferInstanceAs (Decidable (_ ∧ _))

/-- The call that takes a transition, reporting on no guard. -/
def callFor (t : TransitionRule) : TriggerCall :=
  { event := t.event }

def recordFor (t : TransitionRule) : TransitionRecord where
  fromState := t.fromState
  event := t.event
  toState := t.toState
  timestamp := ""
  decision := "allowed"

theorem isAllowed_recordFor (t : TransitionRule) : (recordFor t).isAllowed = true := rfl

variable {m : OrchestrationStateMachine}

theorem selects_of_mem (hwf : m.WellFormed) {t : TransitionRule} (ht : t ∈ m.transitions) :
    m.selects t.fromState t.event = some t := by
  have hmem : t ∈ m.transitions.filter fun t' => t'.fromState = t.fromState ∧ t'.event = t.event :=
    List.mem_filter.mpr ⟨ht, by simp⟩
  obtain ⟨t', hselects⟩ : ∃ t', m.selects t.fromState t.event = some t' :=
    Option.isSome_iff_exists.mp (List.isSome_head?.mpr (List.ne_nil_of_mem hmem))
  obtain ⟨hmem', hfrom, hevent⟩ := OrchestrationStateMachine.mem_of_selects hselects
  have hkey : t'.key = t.key := by rw [TransitionRule.key, TransitionRule.key, hfrom, hevent]
  rw [hselects, eq_of_key_eq hwf ht hmem' hkey]

theorem after_callFor (hwf : m.WellFormed) {t : TransitionRule} (ht : Leads m t)
    (history : List TransitionRecord) :
    after { machine := m, currentStateId := t.fromState, history := history } (callFor t) =
      { machine := m, currentStateId := t.toState, history := history ++ [recordFor t] } := by
  have htakes : m.Takes t.fromState t.event [] t.toState :=
    ⟨ht.2, t, selects_of_mem hwf ht.1, by simp, rfl⟩
  have hstep := (StateDriver.trigger_eq_ok_iff
    { machine := m, currentStateId := t.fromState, history := history } t.event none ""
    t.toState _).mpr ⟨htakes, rfl⟩
  exact congrArg Prod.snd hstep

/-- A driver follows a path of transitions, one call each. -/
theorem drive_path (hwf : m.WellFormed) {start finish : RunState} {ts : List TransitionRule}
    (hleads : ∀ t ∈ ts, Leads m t) (hpath : IsRulePath start ts finish)
    (history : List TransitionRecord) :
    drive { machine := m, currentStateId := start, history := history } (ts.map callFor) =
      { machine := m, currentStateId := finish, history := history ++ ts.map recordFor } := by
  induction ts generalizing start history with
  | nil =>
      obtain rfl := isPath_nil.mp hpath
      simp [drive]
  | cons t ts ih =>
      obtain ⟨rfl, htail⟩ := isPath_cons.mp hpath
      rw [List.map_cons, drive, List.foldl_cons, after_callFor hwf (hleads t (by simp))]
      have hrest := ih (fun t' ht' => hleads t' (by simp [ht'])) htail (history ++ [recordFor t])
      rw [drive] at hrest
      rw [hrest, List.map_cons, List.append_assoc, List.singleton_append]

/-- The states a driver of an accepted machine can get to are those the
transitions out of its other states than the terminal ones lead to: no guard
puts a state out of reach. -/
theorem reached_iff_reachable (m : Accepted OrchestrationStateMachine) (d : StateDriver)
    (hmachine : d.machine = m.1) (s : RunState) :
    (∃ calls, (drive d calls).currentStateId = s) ↔
      Relation.ReflTransGen (fun a b => ∃ t, Leads m.1 t ∧ t.fromState = a ∧ t.toState = b)
        d.currentStateId s := by
  constructor
  · rintro ⟨calls, rfl⟩
    obtain ⟨-, added, -, hpath, hlogged⟩ := continues_drive d calls
    have hallowed := hpath.filter TransitionRecord.isAllowed
      fun r hr hblocked => (hlogged r hr).back hblocked
    refine hallowed.reflTransGen fun r hr => ?_
    obtain ⟨hmem, hdecision⟩ := List.mem_filter.mp hr
    obtain ⟨hterminal, t, hselects, -, hto⟩ := (hlogged r hmem).takes hdecision
    obtain ⟨htmem, hfrom, -⟩ := OrchestrationStateMachine.mem_of_selects hselects
    rw [hmachine] at hterminal htmem
    exact ⟨t, ⟨htmem, hfrom ▸ hterminal⟩, hfrom, hto⟩
  · intro h
    obtain ⟨ts, hleads, hpath⟩ := exists_isPath h
    refine ⟨ts.map callFor, ?_⟩
    have hdrive := drive_path (OrchestrationStateMachine.wellFormed m) hleads hpath d.history
    rw [← hmachine] at hdrive
    exact congrArg StateDriver.currentStateId hdrive

/-- What is listed out of a terminal state adds nothing. -/
def reopened : Accepted OrchestrationStateMachine :=
  build reopening (by decide)

theorem reached_iff_reachable_reopened :
    (∃ calls, (drive { machine := reopened.1, currentStateId := .verifying } calls).currentStateId =
        .succeeded) ∧
      ¬ ∃ calls, (drive { machine := reopened.1, currentStateId := .failed } calls).currentStateId =
        .created := by
  constructor
  · let passed : TransitionRule :=
      { fromState := .verifying, event := .verificationPassed, toState := .succeeded }
    exact (reached_iff_reachable reopened _ rfl _).mpr (.single ⟨passed, by decide, rfl, rfl⟩)
  · rw [reached_iff_reachable reopened _ rfl]
    intro h
    rcases Relation.ReflTransGen.cases_head h with heq | ⟨s, ⟨t, hleads, hfrom, -⟩, -⟩
    · exact absurd heq (by decide)
    · exact hleads.2 (hfrom ▸ by decide)

end NovaHarness.MachinePaths
