import NovaHarness.DriverRejection
import NovaHarness.RunCourses

/-!
One driver in many hands: runs that are given it one after the other, with
trigger calls by others in between.  A run needs its driver at the start, and no
driver of the default machine comes back there.
-/

namespace NovaHarness.SharedDrivers

open NovaHarness.EarlyExit
open NovaHarness.ComposedRoutines
open NovaHarness.OrchestrationMachine
open NovaHarness.Driver
open NovaHarness.DriverRuns
open NovaHarness.LabelledPaths
open NovaHarness.Pipeline
open NovaHarness.PipelineRun
open NovaHarness.PipelinePhases
open NovaHarness.PipelineFrames
open NovaHarness.PipelineOutcome
open NovaHarness.EffectGating
open NovaHarness.DriverRejection
open NovaHarness.RunTriggers
open NovaHarness.RunCourses

section Operations

/-- What is done with a shared driver: somebody triggers an event, or a run is
given the driver in place of the one its input names. -/
inductive Operation where
  | trigger (call : TriggerCall)
  | run (rt : Runtime) (x : PipelineExecutor) (input : PipelineInput)

/-- A run of a sequence, with the driver as it was handed over. -/
structure Turn where
  given : StateDriver
  report : RunReport

def handed (d : StateDriver) (input : PipelineInput) : PipelineInput :=
  { input with stateDriver := some d }

def turn (d : StateDriver) (rt : Runtime) (x : PipelineExecutor) (input : PipelineInput) :
    Turn where
  given := d
  report := run rt x (handed d input)

/-- The driver after a sequence of operations, and the runs among them. -/
def operate (d : StateDriver) : List Operation → StateDriver × List Turn
  | [] => (d, [])
  | .trigger call :: rest => operate (after d call) rest
  | .run rt x input :: rest =>
      let t := turn d rt x input
      let (d', turns) := operate t.report.session.driver rest
      (d', t :: turns)

/-- The run has called a back end or has come back with a result. -/
def Turn.Effective (t : Turn) : Prop :=
  calls t.report.session ≠ [] ∨ ∃ r, t.report.outcome = .ok r

end Operations

section OneWay

theorem startRun_step :
    ∀ t ∈ defaultTransitions, t.event = .startRun → t.fromState = .created ∧ t.guards = [] := by
  decide

theorem toState_ne_created : ∀ t ∈ defaultTransitions, t.toState ≠ .created := by
  decide

/-- No step leads back to where a run starts. -/
theorem continues_ne_created {d d' : StateDriver} (hm : IsDefault d.machine)
    (h : Continues d d') (hd : d.currentStateId ≠ .created) : d'.currentStateId ≠ .created := by
  obtain ⟨-, added, -, hpath, hlogged⟩ := h
  refine hpath.invariant (P := (· ≠ .created)) hd fun r hr hfrom => ?_
  cases hlogged r hr with
  | allowed _ htakes =>
      obtain ⟨t, ht, -, -, hto⟩ := hm.mem_of_takes htakes
      rw [← hto]
      exact toState_ne_created t ht
  | blocked _ hback => exact hback ▸ hfrom

theorem isDefault_of_continues {d d' : StateDriver} (hm : IsDefault d.machine)
    (h : Continues d d') : IsDefault d'.machine :=
  h.1 ▸ hm

/-- A start that is turned down leaves the whole driver as it is. -/
theorem startRun_rejected {d : StateDriver} (hm : IsDefault d.machine)
    (hd : d.currentStateId ≠ .created) (now : String) :
    ∃ msg, d.trigger .startRun none now = (.error msg, d) := by
  have houtcome := d.trigger_triggered .startRun none now
  have hselects : d.machine.selects d.currentStateId .startRun = none := by
    rw [Option.eq_none_iff_forall_not_mem]
    intro t ht
    obtain ⟨hmem, hfrom, hevent⟩ := OrchestrationStateMachine.mem_of_selects ht
    rw [hm.eq_defaultParts] at hmem
    exact hd (hfrom ▸ (startRun_step t hmem hevent).1)
  generalize d.trigger .startRun none now = result at houtcome
  cases houtcome with
  | terminal => exact ⟨_, rfl⟩
  | unmatched => exact ⟨_, rfl⟩
  | blocked _ t hsome => simp [hselects] at hsome
  | allowed s htakes =>
      obtain ⟨-, t, hsome, -⟩ := htakes
      simp [hselects] at hsome

theorem startRun_accepted {d : StateDriver} (hm : IsDefault d.machine)
    (hd : d.currentStateId = .created) :
    d.machine.next d.currentStateId .startRun [] = some .assemblingPrompt := by
  rw [hd, hm.eq_defaultParts]
  rfl

end OneWay

section Turns

variable {d : StateDriver} (rt : Runtime) (x : PipelineExecutor) (input : PipelineInput)

/-- A run that is handed a driver on its way does nothing and raises. -/
theorem turn_refused (hm : IsDefault d.machine) (hd : d.currentStateId ≠ .created) :
    (turn d rt x input).report.session = initialSession (handed d input) ∧
      ∀ r, (turn d rt x input).report.outcome ≠ .ok r := by
  obtain ⟨msg, htrigger⟩ := startRun_rejected hm hd (rt.now (.transition .startRun))
  have hstart : (startRun rt).run (initialSession (handed d input)) =
      .error (.returns (some msg)) (initialSession (handed d input)) := by
    rw [startRun_eq_returns, run_trigger_eq_error]
    exact ⟨d, htrigger, rfl⟩
  have hbody : (body rt x (handed d input)).run (initialSession (handed d input)) =
      .error (.returns (some msg)) (initialSession (handed d input)) := by
    rw [body_eq_startRun_bind, EStateM.run_bind, hstart]
  simp only [turn, run, hbody, true_and]
  intro r
  exact buildResult_nil_ne_ok rt (handed d input) d (some msg) r

/-- A run that is handed a driver at the start moves it on for good. -/
theorem turn_leaves_created (hm : IsDefault d.machine) (hd : d.currentStateId = .created) :
    (turn d rt x input).report.session.driver.currentStateId ≠ .created := by
  let s₁ : Session := (initialSession (handed d input)).moved rt .startRun [] .assemblingPrompt
  have hstart : (startRun rt).run (initialSession (handed d input)) = .ok () s₁ := by
    rw [startRun_eq_ok, follow]
    exact Option.bind_eq_some_iff.mpr ⟨_, startRun_accepted hm hd, rfl⟩
  have hframes : Frames (Triggering rt) (started rt x (handed d input)) :=
    (composed_started rt x (handed d input)).frames fun _ => frames_statement rt
  obtain ⟨⟨calls, hdriver, -⟩, -⟩ := hframes.lastState s₁
  change (run rt x (handed d input)).session.driver.currentStateId ≠ .created
  rw [run_session, body_eq_startRun_bind, EStateM.run_bind, hstart, hdriver]
  exact continues_ne_created (d := s₁.driver) hm (continues_drive _ calls)
    (by decide : RunState.assemblingPrompt ≠ .created)

theorem continues_turn : Continues d (turn d rt x input).report.session.driver := by
  obtain ⟨⟨calls, hdriver, -⟩, -⟩ := triggering_run rt x (handed d input)
  change (run rt x (handed d input)).session.driver = drive d calls at hdriver
  change Continues d (run rt x (handed d input)).session.driver
  rw [hdriver]
  exact continues_drive d calls

end Turns

section Sequences

/-- From the moment the driver has left the start, operations leave the runs
among them without effect. -/
theorem refused_of_ne_created {d : StateDriver} (hm : IsDefault d.machine)
    (hd : d.currentStateId ≠ .created) (ops : List Operation) :
    ∀ t ∈ (operate d ops).2, ¬ t.Effective ∧ t.report.session.driver = t.given := by
  induction ops generalizing d with
  | nil => simp [operate]
  | cons op ops ih =>
      cases op with
      | trigger call =>
          have hcontinues := continues_after d call
          exact ih (isDefault_of_continues hm hcontinues)
            (continues_ne_created hm hcontinues hd)
      | run rt x input =>
          obtain ⟨hsession, houtcome⟩ := turn_refused rt x input hm hd
          have hcontinues := continues_turn (d := d) rt x input
          intro t ht
          rcases List.mem_cons.mp ht with rfl | ht
          · refine ⟨?_, by rw [hsession]; rfl⟩
            rintro (hcalls | ⟨r, hr⟩)
            · exact hcalls (by rw [hsession]; rfl)
            · exact houtcome r hr
          · exact ih (isDefault_of_continues hm hcontinues)
              (continues_ne_created hm hcontinues hd) t ht

theorem calls_length_le_one (rt : Runtime) (x : PipelineExecutor) (input : PipelineInput) :
    (calls (run rt x input).session).length ≤ 1 := by
  rcases calls_cases rt x input with hnone | ⟨t, -, -, -, hcall⟩
  · simp [hnone]
  · simp [hcall]

theorem ne_created_of_turn {d : StateDriver} (hm : IsDefault d.machine) (rt : Runtime)
    (x : PipelineExecutor) (input : PipelineInput) :
    (turn d rt x input).report.session.driver.currentStateId ≠ .created := by
  by_cases hd : d.currentStateId = .created
  · exact turn_leaves_created rt x input hm hd
  · exact continues_ne_created hm (continues_turn rt x input) hd

/-- Only the first run of a sequence may have an effect. -/
theorem refused_of_mem_tail (d : StateDriver) (hm : IsDefault d.machine) (ops : List Operation) :
    ∀ t ∈ (operate d ops).2.tail, ¬ t.Effective ∧ t.report.session.driver = t.given := by
  induction ops generalizing d with
  | nil => simp [operate]
  | cons op ops ih =>
      cases op with
      | trigger call => exact ih _ (isDefault_of_continues hm (continues_after d call))
      | run rt x input =>
          exact refused_of_ne_created (isDefault_of_continues hm (continues_turn rt x input))
            (ne_created_of_turn hm rt x input) ops

theorem calls_of_not_effective {ts : List Turn} (h : ∀ t ∈ ts, ¬ t.Effective) :
    ts.flatMap (fun t => calls t.report.session) = [] := by
  rw [List.flatMap_eq_nil_iff]
  intro t ht
  by_contra hcalls
  exact h t ht (.inl hcalls)

theorem length_calls_le_one {ts : List Turn}
    (hhead : ∀ t ∈ ts.head?, (calls t.report.session).length ≤ 1)
    (htail : ∀ t ∈ ts.tail, ¬ t.Effective) :
    (ts.flatMap fun t => calls t.report.session).length ≤ 1 := by
  cases ts with
  | nil => simp
  | cons t ts =>
      have hnone : ts.flatMap (fun t => calls t.report.session) = [] :=
        calls_of_not_effective htail
      rw [List.flatMap_cons, hnone, List.append_nil]
      exact hhead t rfl

theorem length_calls_turn (d : StateDriver) (ops : List Operation) :
    ∀ t ∈ (operate d ops).2, (calls t.report.session).length ≤ 1 := by
  induction ops generalizing d with
  | nil => simp [operate]
  | cons op ops ih =>
      cases op with
      | trigger call => exact ih (after d call)
      | run rt x input =>
          intro t ht
          rcases List.mem_cons.mp ht with rfl | ht
          · exact calls_length_le_one rt x (handed d input)
          · exact ih _ t ht

/-- Whatever is done with a driver of the default machine, in whatever order, only
the first run may have an effect: the back ends of all runs are called once at
most, and every other run raises and leaves the driver as it was handed over. -/
theorem one_effective_run (d : StateDriver) (hm : IsDefault d.machine) (ops : List Operation) :
    let turns := (operate d ops).2
    (turns.flatMap fun t => calls t.report.session).length ≤ 1 ∧
    (∀ t ∈ turns.tail, ¬ t.Effective ∧ t.report.session.driver = t.given) ∧
    (d.currentStateId ≠ .created →
      ∀ t ∈ turns, ¬ t.Effective ∧ t.report.session.driver = t.given) := by
  intro turns
  have htail := refused_of_mem_tail d hm ops
  refine ⟨length_calls_le_one ?_ fun t ht => (htail t ht).1, htail, fun hd => ?_⟩
  · intro t ht
    exact length_calls_turn d ops t (List.mem_of_head? ht)
  · exact refused_of_ne_created hm hd ops

/-- Two runs and a cancellation in between. -/
def contested : List Operation :=
  [.run asciiRuntime {} (minimalInput none), .trigger { event := .cancelRun },
    .run asciiRuntime {} (minimalInput none)]

theorem one_effective_run_contested :
    ((operate {} contested).2.flatMap fun t => calls t.report.session).length ≤ 1 ∧
      ∀ t ∈ (operate {} contested).2.tail, ¬ t.Effective :=
  have h := one_effective_run {} isDefault_harnessV1 contested
  ⟨h.1, fun t ht => (h.2.1 t ht).1⟩

end Sequences

section Stranded

variable (rt : Runtime) (x : PipelineExecutor) (input : PipelineInput)

/-- The states in which only a run that raises leaves a driver. -/
def midway : List RunState :=
  [.assemblingPrompt, .toolPending, .toolRunning, .verifying]

theorem success_eq_none_iff (k : ReviewKind) (c : Course) :
    c.success = none ↔ (c.trail k).state ∈ midway := by
  cases c <;> simp [Course.success, Course.trail, midway]

theorem raised_iff_midway (hfresh : input.driver = {}) :
    (∃ e, (run rt x input).outcome = .error e) ↔
      (run rt x input).session.driver.currentStateId ∈ midway := by
  obtain ⟨htrail, hsuccess⟩ := took_course rt x input hfresh
  have hstate := congrArg Trail.state htrail
  change (run rt x input).session.driver.currentStateId = _ at hstate
  rw [hstate, ← success_eq_none_iff, ← hsuccess]
  rcases (run rt x input).outcome with e | r
  · simp [Except.toOption]
  · simp [Except.toOption]

/-- A run on a fresh driver raises exactly when it leaves the driver midway; and
then the driver has steps to take, but no later run, whatever is triggered in
between, gets anything out of it. -/
theorem raised_iff_stranded (hfresh : input.driver = {}) :
    let d := (run rt x input).session.driver
    ((∃ e, (run rt x input).outcome = .error e) ↔ d.currentStateId ∈ midway) ∧
    (d.currentStateId ∈ midway → d.isTerminal = false ∧ ∀ ops,
      ∀ t ∈ (operate d ops).2, ¬ t.Effective ∧ t.report.session.driver = t.given) := by
  intro d
  refine ⟨raised_iff_midway rt x input hfresh, fun hmidway => ?_⟩
  have hmachine : d.machine = harnessV1 := by
    rw [machine_run, hfresh]
  have hdefault : IsDefault d.machine := hmachine ▸ isDefault_harnessV1
  have hstates : ∀ s ∈ midway, s ∉ harnessV1.terminalStates ∧ s ≠ .created := by decide
  obtain ⟨hterminal, hcreated⟩ := hstates _ hmidway
  refine ⟨?_, refused_of_ne_created hdefault hcreated⟩
  rw [← Bool.not_eq_true, StateDriver.isTerminal_iff, hmachine]
  exact hterminal

/-- Without a model name the invocation cannot be built. -/
def unnamedModel : PipelineInput :=
  { minimalInput none with modelName := " " }

theorem raised_iff_stranded_unnamedModel :
    ∃ e, (run asciiRuntime {} unnamedModel).outcome = .error e := by
  refine (raised_iff_stranded asciiRuntime {} unnamedModel rfl).1.mpr ?_
  have hcourse : course asciiRuntime {} unnamedModel = .unrequested := by decide +kernel
  have hstate := congrArg Trail.state (took_course asciiRuntime {} unnamedModel rfl).1
  rw [hcourse] at hstate
  change _ ∈ midway
  rw [show (run asciiRuntime {} unnamedModel).session.driver.currentStateId = .toolPending
    from hstate]
  decide

end Stranded

end NovaHarness.SharedDrivers
