import NovaHarness.RecordValidation

namespace NovaHarness.RunningLoops

open NovaHarness.Text
open NovaHarness.RecordValidation

inductive LoopGoalType where
  | build
  | repair
  | verify
  | refactor
  | research
  | maintain
  deriving DecidableEq, Repr

inductive LoopStatus where
  | ready
  | running
  | paused
  | blocked
  | completed
  | exhausted
  | failed
  deriving DecidableEq, Repr

inductive LoopStopReason where
  | success
  | noWork
  | blockedExternal
  | maxIterations
  | budgetExceeded
  | repeatedNoProgress
  | approvalRequired
  | verificationFailed
  deriving DecidableEq, Repr

def TERMINAL_STATUSES : List LoopStatus := [.completed, .exhausted, .failed]

section Records

structure LoopIterationRecord where
  iteration : Int
  progressDelta : Option String := none
  verificationResult : Option String := none
  deriving DecidableEq, Repr

def LoopIterationRecord.validate (raw : LoopIterationRecord) : Validated LoopIterationRecord :=
  fields (check "iteration" "iteration must be >= 1" (¬ raw.iteration < 1)) raw

structure LoopMemorySnapshot where
  currentObjective : String
  nextAction : String := ""
  deriving DecidableEq, Repr

def LoopMemorySnapshot.validate (raw : LoopMemorySnapshot) : Validated LoopMemorySnapshot :=
  fields
    (nonBlank "current_objective" "current_objective must not be blank" raw.currentObjective)
    { raw with currentObjective := strip raw.currentObjective }

structure LoopExecutionPlan where
  loopId : String
  maxIterations : Int := 50
  maxNoProgressIterations : Int := 5
  verificationRequired : Bool := true
  deriving DecidableEq, Repr

def LoopExecutionPlan.validate (raw : LoopExecutionPlan) : Validated LoopExecutionPlan :=
  fields
    (nonBlank "loop_id" "loop_id must not be blank" raw.loopId ++
      check "max_iterations" "max_iterations must be > 0" (¬ raw.maxIterations < 1) ++
      check "max_no_progress_iterations" "max_no_progress_iterations must be >= 0"
        (¬ raw.maxNoProgressIterations < 0))
    { raw with loopId := strip raw.loopId }

structure RunningLoopContractEnvelope where
  envelopeId : String
  status : LoopStatus := .ready
  stopReason : Option LoopStopReason := none
  goal : LoopGoalType
  objective : String
  plan : LoopExecutionPlan
  cycles : List LoopIterationRecord := []
  memory : LoopMemorySnapshot
  deriving DecidableEq, Repr

namespace RunningLoopContractEnvelope

/-- The field validator of `cycles`, which returns what it gets. -/
def enforceMaxIterations (cycles : List LoopIterationRecord) : List LoopIterationRecord :=
  cycles

def stopReasonAlignedWithStatus (envelope : RunningLoopContractEnvelope) : Validated Unit := do
  require (¬ (envelope.status ∈ TERMINAL_STATUSES ∧ envelope.stopReason = none))
    "terminal status requires a stop_reason"
  require (¬ (envelope.stopReason ≠ none ∧ envelope.status ∉ TERMINAL_STATUSES))
    "stop_reason requires terminal status (COMPLETED/EXHAUSTED/FAILED)"

/-- `self.cycles[-n:]` for a positive `n`. -/
def lastCycles (envelope : RunningLoopContractEnvelope) : List LoopIterationRecord :=
  envelope.cycles.drop (envelope.cycles.length - envelope.plan.maxNoProgressIterations.toNat)

def repeatedNoProgressEnforced (envelope : RunningLoopContractEnvelope) : Validated Unit :=
  if envelope.stopReason = some .repeatedNoProgress then
    if envelope.goal = .maintain then .ok ()
    else
      let hasRepeated : Bool :=
        if envelope.plan.maxNoProgressIterations > 0 then
          envelope.lastCycles.any fun c =>
            c.progressDelta == some "none" || c.progressDelta == some "no_progress"
        else true
      -- the branch that finds no repetition only passes
      if hasRepeated = false ∧ 2 ≤ envelope.cycles.length then .ok ()
      else .ok ()
  else .ok ()

def activeLoopHasNextAction (envelope : RunningLoopContractEnvelope) : Validated Unit :=
  require (¬ (envelope.status = .running ∧ IsBlank envelope.memory.nextAction))
    "active loop (RUNNING) must have non-empty memory.next_action"

def verificationForCompletedCycles (envelope : RunningLoopContractEnvelope) : Validated Unit :=
  whenever ((envelope.status = .completed ∨ envelope.status = .exhausted) ∧
      envelope.plan.verificationRequired = true)
    (envelope.cycles |> forEach fun c =>
      require (∃ result ∈ c.verificationResult, strip result ≠ "")
        "completed/exhausted loop requires verification_result on all cycles")

def normalized (raw : RunningLoopContractEnvelope) : RunningLoopContractEnvelope :=
  { raw with
    envelopeId := strip raw.envelopeId
    objective := strip raw.objective
    plan := valueD raw.plan.validate raw.plan
    cycles := enforceMaxIterations (listValues LoopIterationRecord.validate raw.cycles)
    memory := valueD raw.memory.validate raw.memory }

def rules (envelope : RunningLoopContractEnvelope) : Validated Unit := do
  envelope.stopReasonAlignedWithStatus
  envelope.repeatedNoProgressEnforced
  envelope.activeLoopHasNextAction
  envelope.verificationForCompletedCycles

def validate (raw : RunningLoopContractEnvelope) : Validated RunningLoopContractEnvelope :=
  twoLayers
    (filled "envelope_id" raw.envelopeId ++ filled "objective" raw.objective ++
      errorsUnder "plan" raw.plan.validate ++
      listErrors "cycles" LoopIterationRecord.validate raw.cycles ++
      errorsUnder "memory" raw.memory.validate)
    raw.normalized rules

instance : Schema RunningLoopContractEnvelope := ⟨fun _ => validate⟩

/-- What the field validators ask for. -/
structure FieldsValid (raw : RunningLoopContractEnvelope) : Prop where
  envelopeId : ¬ IsBlank raw.envelopeId
  objective : ¬ IsBlank raw.objective
  plan : ∃ plan, raw.plan.validate = .ok plan
  cycles : ∀ c ∈ raw.cycles, 1 ≤ c.iteration
  memory : ∃ memory, raw.memory.validate = .ok memory

/-- What the validators of the whole envelope ask for. -/
structure RulesHold (envelope : RunningLoopContractEnvelope) : Prop where
  stopReason : envelope.status ∈ TERMINAL_STATUSES ↔ envelope.stopReason ≠ none
  nextAction : envelope.status = .running → ¬ IsBlank envelope.memory.nextAction
  verified : envelope.status = .completed ∨ envelope.status = .exhausted →
    envelope.plan.verificationRequired = true →
      ∀ c ∈ envelope.cycles, ∃ result ∈ c.verificationResult, ¬ IsBlank result

theorem stopReasonAlignedWithStatus_eq_ok (envelope : RunningLoopContractEnvelope) (u : Unit) :
    envelope.stopReasonAlignedWithStatus = .ok u ↔
      (envelope.status ∈ TERMINAL_STATUSES ↔ envelope.stopReason ≠ none) := by
  simp only [stopReasonAlignedWithStatus, unit_bind_eq_ok, require_eq_ok]
  constructor
  · rintro ⟨hreason, hterminal⟩
    exact ⟨fun h hnone => hreason ⟨h, hnone⟩, fun h => by_contra fun hne => hterminal ⟨h, hne⟩⟩
  · exact fun h => ⟨fun hne => h.mp hne.1 hne.2, fun hne => hne.2 (h.mpr hne.1)⟩

/-- A loop without progress is not held against anything. -/
theorem repeatedNoProgressEnforced_eq_ok (envelope : RunningLoopContractEnvelope) :
    envelope.repeatedNoProgressEnforced = .ok () := by
  simp only [repeatedNoProgressEnforced, ite_self]

theorem validate_eq_ok (raw envelope : RunningLoopContractEnvelope) :
    raw.validate = .ok envelope ↔
      raw.FieldsValid ∧ envelope.RulesHold ∧ raw.normalized = envelope := by
  simp only [validate, twoLayers_eq_ok, rules, unit_bind_eq_ok, List.append_eq_nil_iff,
    filled_eq_nil, errorsUnder_eq_nil, listErrors_eq_nil, stopReasonAlignedWithStatus_eq_ok,
    repeatedNoProgressEnforced_eq_ok, activeLoopHasNextAction, verificationForCompletedCycles,
    LoopIterationRecord.validate, fields_eq_ok, check_eq_nil, require_eq_ok, whenever_eq_ok,
    forEach_eq_ok]
  constructor
  · rintro ⟨⟨⟨⟨⟨⟨hid, hobjective⟩, hplan⟩, hcycles⟩, hmemory⟩, hreason, -, haction, hverified⟩, rfl⟩
    refine ⟨⟨hid, hobjective, hplan, fun c hc => ?_, hmemory⟩, ⟨hreason, ?_, ?_⟩, rfl⟩
    · obtain ⟨_, hiteration, -⟩ := hcycles c hc
      exact not_lt.mp hiteration
    · exact fun hrunning hblank => haction ⟨hrunning, hblank⟩
    · exact fun hstatus hrequired => hverified ⟨hstatus, hrequired⟩
  · rintro ⟨⟨hid, hobjective, hplan, hcycles, hmemory⟩, ⟨hreason, haction, hverified⟩, rfl⟩
    refine ⟨⟨⟨⟨⟨⟨hid, hobjective⟩, hplan⟩, fun c hc => ?_⟩, hmemory⟩, hreason, trivial, ?_, ?_⟩, rfl⟩
    · exact ⟨c, not_lt.mpr (hcycles c hc), rfl⟩
    · exact fun h => haction h.1 h.2
    · exact fun h => hverified h.1 h.2

end RunningLoopContractEnvelope

end Records

open RunningLoopContractEnvelope

section Iterations

variable {raw envelope : RunningLoopContractEnvelope}

theorem validate_iteration {c : LoopIterationRecord} (h : 1 ≤ c.iteration) :
    c.validate = .ok c :=
  (fields_eq_ok _ _ _).mpr ⟨(check_eq_nil _ _ _).mpr (not_lt.mpr h), rfl⟩

theorem stable_plan : Stable LoopExecutionPlan.validate :=
  stable_fields (by simp) (by simp [strip_strip])

theorem stable_memory : Stable LoopMemorySnapshot.validate :=
  stable_fields (by simp) (by simp [strip_strip])

theorem cycles_normalized (h : ∀ c ∈ raw.cycles, 1 ≤ c.iteration) :
    raw.normalized.cycles = raw.cycles :=
  listValues_eq_self fun c hc => validate_iteration (h c hc)

theorem fieldsValid_normalized (h : raw.FieldsValid) : raw.normalized.FieldsValid := by
  obtain ⟨hid, hobjective, ⟨plan, hplan⟩, hcycles, ⟨memory, hmemory⟩⟩ := h
  refine ⟨?_, ?_, ⟨plan, ?_⟩, ?_, ⟨memory, ?_⟩⟩
  · rwa [normalized, isBlank_strip]
  · rwa [normalized, isBlank_strip]
  · rw [normalized, hplan, valueD_ok]
    exact stable_plan _ _ hplan
  · rwa [cycles_normalized hcycles]
  · rw [normalized, hmemory, valueD_ok]
    exact stable_memory _ _ hmemory

theorem normalized_normalized (h : raw.FieldsValid) :
    raw.normalized.normalized = raw.normalized := by
  obtain ⟨-, -, ⟨plan, hplan⟩, hcycles, ⟨memory, hmemory⟩⟩ := h
  have hkept := cycles_normalized hcycles
  simp only [normalized, enforceMaxIterations] at hkept
  simp only [normalized, enforceMaxIterations, strip_strip, hplan, hmemory, valueD_ok,
    stable_plan _ _ hplan, stable_memory _ _ hmemory, hkept]

theorem stable_envelope : Stable RunningLoopContractEnvelope.validate := by
  intro raw envelope h
  obtain ⟨hfields, hrules, rfl⟩ := (validate_eq_ok raw envelope).mp h
  exact (validate_eq_ok _ _).mpr
    ⟨fieldsValid_normalized hfields, hrules, normalized_normalized hfields⟩

/-- The same loop with other numbers for its iterations, given by position. -/
def renumber (number : Nat → Int) (envelope : RunningLoopContractEnvelope) :
    RunningLoopContractEnvelope :=
  { envelope with
    cycles := envelope.cycles.mapIdx fun i c => { c with iteration := number i } }

theorem exists_of_mem_renumber {number : Nat → Int} {c : LoopIterationRecord}
    (h : c ∈ (renumber number envelope).cycles) :
    ∃ i, ∃ c' ∈ envelope.cycles, c = { c' with iteration := number i } := by
  obtain ⟨i, hi, rfl⟩ := List.mem_mapIdx.mp h
  exact ⟨i, envelope.cycles[i], List.getElem_mem hi, rfl⟩

theorem renumber_accepted {number : Nat → Int} (hnumber : ∀ i, 1 ≤ number i)
    (h : envelope.validate = .ok envelope) :
    (renumber number envelope).validate = .ok (renumber number envelope) := by
  obtain ⟨⟨hid, hobjective, hplan, -, hmemory⟩, ⟨hreason, haction, hverified⟩, hnormal⟩ :=
    (validate_eq_ok envelope envelope).mp h
  have hpositive : ∀ c ∈ (renumber number envelope).cycles, 1 ≤ c.iteration := by
    intro c hc
    obtain ⟨i, _, -, rfl⟩ := exists_of_mem_renumber hc
    exact hnumber i
  refine (validate_eq_ok _ _).mpr
    ⟨⟨hid, hobjective, hplan, hpositive, hmemory⟩, ⟨hreason, haction, ?_⟩, ?_⟩
  · intro hstatus hrequired c hc
    obtain ⟨_, c', hc', rfl⟩ := exists_of_mem_renumber hc
    exact hverified hstatus hrequired c' hc'
  · have hcycles := cycles_normalized hpositive
    have hrest : (renumber number envelope).normalized =
        { envelope.normalized with cycles := (renumber number envelope).normalized.cycles } := by
      simp only [normalized, renumber]
    rw [hrest, hcycles, hnormal, renumber]

/-- As many iterations as the plan allows, numbered in order. -/
structure IterationsBounded (envelope : RunningLoopContractEnvelope) : Prop where
  bounded : envelope.cycles.length ≤ envelope.plan.maxIterations
  increasing : (envelope.cycles.map (·.iteration)).Pairwise (· < ·)

/-- What an accepted loop says of its iterations, each looked at by itself. -/
structure IterationsChecked (envelope : RunningLoopContractEnvelope) : Prop where
  maxIterations : 1 ≤ envelope.plan.maxIterations
  positive : ∀ c ∈ envelope.cycles, 1 ≤ c.iteration
  verified : envelope.status = .completed ∨ envelope.status = .exhausted →
    envelope.plan.verificationRequired = true →
      ∀ c ∈ envelope.cycles, ∃ result ∈ c.verificationResult, ¬ IsBlank result

/-- The number of an iteration is not compared with those of the others: any
positive numbers will do. -/
theorem iterations_checked (envelope : Accepted RunningLoopContractEnvelope) :
    IterationsChecked envelope.1 ∧
      ∀ number : Nat → Int, (∀ i, 1 ≤ number i) →
        (renumber number envelope.1).validate = .ok (renumber number envelope.1) := by
  have hagain := stable_envelope.of_accepted (fun _ _ => by rfl) envelope
  refine ⟨?_, fun number hnumber => renumber_accepted hnumber hagain⟩
  obtain ⟨⟨-, -, ⟨plan, hplan⟩, hcycles, -⟩, ⟨-, -, hverified⟩, -⟩ :=
    (validate_eq_ok envelope.1 envelope.1).mp hagain
  simp only [LoopExecutionPlan.validate, fields_eq_ok, List.append_eq_nil_iff, check_eq_nil,
    not_lt] at hplan
  exact ⟨hplan.1.1.2, hcycles, hverified⟩

def loopOf (maxIterations : Int) (iterations : List Int) : RunningLoopContractEnvelope where
  envelopeId := "env-1"
  goal := .build
  objective := "Build the feature"
  plan := { loopId := "loop-1", maxIterations := maxIterations }
  cycles := iterations.map fun n => { iteration := n }
  memory := { currentObjective := "Build the feature" }

def inOrder : Accepted RunningLoopContractEnvelope :=
  build (loopOf 50 [1, 2]) (by decide)

theorem iterations_checked_inOrder :
    (renumber (fun _ => 7) inOrder.1).validate = .ok (renumber (fun _ => 7) inOrder.1) :=
  (iterations_checked inOrder).2 (fun _ => 7) (fun _ => by decide)

def overPlan : Accepted RunningLoopContractEnvelope :=
  build (loopOf 1 [1, 2]) (by decide)

def sameNumber : Accepted RunningLoopContractEnvelope :=
  build (loopOf 50 [1, 1]) (by decide)

/-- There may be more iterations than planned, and two of one number. -/
theorem iterations_not_bounded :
    ¬ IterationsBounded overPlan.1 ∧ ¬ IterationsBounded sameNumber.1 := by
  refine ⟨fun h => ?_, fun h => ?_⟩
  · exact absurd h.bounded (by decide)
  · exact absurd h.increasing (by decide)

end Iterations

end NovaHarness.RunningLoops
