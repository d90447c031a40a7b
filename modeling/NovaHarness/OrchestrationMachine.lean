import Mathlib.Data.Finset.Card
import NovaHarness.RecordValidation

namespace NovaHarness.OrchestrationMachine

open NovaHarness.Text
open NovaHarness.RecordValidation

inductive RunState where
  | created
  | assemblingPrompt
  | modelPending
  | modelCompleted
  | toolPending
  | toolRunning
  | verifying
  | awaitingApproval
  | retryPending
  | succeeded
  | failed
  | cancelled
  deriving DecidableEq, Repr

def RunState.value : RunState → String
  | .created => "created"
  | .assemblingPrompt => "assembling_prompt"
  | .modelPending => "model_pending"
  | .modelCompleted => "model_completed"
  | .toolPending => "tool_pending"
  | .toolRunning => "tool_running"
  | .verifying => "verifying"
  | .awaitingApproval => "awaiting_approval"
  | .retryPending => "retry_pending"
  | .succeeded => "succeeded"
  | .failed => "failed"
  | .cancelled => "cancelled"

theorem RunState.value_injective : Function.Injective RunState.value := by
  intro s t h
  cases s <;> cases t <;> first | rfl | exact absurd h (by decide)

inductive RunEvent where
  | startRun
  | promptReady
  | modelResponseReceived
  | toolCallRequested
  | noToolNeeded
  | toolApprovedOrNotRequired
  | approvalRequired
  | approvalGranted
  | approvalRejected
  | toolCompleted
  | toolFailedRetryable
  | verificationPassed
  | verificationFailedRetryable
  | verificationFailedTerminal
  | retryAllowed
  | cancelRun
  deriving DecidableEq, Repr

def RunEvent.value : RunEvent → String
  | .startRun => "start_run"
  | .promptReady => "prompt_ready"
  | .modelResponseReceived => "model_response_received"
  | .toolCallRequested => "tool_call_requested"
  | .noToolNeeded => "no_tool_needed"
  | .toolApprovedOrNotRequired => "tool_approved_or_not_required"
  | .approvalRequired => "approval_required"
  | .approvalGranted => "approval_granted"
  | .approvalRejected => "approval_rejected"
  | .toolCompleted => "tool_completed"
  | .toolFailedRetryable => "tool_failed_retryable"
  | .verificationPassed => "verification_passed"
  | .verificationFailedRetryable => "verification_failed_retryable"
  | .verificationFailedTerminal => "verification_failed_terminal"
  | .retryAllowed => "retry_allowed"
  | .cancelRun => "cancel_run"

structure TransitionGuard where
  name : String
  description : String
  deriving DecidableEq, Repr

def TransitionGuard.validate (raw : TransitionGuard) : Validated TransitionGuard :=
  fields (nonBlank "name" "guard name must not be empty" raw.name)
    { raw with name := strip raw.name }

structure TransitionRule where
  fromState : RunState
  event : RunEvent
  toState : RunState
  guards : List TransitionGuard := []
  deriving DecidableEq, Repr

def TransitionRule.validate (raw : TransitionRule) : Validated TransitionRule :=
  fields (listErrors "guards" TransitionGuard.validate raw.guards)
    { raw with guards := listValues TransitionGuard.validate raw.guards }

/-- What may occur once in a machine: a state together with an event. -/
def TransitionRule.key (t : TransitionRule) : RunState × RunEvent :=
  (t.fromState, t.event)

/-- A `Dict[str, bool]` from guard names to results. -/
abbrev GuardResults := List (String × Bool)

structure OrchestrationStateMachine where
  machineId : String
  initialState : RunState := .created
  terminalStates : List RunState := [.succeeded, .failed, .cancelled]
  transitions : List TransitionRule := []
  deriving DecidableEq, Repr

namespace OrchestrationStateMachine

/-- The text of a pair that `noDuplicateTransitionPairs` complains about.
Formatting a member of an enumeration writes its class and name. -/
def duplicatePairMsg : Option (RunState × RunEvent) → String
  | none => ""
  | some (s, e) =>
      "duplicate transition pair: from_state=RunState." ++ s.value.toUpper ++
        ", event=RunEvent." ++ e.value.toUpper

def usedStates (m : OrchestrationStateMachine) : List RunState :=
  m.initialState :: (m.transitions.map (·.fromState) ++ m.transitions.map (·.toState))

/-- The used states that are neither terminal nor the source of a transition.
The source collects them in a set; here they come in order of first use. -/
def missing (m : OrchestrationStateMachine) : List RunState :=
  m.usedStates.dedup.filter fun s =>
    s ∉ m.terminalStates ∧ s ∉ m.transitions.map (·.fromState)

def normalized (raw : OrchestrationStateMachine) : OrchestrationStateMachine :=
  { raw with
    machineId := strip raw.machineId
    transitions := listValues TransitionRule.validate raw.transitions }

def validate (raw : OrchestrationStateMachine) : Validated OrchestrationStateMachine := do
  let m ← fields
    (nonBlank "machine_id" "machine_id must not be empty" raw.machineId ++
      listErrors "transitions" TransitionRule.validate raw.transitions)
    raw.normalized
  require (m.initialState ∉ m.terminalStates) "initial_state must not be a terminal state"
  require (m.terminalStates.dedup.length = m.terminalStates.length)
    "terminal_states must be unique"
  require (firstRepeat [] (m.transitions.map (·.key)) = none)
    (duplicatePairMsg (firstRepeat [] (m.transitions.map (·.key))))
  require (m.missing = [])
    ("non-terminal states without outgoing transitions: " ++
      joinComma (m.missing.map (·.value)))
  return m

instance : Schema OrchestrationStateMachine := ⟨fun _ => validate⟩

structure WellFormed (m : OrchestrationStateMachine) : Prop where
  initial_notMem_terminal : m.initialState ∉ m.terminalStates
  terminal_nodup : m.terminalStates.Nodup
  key_nodup : (m.transitions.map (·.key)).Nodup
  outgoing : ∀ s ∈ m.usedStates, s ∉ m.terminalStates →
    ∃ t ∈ m.transitions, t.fromState = s

theorem missing_eq_nil_iff (m : OrchestrationStateMachine) :
    m.missing = [] ↔ ∀ s ∈ m.usedStates, s ∉ m.terminalStates →
      ∃ t ∈ m.transitions, t.fromState = s := by
  simp only [missing, List.filter_eq_nil_iff, List.mem_dedup, decide_eq_true_eq,
    List.mem_map, not_and, not_not]

theorem dedup_length_eq_iff (xs : List RunState) :
    xs.dedup.length = xs.length ↔ xs.Nodup :=
  Multiset.dedup_card_eq_card_iff_nodup (m := (xs : Multiset RunState))

theorem validate_eq_ok (raw m : OrchestrationStateMachine) :
    raw.validate = .ok m ↔
      ¬ IsBlank raw.machineId ∧ (∀ t ∈ raw.transitions, ∃ t', t.validate = .ok t') ∧
        raw.normalized = m ∧ m.WellFormed := by
  simp only [validate, bind_eq_ok, fields_eq_ok, require_eq_ok, pure_eq_ok,
    List.append_eq_nil_iff, nonBlank_eq_nil, listErrors_eq_nil]
  constructor
  · rintro ⟨m', ⟨⟨hid, htransitions⟩, rfl⟩, _, hinitial, _, hterminal, _, hkeys, _, hmissing, rfl⟩
    rw [dedup_length_eq_iff] at hterminal
    rw [firstRepeat_eq_none_iff] at hkeys
    rw [missing_eq_nil_iff] at hmissing
    exact ⟨hid, htransitions, rfl, hinitial, hterminal, hkeys.1, hmissing⟩
  · rintro ⟨hid, htransitions, rfl, hwf⟩
    refine ⟨_, ⟨⟨hid, htransitions⟩, rfl⟩, (), hwf.initial_notMem_terminal, (),
      (dedup_length_eq_iff _).mpr hwf.terminal_nodup, (), ?_, (),
      (missing_eq_nil_iff _).mpr hwf.outgoing, rfl⟩
    exact (firstRepeat_eq_none_iff _ _).mpr ⟨hwf.key_nodup, by simp⟩

theorem wellFormed (m : Accepted OrchestrationStateMachine) : m.1.WellFormed := by
  obtain ⟨_, raw, h⟩ := m.2
  exact ((validate_eq_ok raw m.1).mp h).2.2.2

def selects (m : OrchestrationStateMachine) (s : RunState)
    (event : RunEvent) : Option TransitionRule :=
  (m.transitions.filter fun t => t.fromState = s ∧ t.event = event).head?

/-- The steps of a machine: out of a state that is not terminal, along the
transition the event selects, unless one of its guards is reported false. -/
def Takes (m : OrchestrationStateMachine) (s : RunState)
    (event : RunEvent) (resolved : GuardResults) (s' : RunState) : Prop :=
  s ∉ m.terminalStates ∧ ∃ t, m.selects s event = some t ∧
    (∀ g ∈ t.guards, resolved.lookup g.name ≠ some false) ∧ t.toState = s'

theorem mem_of_selects {m : OrchestrationStateMachine}
    {s : RunState} {event : RunEvent} {t : TransitionRule} (h : m.selects s event = some t) :
    t ∈ m.transitions ∧ t.fromState = s ∧ t.event = event := by
  simpa using List.mem_of_head? h

/-- The state an event leads to, if the machine has a step for it. -/
def next (m : OrchestrationStateMachine) (s : RunState) (event : RunEvent)
    (resolved : GuardResults) : Option RunState :=
  if s ∈ m.terminalStates then none
  else (m.selects s event).bind fun t =>
    if ∀ g ∈ t.guards, resolved.lookup g.name ≠ some false then some t.toState else none

theorem next_eq_some_iff (m : OrchestrationStateMachine) (s : RunState) (event : RunEvent)
    (resolved : GuardResults) (s' : RunState) :
    m.next s event resolved = some s' ↔ m.Takes s event resolved s' := by
  rw [next, Takes]
  split
  · rename_i hterminal
    simp [hterminal]
  · rename_i hterminal
    simp [hterminal, Option.bind_eq_some_iff]

/-- The state a sequence of events leads to, if the machine has a step for each. -/
def walk (m : OrchestrationStateMachine) (s : RunState) (events : List (RunEvent × GuardResults)) :
    Option RunState :=
  events.foldlM (fun s e => m.next s e.1 e.2) s

theorem walk_append (m : OrchestrationStateMachine) (s : RunState)
    (events events' : List (RunEvent × GuardResults)) :
    m.walk s (events ++ events') = (m.walk s events).bind (m.walk · events') := by
  rw [walk, List.foldlM_append]
  rfl

theorem next_of_walk_append {m : OrchestrationStateMachine} {s s' : RunState}
    {events : List (RunEvent × GuardResults)} {event : RunEvent} {resolved : GuardResults}
    (h : m.walk s (events ++ [(event, resolved)]) = some s') :
    ∃ s₁, m.next s₁ event resolved = some s' := by
  rw [walk_append] at h
  obtain ⟨s₁, -, hlast⟩ := Option.bind_eq_some_iff.mp h
  refine ⟨s₁, ?_⟩
  simpa [walk] using hlast

end OrchestrationStateMachine

def retryBudget : List TransitionGuard :=
  [{ name := "retry_budget_available"
     description := "Retry count has not exceeded max_retries" }]

def approvalGate : List TransitionGuard :=
  [{ name := "approval_granted_if_required"
     description := "Approval has been granted by the required approver" }]

def defaultTransitions : List TransitionRule :=
  [{ fromState := .created, event := .startRun, toState := .assemblingPrompt },
   { fromState := .assemblingPrompt, event := .promptReady, toState := .modelPending },
   { fromState := .modelPending, event := .modelResponseReceived, toState := .modelCompleted },
   { fromState := .modelCompleted, event := .toolCallRequested, toState := .toolPending },
   { fromState := .modelCompleted, event := .noToolNeeded, toState := .verifying },
   { fromState := .toolPending, event := .toolApprovedOrNotRequired, toState := .toolRunning },
   { fromState := .toolPending, event := .approvalRequired, toState := .awaitingApproval },
   { fromState := .awaitingApproval, event := .approvalGranted, toState := .toolRunning
     guards := approvalGate },
   { fromState := .awaitingApproval, event := .approvalRejected, toState := .failed },
   { fromState := .toolRunning, event := .toolCompleted, toState := .verifying },
   { fromState := .toolRunning, event := .toolFailedRetryable, toState := .retryPending },
   { fromState := .verifying, event := .verificationPassed, toState := .succeeded },
   { fromState := .verifying, event := .verificationFailedRetryable, toState := .retryPending },
   { fromState := .verifying, event := .verificationFailedTerminal, toState := .failed },
   { fromState := .retryPending, event := .retryAllowed, toState := .assemblingPrompt
     guards := retryBudget },
   -- Cancel from every non-terminal state
   { fromState := .created, event := .cancelRun, toState := .cancelled },
   { fromState := .assemblingPrompt, event := .cancelRun, toState := .cancelled },
   { fromState := .modelPending, event := .cancelRun, toState := .cancelled },
   { fromState := .modelCompleted, event := .cancelRun, toState := .cancelled },
   { fromState := .toolPending, event := .cancelRun, toState := .cancelled },
   { fromState := .toolRunning, event := .cancelRun, toState := .cancelled },
   { fromState := .verifying, event := .cancelRun, toState := .cancelled },
   { fromState := .awaitingApproval, event := .cancelRun, toState := .cancelled },
   { fromState := .retryPending, event := .cancelRun, toState := .cancelled }]

def defaultParts (machineId : String) : OrchestrationStateMachine where
  machineId := machineId
  initialState := .created
  terminalStates := [.succeeded, .failed, .cancelled]
  transitions := defaultTransitions

def defaultMachine (machineId : String := "harness-v1") : Validated OrchestrationStateMachine :=
  (defaultParts machineId).validate

def IsDefault (m : OrchestrationStateMachine) : Prop :=
  ∃ machineId, defaultMachine machineId = .ok m

theorem defaultParts_wellFormed (machineId : String) : (defaultParts machineId).WellFormed where
  initial_notMem_terminal := by
    change RunState.created ∉ [RunState.succeeded, .failed, .cancelled]
    decide
  terminal_nodup := by
    change [RunState.succeeded, .failed, .cancelled].Nodup
    decide
  key_nodup := by
    change (defaultTransitions.map (·.key)).Nodup
    decide
  outgoing := by
    rw [← OrchestrationStateMachine.missing_eq_nil_iff]
    change (defaultParts "").missing = []
    decide

theorem defaultMachine_eq_ok (machineId : String) (m : OrchestrationStateMachine) :
    defaultMachine machineId = .ok m ↔
      ¬ IsBlank machineId ∧ m = defaultParts (strip machineId) := by
  have hvalues : listValues TransitionRule.validate defaultTransitions = defaultTransitions := by
    decide
  have hrules : ∀ t ∈ defaultTransitions, ∃ t', t.validate = .ok t' := by
    rw [← listErrors_eq_nil "transitions"]
    decide
  have hnormalized : (defaultParts machineId).normalized = defaultParts (strip machineId) :=
    congrArg (OrchestrationStateMachine.mk (strip machineId) _ _) hvalues
  rw [defaultMachine, OrchestrationStateMachine.validate_eq_ok, hnormalized]
  constructor
  · rintro ⟨hid, -, rfl, -⟩
    exact ⟨hid, rfl⟩
  · rintro ⟨hid, rfl⟩
    exact ⟨hid, hrules, rfl, defaultParts_wellFormed _⟩

/-- A default machine differs from any other in its name only. -/
theorem IsDefault.eq_defaultParts {m : OrchestrationStateMachine} (h : IsDefault m) :
    m = defaultParts m.machineId := by
  obtain ⟨machineId, h⟩ := h
  obtain ⟨-, rfl⟩ := (defaultMachine_eq_ok machineId m).mp h
  rfl

theorem IsDefault.mem_of_takes {m : OrchestrationStateMachine} (h : IsDefault m) {s s' : RunState}
    {event : RunEvent} {resolved : GuardResults} (htakes : m.Takes s event resolved s') :
    ∃ t ∈ defaultTransitions, t.fromState = s ∧ t.event = event ∧ t.toState = s' := by
  obtain ⟨-, t, hselects, -, hto⟩ := htakes
  obtain ⟨hmem, hfrom, hevent⟩ := OrchestrationStateMachine.mem_of_selects hselects
  rw [h.eq_defaultParts] at hmem
  exact ⟨t, hmem, hfrom, hevent, hto⟩

def harnessV1 : OrchestrationStateMachine := defaultParts "harness-v1"

theorem defaultMachine_harnessV1 : defaultMachine = .ok harnessV1 := by
  rw [defaultMachine_eq_ok]
  exact ⟨by decide, by rw [show strip "harness-v1" = "harness-v1" by decide]; rfl⟩

theorem isDefault_harnessV1 : IsDefault harnessV1 := ⟨_, defaultMachine_harnessV1⟩

end NovaHarness.OrchestrationMachine
