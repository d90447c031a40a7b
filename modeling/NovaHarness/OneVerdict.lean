import NovaHarness.PipelineOutcome
import NovaHarness.ResultRecords

namespace NovaHarness.OneVerdict

open NovaHarness.RecordValidation
open NovaHarness.EarlyExit
open NovaHarness.OrchestrationMachine
open NovaHarness.Driver
open NovaHarness.TaskContractSchema
open NovaHarness.ToolInterfaceSchema
open NovaHarness.ApprovalSafetySchema
open NovaHarness.TraceSchemas
open NovaHarness.Pipeline
open NovaHarness.PipelineRun
open NovaHarness.PipelinePhases
open NovaHarness.PipelineOutcome
open NovaHarness.ResultRecords

variable (rt : Runtime) (x : PipelineExecutor) (input : PipelineInput)

section Statuses

/-- Only a review that blocks is recorded as blocked. -/
theorem reviewStep_status_eq_blocked :
    (reviewStep rt x input).status = .blocked ↔ action x input = .block := by
  rcases hpolicy : input.safetyPolicy with _ | policy
  · simp [reviewStep, action, hpolicy, noPolicyStep]
  · rw [reviewStep_of_policy rt x input hpolicy]
    cases action x input <;> simp [decisionStep]

theorem executionStep_status_ne_blocked (invocation : ToolInvocation) (result : ToolResult) :
    (executionStep rt invocation result).status ≠ .blocked := by
  unfold executionStep
  split <;> simp

theorem verificationStep_status_ne_blocked (traces : List VerificationTrace) :
    (verificationStep rt traces).status ≠ .blocked := by
  simp only [verificationStep, verificationStatus]
  split <;> simp

end Statuses

/-- The verdict a way of returning stands for: whether the run succeeded. -/
inductive Verdict (error : Option String) (s : Session) : Bool → Prop
  | failed (h : isError error = true ∨
      error = none ∧ state s = .failed) : Verdict error s false
  | succeeded (hnone : error = none) (hstate : state s = .succeeded)
      (hblocked : countStatus .blocked s.stepResults = 0) : Verdict error s true

/-- On a default machine the last event of a run decides where it ends. -/
theorem toState_of_event :
    ∀ t ∈ defaultTransitions,
      (t.event = .approvalRejected → t.toState = .failed) ∧
      (t.event = .verificationPassed → t.toState = .succeeded) ∧
      (t.event = .verificationFailedTerminal → t.toState = .failed) := by
  decide

section Verdicts

variable {rt x input}

theorem state_of_blocked {t : Session} (hdefault : IsDefault input.driver.machine)
    (hblock : action x input = .block)
    (hprepared : prepared rt x input (initialSession input) = some t) : state t = .failed := by
  have hwalk := map_state_prepared rt x input (initialSession input)
  rw [hprepared, hblock] at hwalk
  have hroute : route .block =
      ([(.startRun, [])] ++ (advanceEvents ++ [(.approvalRequired, [])])) ++
        [(.approvalRejected, [])] := rfl
  rw [hroute] at hwalk
  obtain ⟨s₁, hnext⟩ := OrchestrationStateMachine.next_of_walk_append hwalk.symm
  obtain ⟨tr, htr, -, hevent, hto⟩ :=
    hdefault.mem_of_takes ((OrchestrationStateMachine.next_eq_some_iff ..).mp hnext)
  exact hto.symm.trans ((toState_of_event tr htr).1 hevent)

theorem state_of_verified {t t' : Session} {result : ToolResult} {traces : List VerificationTrace}
    (hdefault : IsDefault input.driver.machine)
    (hprepared : prepared rt x input (initialSession input) = some t)
    (hfollow : follow rt (passing rt (executed rt t (reviewed rt x input) result) .toolCompleted)
      [(verificationEvent traces, [])] = some t') :
    state t' = if allPass traces then .succeeded else .failed := by
  obtain ⟨toState, hnext, ht⟩ := Option.bind_eq_some_iff.mp hfollow
  obtain rfl := Option.some.inj ht
  have hmachine : t.driver.machine = input.driver.machine :=
    (prepared_keeps rt x input hprepared).machine
  have hpassing := (passing_keeps rt (executed rt t (reviewed rt x input) result)
    .toolCompleted).1.trans hmachine
  rw [hpassing] at hnext
  obtain ⟨tr, htr, -, hevent, hto⟩ :=
    hdefault.mem_of_takes ((OrchestrationStateMachine.next_eq_some_iff ..).mp hnext)
  obtain ⟨-, hpassed, hterminal⟩ := toState_of_event tr htr
  change toState = _
  rw [← hto]
  simp only [verificationEvent] at hevent
  split at hevent
  · rw [if_pos ‹_›]
    exact hpassed hevent
  · rw [if_neg ‹_›]
    exact hterminal hevent

theorem verdict_of_returned {error : Option String} {s : Session}
    (hdefault : IsDefault input.driver.machine) (h : Returned rt x input error s) :
    ∃ success, Verdict error s success := by
  cases h with
  | rejected msg t hmsg => exact ⟨false, .failed (.inl (by simp [isError, hmsg]))⟩
  | blocked t hfilled hblock hprepared =>
      exact ⟨false, .failed (.inr ⟨rfl, state_of_blocked hdefault hblock hprepared⟩)⟩
  | toolFailed t result =>
      exact ⟨false, .failed (.inl (by simp [isError, failureText_ne_empty]))⟩
  | verified t t' result traces hfilled hgo hprepared hresult hstatus htraces hfollow =>
      have hstate := state_of_verified hdefault hprepared hfollow
      cases hpass : allPass traces with
      | false =>
          rw [hpass] at hstate
          exact ⟨false, .failed (.inr ⟨rfl, hstate⟩)⟩
      | true =>
          rw [hpass] at hstate
          refine ⟨true, .succeeded rfl hstate ?_⟩
          -- Only here do the steps matter: a blocked one would make the trace blocked.
          have hsteps := stepResults_of_followed rt x input hprepared hfollow
          have hreview := mt (reviewStep_status_eq_blocked rt x input).mp hgo
          have hexecution := executionStep_status_ne_blocked rt (reviewed rt x input) result
          have hverification := verificationStep_status_ne_blocked rt traces
          simp [countStatus, Session.recording, hsteps, promptStep, hreview, hexecution,
            hverification]

end Verdicts

theorem one_verdict (hdefault : IsDefault input.driver.machine) (r : PipelineResult)
    (h : (run rt x input).outcome = .ok r) :
    (r.success = true ↔ r.terminalState = "succeeded" ∧ r.error = none) ∧
    (r.success = true ↔ r.runTrace.terminalStatus = .success) ∧
    (r.success = true ↔ r.benchmarkRun.verdict = .pass) ∧
    (r.success = true ↔
      (r.benchmarkRun.metrics.filter (·.metricName = .taskSuccess)).map
        (fun m => (m.passed, m.value)) = [(some true, 1)]) := by
  obtain ⟨error, hreturned, hbuild⟩ := returned_of_outcome rt x input h
  have hreports := reports_of_buildResult rt input hbuild
  obtain ⟨success, hverdict⟩ := verdict_of_returned hdefault hreturned
  generalize (run rt x input).session = s at hreports hverdict
  have hmetric : (r.benchmarkRun.metrics.filter (·.metricName = .taskSuccess)).map
      (fun m => (m.passed, m.value)) =
      [(some (resultSuccess s.driver error), if resultSuccess s.driver error then 1 else 0)] := by
    rw [hreports.metrics_eq]
    rfl
  have hvalue : (state s).value = "succeeded" ↔ state s = .succeeded :=
    RunState.value_injective.eq_iff' rfl
  rw [hmetric, hreports.success_eq, hreports.terminalState_eq, hreports.error_eq,
    hreports.terminalStatus_eq, hreports.verdict_eq, hvalue]
  cases hverdict with
  | failed hfailed =>
      have hsuccess : resultSuccess s.driver error = false := by
        rcases hfailed with herror | ⟨-, hstate⟩
        · simp [resultSuccess, herror]
        · simp [resultSuccess, hstate]
      have hstatus : terminalStatus s.driver s.stepResults error ≠ .success := by
        unfold terminalStatus
        split
        · simp
        · rw [if_pos (hfailed.symm.imp And.right id)]
          simp
      have hnot : ¬ (state s = .succeeded ∧ error = none) := by
        rintro ⟨hstate, rfl⟩
        rcases hfailed with herror | ⟨-, hstate'⟩
        · simp [isError] at herror
        · rw [hstate] at hstate'
          simp at hstate'
      simp [hsuccess, hstatus, hnot]
  | succeeded hnone hstate hblocked =>
      subst hnone
      have hsuccess : resultSuccess s.driver none = true := by
        simp [resultSuccess, hstate, isError]
      have hstatus : terminalStatus s.driver s.stepResults none = .success := by
        simp [terminalStatus, hblocked, hstate, isError]
      simp [hsuccess, hstatus, hstate]

def answer : Accepted ToolResult :=
  build
    { invocationId := "inv-001"
      toolName := "mock_tool"
      status := .success
      output := some [("content", .str "def test_add(): ...")] }
    (by decide)

def answering : PipelineExecutor :=
  { toolExecutor := some fun _ => .ok answer }

def plainInput : PipelineInput :=
  minimalInput none

/-- Answered, the input is worked through with one call. -/
theorem answering_run :
    (run asciiRuntime answering plainInput).outcome.toOption.map (·.success) = some true ∧
      (calls (run asciiRuntime answering plainInput).session).length = 1 := by
  decide +kernel

theorem one_verdict_answering :
    ∃ r, (run asciiRuntime answering plainInput).outcome = .ok r ∧ r.success = true ∧
      r.terminalState = "succeeded" ∧ r.error = none ∧ r.runTrace.terminalStatus = .success ∧
      r.benchmarkRun.verdict = .pass := by
  obtain ⟨r, houtcome, hr⟩ := exists_of_map_toOption answering_run.1
  obtain ⟨hstate, hstatus, hverdict, -⟩ :=
    one_verdict asciiRuntime answering plainInput isDefault_harnessV1 r houtcome
  exact ⟨r, houtcome, hr, (hstate.mp hr).1, (hstate.mp hr).2, hstatus.mp hr, hverdict.mp hr⟩

end NovaHarness.OneVerdict
