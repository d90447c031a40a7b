import NovaHarness.PipelinePhases

namespace NovaHarness.PipelineOutcome

open NovaHarness.Text
open NovaHarness.RecordValidation
open NovaHarness.EarlyExit
open NovaHarness.OrchestrationMachine
open NovaHarness.Driver
open NovaHarness.TaskContractSchema
open NovaHarness.ToolInterfaceSchema
open NovaHarness.ApprovalSafetySchema
open NovaHarness.TraceSchemas
open NovaHarness.Pipeline
open NovaHarness.PipelineRun
open NovaHarness.PipelinePhases

variable (rt : Runtime) (x : PipelineExecutor) (input : PipelineInput)

section Execution

def backendResult (invocation : ToolInvocation) : Except PyException ToolResult :=
  match x.modelProvider with
  | some provider => providerResult rt provider (promptMessages input.taskContract.1) invocation
  | none => executorResult rt x invocation

theorem run_executeTool (hfilled : FilledIn input) (invocation : ToolInvocation) (s : Session) :
    (executeTool rt x input invocation).run s =
      match backendResult rt x input invocation with
      | .ok result => .ok result s.calling
      | .error e => .error (.raises e) s.calling := by
  unfold executeTool backendResult
  rcases x.modelProvider with _ | provider
  · rw [run_update_bind]
    cases executorResult rt x invocation <;> rfl
  · obtain ⟨assembly, hassembly⟩ :=
      (exists_buildPromptAssembly rt 2 input.taskContract input.runId).mpr
        ⟨hfilled.runId, hfilled.userRequest⟩
    have hmessages := (of_buildPromptAssembly_eq_ok rt hassembly).2
    simp only [hassembly, attempt, run_ofExcept_ok_bind, run_update_bind, hmessages]
    cases providerResult rt provider (promptMessages input.taskContract.1) invocation <;> rfl

/-- The session after a trigger whose rejection is passed over. -/
def passing (s : Session) (event : RunEvent) : Session :=
  match s.driver.trigger event none (rt.now (.transition event)) with
  | (.ok toState, _) => s.moved rt event [] toState
  | (.error _, d) => { s with driver := d }

theorem run_orPass_trigger (event : RunEvent) (s : Session) :
    (orPass (trigger rt event)).run s = .ok () (passing rt s event) := by
  rw [orPass, run_rescue, run_trigger, passing]
  rcases s.driver.trigger event none (rt.now (.transition event)) with ⟨msg | toState, d⟩ <;> rfl

/-- Passing an event moves the driver if the machine has a step for it, and does
nothing else. -/
theorem passing_keeps (s : Session) (event : RunEvent) :
    (passing rt s event).driver.machine = s.driver.machine ∧
      (passing rt s event).stepResults = s.stepResults ∧
      (passing rt s event).invocation = s.invocation ∧
      calls (passing rt s event) = calls s ∧
      state (passing rt s event) =
        (s.driver.machine.next (state s) event []).getD (state s) := by
  have hrun := run_orPass_trigger rt event s
  rcases htrigger : (trigger rt event).run s with ⟨u, t⟩ | ⟨e, t⟩
  · have hpass : passing rt s event = t := by
      rw [orPass, run_rescue, htrigger] at hrun
      exact (EStateM.Result.ok.inj hrun).2.symm
    obtain ⟨toState, hnext, rfl⟩ := (run_trigger_eq_ok_next rt event none s t u).mp htrigger
    rw [hpass]
    change s.driver.machine.next (state s) event [] = some toState at hnext
    refine ⟨rfl, rfl, rfl, calls_moved .., ?_⟩
    rw [hnext]
    rfl
  · obtain ⟨⟨msg, rfl, -⟩, hsame⟩ := of_run_trigger_eq_error rt event none htrigger
    have hpass : passing rt s event = t := by
      rw [orPass, run_rescue, htrigger] at hrun
      exact (EStateM.Result.ok.inj hrun).2.symm
    rw [hpass]
    refine ⟨hsame.machine, hsame.stepResults, hsame.invocation, ?_, ?_⟩
    · rw [calls, hsame.log]
      rfl
    · rcases hnext : s.driver.machine.next (state s) event [] with _ | toState
      · exact hsame.state
      · have hok := (run_trigger_eq_ok_next rt event none s _ ()).mpr ⟨toState, hnext, rfl⟩
        rw [htrigger] at hok
        simp at hok

def executed (s : Session) (invocation : ToolInvocation) (result : ToolResult) : Session :=
  s.calling.recording (executionStep rt invocation result)

theorem run_toolModelExecution (hfilled : FilledIn input) (invocation : ToolInvocation)
    (s : Session) :
    (toolModelExecution rt x input invocation).run s =
      match backendResult rt x input invocation with
      | .error e => .error (.raises e) s.calling
      | .ok result =>
          if result.status = .success then
            .ok result (passing rt (executed rt s invocation result) .toolCompleted)
          else
            .error (.returns (some (failureText result)))
              (passing rt (executed rt s invocation result) .toolFailedRetryable) := by
  rw [toolModelExecution, EStateM.run_bind, run_executeTool rt x input hfilled]
  rcases backendResult rt x input invocation with e | result
  · rfl
  · simp only [record, run_update_bind]
    split
    · rw [EStateM.run_bind, run_orPass_trigger]
      rfl
    · rw [EStateM.run_bind, run_orPass_trigger]
      rfl

theorem stepResults_of_prepared {t : Session}
    (hprepared : prepared rt x input (initialSession input) = some t) :
    t.stepResults = [promptStep rt, reviewStep rt x input] :=
  (prepared_keeps rt x input hprepared).stepResults

theorem stepResults_of_executed {t : Session}
    (hprepared : prepared rt x input (initialSession input) = some t) (result : ToolResult)
    (event : RunEvent) :
    (passing rt (executed rt t (reviewed rt x input) result) event).stepResults =
      [promptStep rt, reviewStep rt x input, executionStep rt (reviewed rt x input) result] := by
  rw [(passing_keeps rt _ _).2.1]
  change t.stepResults ++ _ = _
  rw [stepResults_of_prepared rt x input hprepared]
  rfl

theorem stepResults_of_followed {t t' : Session} {result : ToolResult} {event : RunEvent}
    {events : List (RunEvent × GuardResults)}
    (hprepared : prepared rt x input (initialSession input) = some t)
    (hfollow : follow rt (passing rt (executed rt t (reviewed rt x input) result) event) events =
      some t') :
    t'.stepResults =
      [promptStep rt, reviewStep rt x input, executionStep rt (reviewed rt x input) result] := by
  rw [(follow_keeps rt hfollow).2.1]
  exact stepResults_of_executed rt x input hprepared result event

theorem failureText_ne_empty (result : ToolResult) : failureText result ≠ "" := by
  unfold failureText
  split
  · decide
  · assumption

end Execution

section Verification

def criterionTraces (result : ToolResult) : Except PyException (List VerificationTrace) := do
  let content ← outputContent rt result
  input.taskContract.1.successCriteria.mapM fun criterion =>
    checkCriterion rt criterion content

def verificationEvent (traces : List VerificationTrace) : RunEvent :=
  if allPass traces then .verificationPassed else .verificationFailedTerminal

def verificationStatus (traces : List VerificationTrace) : TraceEventStatus :=
  if allPass traces then .success else .failure

def verificationStep (traces : List VerificationTrace) : ExecutionStepResult where
  stepIndex := 3
  stepType := .verification
  status := verificationStatus traces
  startedAt := rt.now (.stepStarted 3)
  finishedAt := some (rt.now (.stepFinished 3))
  latencySeconds := some 0.15
  verificationTrace := some
    { checkName := "all_checks"
      status := verificationStatus traces
      summary := some ((if allPass traces then "passed" else "failed") ++ " " ++
        toString traces.length ++ " check(s)") }

theorem attempt_bind {α β : Type} (v : Except PyException α) (f : α → Except PyException β) :
    attempt (v >>= f) = attempt v >>= fun a => attempt (f a) := by
  cases v <;> rfl

/-- The two branches of the source differ in three values only. -/
theorem verification_eq (result : ToolResult) :
    verification rt input result = (do
      let traces ← attempt (criterionTraces rt input result)
      trigger rt (verificationEvent traces)
      recordVerification rt (verificationStatus traces)
        (if allPass traces then "passed" else "failed") traces.length) := by
  rw [criterionTraces, attempt_bind, bind_assoc, verification]
  congr 1
  funext content
  congr 1
  funext traces
  simp only [verificationEvent, verificationStatus]
  split <;> rfl

theorem exits_verification (result : ToolResult) :
    Exits IsRaised (verification rt input result) := by
  rw [verification_eq]
  refine Exits.bind (exits_attempt _) fun traces => ?_
  refine Exits.bind (exits_trigger_raised _ _ _) fun _ => ?_
  exact Exits.bind (exits_attempt _) fun _ => Exits.update _

theorem run_recordVerification (status : TraceEventStatus) (outcome : String) (count : Nat)
    (s : Session) :
    (recordVerification rt status outcome count).run s = .ok () (s.recording
      { stepIndex := 3
        stepType := .verification
        status := status
        startedAt := rt.now (.stepStarted 3)
        finishedAt := some (rt.now (.stepFinished 3))
        latencySeconds := some 0.15
        verificationTrace := some
          { checkName := "all_checks"
            status := status
            summary := some (outcome ++ " " ++ toString count ++ " check(s)") } }) := by
  have hname : ¬ IsBlank "all_checks" := by decide
  have hstrip : strip "all_checks" = "all_checks" := by decide
  have htrace : construct "VerificationTrace" (VerificationTrace.validate
      { checkName := "all_checks"
        status := status
        summary := some (outcome ++ " " ++ toString count ++ " check(s)") }) =
      .ok
        { checkName := "all_checks"
          status := status
          summary := some (outcome ++ " " ++ toString count ++ " check(s)") } := by
    simp [VerificationTrace.validate, hname, hstrip]
  rw [recordVerification, htrace, attempt, run_ofExcept_ok_bind]
  rfl

theorem verification_eq_ok (result : ToolResult) (s t : Session) (u : Unit) :
    (verification rt input result).run s = .ok u t ↔
      ∃ traces, criterionTraces rt input result = .ok traces ∧
        ∃ s₁, follow rt s [(verificationEvent traces, [])] = some s₁ ∧
          s₁.recording (verificationStep rt traces) = t := by
  simp only [verification_eq, run_bind_eq_ok, run_attempt_eq_ok, run_trigger_eq_ok,
    run_recordVerification, EStateM.Result.ok.injEq, true_and]
  constructor
  · rintro ⟨traces, _, ⟨htraces, rfl⟩, -, s₁, hfollow, rfl⟩
    exact ⟨traces, htraces, s₁, hfollow, rfl⟩
  · rintro ⟨traces, htraces, s₁, hfollow, rfl⟩
    exact ⟨traces, s, ⟨htraces, rfl⟩, (), s₁, hfollow, rfl⟩

end Verification

section Returns

/-- Every way a run returns: the error it returns, and the session it leaves. -/
inductive Returned : Option String → Session → Prop
  | rejected (msg : String) (t : Session) (hmsg : msg ≠ "")
      (hrejected : prepared rt x input (initialSession input) = none)
      (hprepare : (prepare rt x input).run (initialSession input) =
        .error (.returns (some msg)) t) :
      Returned (some msg) t
  | blocked (t : Session) (hfilled : FilledIn input) (hblock : action x input = .block)
      (hprepared : prepared rt x input (initialSession input) = some t) :
      Returned none t
  | toolFailed (t : Session) (result : ToolResult) (hfilled : FilledIn input)
      (hgo : action x input ≠ .block)
      (hprepared : prepared rt x input (initialSession input) = some t)
      (hresult : backendResult rt x input (reviewed rt x input) = .ok result)
      (hstatus : result.status ≠ .success) :
      Returned (some (failureText result))
        (passing rt (executed rt t (reviewed rt x input) result) .toolFailedRetryable)
  | verified (t t' : Session) (result : ToolResult) (traces : List VerificationTrace)
      (hfilled : FilledIn input) (hgo : action x input ≠ .block)
      (hprepared : prepared rt x input (initialSession input) = some t)
      (hresult : backendResult rt x input (reviewed rt x input) = .ok result)
      (hstatus : result.status = .success)
      (htraces : criterionTraces rt input result = .ok traces)
      (hfollow : follow rt (passing rt (executed rt t (reviewed rt x input) result) .toolCompleted)
        [(verificationEvent traces, [])] = some t') :
      Returned none (t'.recording (verificationStep rt traces))

theorem run_body_of_prepared {t : Session} (hfilled : FilledIn input)
    (hgo : action x input ≠ .block)
    (hprepared : prepared rt x input (initialSession input) = some t) :
    (body rt x input).run (initialSession input) =
      (toolModelExecution rt x input (reviewed rt x input) >>= verification rt input).run t := by
  have hprepare := (prepare_eq_ok rt x input (initialSession input) t _).mpr
    ⟨hfilled, hgo, hprepared, rfl⟩
  rw [body, EStateM.run_bind, hprepare]

theorem returned_of_body_ok {t : Session} {u : Unit}
    (h : (body rt x input).run (initialSession input) = .ok u t) :
    Returned rt x input none t := by
  obtain ⟨invocation, s₁, hprepare, -⟩ := (run_bind_eq_ok _ _ _ _ _).mp h
  obtain ⟨hfilled, hgo, hprepared, rfl⟩ := (prepare_eq_ok ..).mp hprepare
  rw [run_body_of_prepared rt x input hfilled hgo hprepared] at h
  obtain ⟨result, s₂, hexecution, hverification⟩ := (run_bind_eq_ok _ _ _ _ _).mp h
  obtain ⟨traces, htraces, t', hfollow, rfl⟩ := (verification_eq_ok ..).mp hverification
  rw [run_toolModelExecution rt x input hfilled] at hexecution
  rcases hresult : backendResult rt x input (reviewed rt x input) with e | result'
  · simp [hresult] at hexecution
  · simp only [hresult] at hexecution
    split at hexecution
    · rename_i hstatus
      obtain ⟨rfl, rfl⟩ := EStateM.Result.ok.inj hexecution
      exact .verified s₁ t' result' traces hfilled hgo hprepared hresult hstatus htraces hfollow
    · simp at hexecution

theorem returned_of_body_returns {t : Session} {error : Option String}
    (h : (body rt x input).run (initialSession input) = .error (.returns error) t) :
    Returned rt x input error t := by
  rcases (run_bind_eq_error _ _ _ _ _).mp h with hprepare | ⟨invocation, s₁, hprepare, -⟩
  · rcases prepare_eq_returns rt x input hprepare with
      ⟨⟨msg, rfl, hmsg⟩, hrejected⟩ | ⟨rfl, hfilled, hblock, hprepared⟩
    · exact .rejected msg t hmsg hrejected hprepare
    · exact .blocked t hfilled hblock hprepared
  · obtain ⟨hfilled, hgo, hprepared, rfl⟩ := (prepare_eq_ok ..).mp hprepare
    rw [run_body_of_prepared rt x input hfilled hgo hprepared] at h
    rcases (run_bind_eq_error _ _ _ _ _).mp h with hexecution | ⟨result, s₂, -, hverification⟩
    · rw [run_toolModelExecution rt x input hfilled] at hexecution
      rcases hresult : backendResult rt x input (reviewed rt x input) with e | result
      · simp [hresult] at hexecution
      · simp only [hresult] at hexecution
        split at hexecution
        · simp at hexecution
        · rename_i hstatus
          obtain ⟨hexit, rfl⟩ := EStateM.Result.error.inj hexecution
          obtain rfl := Exit.returns.inj hexit
          exact .toolFailed s₁ result hfilled hgo hprepared hresult hstatus
    · obtain ⟨ex, hex⟩ := exits_verification rt input result _ _ _ hverification
      simp at hex

/-- What a run returns, it returns in one of these ways. -/
theorem returned_of_outcome {r : PipelineResult} (h : (run rt x input).outcome = .ok r) :
    ∃ error, Returned rt x input error (run rt x input).session ∧
      buildResult rt input (run rt x input).session.driver (run rt x input).session.stepResults
        error = .ok r := by
  unfold run at h ⊢
  rcases hbody : (body rt x input).run (initialSession input) with ⟨u, t⟩ | ⟨error | e, t⟩
  · simp only [hbody] at h ⊢
    exact ⟨none, returned_of_body_ok rt x input hbody, h⟩
  · simp only [hbody] at h ⊢
    exact ⟨error, returned_of_body_returns rt x input hbody, h⟩
  · simp [hbody] at h

/-- Each of these ways is taken. -/
theorem run_of_returned {error : Option String} {s : Session}
    (h : Returned rt x input error s) :
    (run rt x input).session = s ∧
      (run rt x input).outcome = buildResult rt input s.driver s.stepResults error := by
  cases h with
  | rejected msg t hmsg hrejected hprepare =>
      have hbody : (body rt x input).run (initialSession input) =
          .error (.returns (some msg)) s := by
        rw [body, EStateM.run_bind, hprepare]
      simp [run, hbody]
  | blocked t hfilled hblock hprepared =>
      have hbody : (body rt x input).run (initialSession input) = .error (.returns none) s := by
        rw [body, EStateM.run_bind, prepare_blocked rt x input hfilled hblock hprepared]
      simp [run, hbody]
  | toolFailed t result hfilled hgo hprepared hresult hstatus =>
      have hbody := run_body_of_prepared rt x input hfilled hgo hprepared
      rw [EStateM.run_bind, run_toolModelExecution rt x input hfilled, hresult] at hbody
      simp only [if_neg hstatus] at hbody
      simp [run, hbody]
  | verified t t' result traces hfilled hgo hprepared hresult hstatus htraces hfollow =>
      have hbody := run_body_of_prepared rt x input hfilled hgo hprepared
      have hverification := (verification_eq_ok rt input result _ _ ()).mpr
        ⟨traces, htraces, t', hfollow, rfl⟩
      rw [EStateM.run_bind, run_toolModelExecution rt x input hfilled, hresult] at hbody
      simp only [if_pos hstatus, hverification] at hbody
      simp [run, hbody]

end Returns

end NovaHarness.PipelineOutcome
