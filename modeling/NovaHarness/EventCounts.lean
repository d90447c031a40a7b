import NovaHarness.DriverRejection
import NovaHarness.CrashFreedom

namespace NovaHarness.EventCounts

open NovaHarness.RecordValidation
open NovaHarness.OrchestrationMachine
open NovaHarness.Driver
open NovaHarness.ToolInterfaceSchema
open NovaHarness.ApprovalSafetySchema
open NovaHarness.TraceSchemas
open NovaHarness.Pipeline
open NovaHarness.PipelineRun
open NovaHarness.PipelinePhases
open NovaHarness.PipelineOutcome
open NovaHarness.ResultRecords
open NovaHarness.EffectGating
open NovaHarness.OneVerdict
open NovaHarness.DriverRejection

variable (rt : Runtime) (x : PipelineExecutor) (input : PipelineInput)

section Events

/-- The driver takes every event up to the back end, or up to a review that blocks. -/
def RouteTaken : Prop :=
  (input.driver.machine.walk input.driver.currentStateId (route (action x input))).isSome

instance : Decidable (RouteTaken x input) :=
  inferInstanceAs (Decidable (_ = true))

/-- The decisions of a run that returns: one if there is a policy, unless the
driver has turned the run back before. -/
def decisions : List SafetyDecision :=
  if RouteTaken x input then
    input.safetyPolicy.toList.map fun policy => decision rt x input policy.1
  else []

/-- The traces of the criteria that are evaluated: those for the result of a call
that succeeded. -/
def evaluated : List VerificationTrace :=
  if calls (run rt x input).session = [] then []
  else
    match backendResult rt x input (reviewed rt x input) with
    | .ok result =>
        if result.status = .success then (criterionTraces rt input result).toOption.getD [] else []
    | .error _ => []

theorem routeTaken_iff :
    RouteTaken x input ↔ (prepared rt x input (initialSession input)).isSome :=
  (isSome_prepared_iff rt x input (initialSession input)).symm

theorem routeTaken_of_prepared {t : Session}
    (hprepared : prepared rt x input (initialSession input) = some t) : RouteTaken x input := by
  rw [routeTaken_iff rt, hprepared]
  rfl

theorem countP_decisions_block :
    (decisions rt x input).countP (·.safetyAction = .block) =
      if RouteTaken x input ∧ action x input = .block then 1 else 0 := by
  unfold decisions
  by_cases hroute : RouteTaken x input
  · rcases hpolicy : input.safetyPolicy with _ | policy
    · simp [action_of_noPolicy hpolicy]
    · simp [hroute, decision_safetyAction rt x input hpolicy, List.countP_cons]
  · simp [hroute]

end Events

section Steps

theorem countStatus_partition (steps : List ExecutionStepResult) :
    countStatus .success steps + countStatus .failure steps + countStatus .blocked steps +
      countStatus .skipped steps = steps.length := by
  induction steps with
  | nil => rfl
  | cons r steps ih =>
      simp only [countStatus, List.countP_cons, List.length_cons] at ih ⊢
      cases r.status <;> simp <;> omega

/-- What the counters look at in the step of a review. -/
structure Counted (r : ExecutionStepResult) : Prop where
  invocation : r.toolInvocation ≠ none
  verification : r.verificationTrace = none
  status : r.status ≠ .failure
  blocked : (∃ pt, r.policyTrace = some pt ∧ pt.outcome = .blocked) ↔ action x input = .block

theorem counted_reviewStep : Counted x input (reviewStep rt x input) := by
  rcases hpolicy : input.safetyPolicy with _ | policy
  · have hallow : action x input ≠ .block := by simp [action_of_noPolicy hpolicy]
    simp only [reviewStep, hpolicy]
    exact ⟨by simp [noPolicyStep], rfl, by simp [noPolicyStep], by simp [noPolicyStep, hallow]⟩
  · rw [reviewStep_of_policy rt x input hpolicy]
    cases haction : action x input with
    | block =>
        exact ⟨by simp [decisionStep], rfl, by simp [decisionStep],
          by simp [decisionStep, decisionTrace, haction]⟩
    | requireApproval =>
        exact ⟨by simp [decisionStep], rfl, by simp [decisionStep],
          by simp [decisionStep, decisionTrace, haction]⟩
    | allow =>
        exact ⟨by simp [decisionStep], rfl, by simp [decisionStep],
          by simp [decisionStep, decisionTrace, haction]⟩

/-- A result of a run that a rejection has ended early is about the prompt only. -/
theorem stepResults_of_rejected {t : Session} {msg : String} {r : PipelineResult}
    (hprepare : (prepare rt x input).run (initialSession input) =
      .error (.returns (some msg)) t)
    (hbuild : buildResult rt input t.driver t.stepResults (some msg) = .ok r) :
    t.stepResults = [promptStep rt] := by
  obtain ⟨event, s, d, hrejected, rfl⟩ := exists_rejected_of_returns rt x input hprepare
  change s.stepResults = _
  cases reached_of_rejected rt input hrejected with
  | notStarted hstart hsteps =>
      change buildResult rt input d s.stepResults _ = _ at hbuild
      rw [hsteps] at hbuild
      exact absurd hbuild (buildResult_nil_ne_ok rt input d _ r)
  | started hstart hsteps htask hrun => exact hsteps

end Steps

section Returned

/-- The steps of a result, by how its run has returned. -/
inductive Recorded : List ExecutionStepResult → Prop
  | rejected (hroute : ¬ RouteTaken x input)
      (hcalls : calls (run rt x input).session = []) : Recorded [promptStep rt]
  | blocked (hroute : RouteTaken x input) (hblock : action x input = .block)
      (hcalls : calls (run rt x input).session = []) :
      Recorded [promptStep rt, reviewStep rt x input]
  | toolFailed (result : ToolResult) (hroute : RouteTaken x input) (hgo : action x input ≠ .block)
      (hcalls : (calls (run rt x input).session).length = 1)
      (hresult : backendResult rt x input (reviewed rt x input) = .ok result)
      (hstatus : result.status ≠ .success) :
      Recorded [promptStep rt, reviewStep rt x input,
        executionStep rt (reviewed rt x input) result]
  | verified (result : ToolResult) (traces : List VerificationTrace)
      (hroute : RouteTaken x input) (hgo : action x input ≠ .block)
      (hcalls : (calls (run rt x input).session).length = 1)
      (hresult : backendResult rt x input (reviewed rt x input) = .ok result)
      (hstatus : result.status = .success)
      (htraces : criterionTraces rt input result = .ok traces) :
      Recorded [promptStep rt, reviewStep rt x input,
        executionStep rt (reviewed rt x input) result, verificationStep rt traces]

theorem recorded_of_outcome {r : PipelineResult} (h : (run rt x input).outcome = .ok r) :
    Recorded rt x input r.steps ∧
      r.runTrace.summary = some (traceSummary r.steps) ∧
      ∃ driver error, r.benchmarkRun.metrics = resultMetrics driver r.steps error := by
  obtain ⟨error, hreturned, hbuild⟩ := returned_of_outcome rt x input h
  have hreports := reports_of_buildResult rt input hbuild
  rw [hreports.steps_eq]
  refine ⟨?_, hreports.summary_eq, _, _, hreports.metrics_eq⟩
  generalize hsession : (run rt x input).session = s at hreturned hbuild
  cases hreturned with
  | rejected msg t hmsg hrejected hprepare =>
      rw [stepResults_of_rejected rt x input hprepare hbuild]
      refine .rejected ?_ ?_
      · rw [routeTaken_iff rt, hrejected]
        simp
      · exact calls_eq_nil rt x input (by simp [hrejected])
  | blocked t hfilled hblock hprepared =>
      rw [stepResults_of_prepared rt x input hprepared]
      exact .blocked (routeTaken_of_prepared rt x input hprepared) hblock
        (calls_eq_nil rt x input (fun h => h.2.1 hblock))
  | toolFailed t result hfilled hgo hprepared hresult hstatus =>
      rw [stepResults_of_executed rt x input hprepared]
      refine .toolFailed result (routeTaken_of_prepared rt x input hprepared) hgo ?_ hresult hstatus
      rw [calls_of_prepared rt x input hfilled hgo hprepared]
      rfl
  | verified t t' result traces hfilled hgo hprepared hresult hstatus htraces hfollow =>
      change Recorded rt x input (t'.stepResults ++ [_])
      rw [stepResults_of_followed rt x input hprepared hfollow]
      refine .verified result traces (routeTaken_of_prepared rt x input hprepared) hgo ?_ hresult
        hstatus htraces
      rw [calls_of_prepared rt x input hfilled hgo hprepared]
      rfl

end Returned

section Summary

/-- The summary of a result counts what happened in its run. -/
structure CountsEvents (summary : TraceSummary) (steps : List ExecutionStepResult) : Prop where
  toolCalls : summary.totalToolCalls = (calls (run rt x input).session).length
  verificationChecks : summary.totalVerificationChecks = (evaluated rt x input).length
  verificationFailures :
    summary.verificationFailures = (evaluated rt x input).countP (·.status = .failure)
  policyBlocks : summary.policyBlocks = (decisions rt x input).countP (·.safetyAction = .block)
  partition : summary.successfulSteps + summary.failedSteps + summary.blockedSteps +
    countStatus .skipped steps = summary.totalSteps

theorem policyBlocks_of_recorded {steps : List ExecutionStepResult}
    (h : Recorded rt x input steps) :
    (traceSummary steps).policyBlocks =
      (decisions rt x input).countP (·.safetyAction = .block) := by
  have hreview := (counted_reviewStep rt x input).blocked
  have hallowed : action x input ≠ .block →
      ∀ pt, (reviewStep rt x input).policyTrace = some pt → ¬ pt.outcome = .blocked :=
    fun hgo pt hpt hblocked => hgo (hreview.mp ⟨pt, hpt, hblocked⟩)
  rw [countP_decisions_block]
  cases h with
  | rejected hroute => simp [traceSummary, promptStep, hroute]
  | blocked hroute hblock =>
      simp [traceSummary, promptStep, List.countP_cons, hreview, hroute, hblock]
  | toolFailed result hroute hgo =>
      simpa [traceSummary, promptStep, executionStep, List.countP_cons, hgo] using hallowed hgo
  | verified result traces hroute hgo =>
      simpa [traceSummary, promptStep, executionStep, verificationStep, List.countP_cons, hgo]
        using hallowed hgo

/-- Besides the calls, a review counts as one. -/
theorem totalToolCalls_of_recorded {steps : List ExecutionStepResult}
    (h : Recorded rt x input steps) :
    (traceSummary steps).totalToolCalls =
      (calls (run rt x input).session).length + if RouteTaken x input then 1 else 0 := by
  have hreview := (counted_reviewStep rt x input).invocation
  cases h with
  | rejected hroute hcalls => simp [traceSummary, promptStep, hroute, hcalls]
  | blocked hroute hblock hcalls =>
      simp [traceSummary, promptStep, List.countP_cons, hreview, hroute, hcalls]
  | toolFailed result hroute hgo hcalls =>
      simp [traceSummary, promptStep, executionStep, List.countP_cons, hreview, hroute, hcalls]
  | verified result traces hroute hgo hcalls =>
      simp [traceSummary, promptStep, executionStep, verificationStep, List.countP_cons, hreview,
        hroute, hcalls]

/-- The blocks and the statuses are counted right; the calls and the criteria
only if the driver has turned the run back, when there are none. -/
theorem countsEvents_iff (r : PipelineResult) (h : (run rt x input).outcome = .ok r) :
    ∃ summary, r.runTrace.summary = some summary ∧
      summary.policyBlocks = (decisions rt x input).countP (·.safetyAction = .block) ∧
      summary.successfulSteps + summary.failedSteps + summary.blockedSteps +
        countStatus .skipped r.steps = summary.totalSteps ∧
      (CountsEvents rt x input summary r.steps ↔ ¬ RouteTaken x input) := by
  obtain ⟨hrecorded, hsummary, -⟩ := recorded_of_outcome rt x input h
  have hblocks := policyBlocks_of_recorded rt x input hrecorded
  have hpartition := countStatus_partition r.steps
  have htotal := totalToolCalls_of_recorded rt x input hrecorded
  refine ⟨_, hsummary, hblocks, hpartition, ?_⟩
  constructor
  · intro hcounts hroute
    have htoolCalls := hcounts.toolCalls
    rw [htotal, if_pos hroute] at htoolCalls
    omega
  · intro hroute
    rw [if_neg hroute] at htotal
    generalize r.steps = steps at hrecorded hblocks hpartition htotal ⊢
    cases hrecorded with
    | rejected _ hcalls =>
        constructor
        case toolCalls => exact htotal
        case policyBlocks => exact hblocks
        case partition => exact hpartition
        all_goals simp [traceSummary, promptStep, evaluated, hcalls]
    | blocked htaken => exact absurd htaken hroute
    | toolFailed _ htaken => exact absurd htaken hroute
    | verified _ _ htaken => exact absurd htaken hroute

theorem countsEvents_stuckInput :
    ∃ r, (run asciiRuntime {} stuckInput).outcome = .ok r ∧
      ∃ summary, r.runTrace.summary = some summary ∧
        CountsEvents asciiRuntime {} stuckInput summary r.steps := by
  have houtcome : (run asciiRuntime {} stuckInput).outcome.toOption.map (·.success) =
      some false := by decide +kernel
  obtain ⟨r, hr, -⟩ := exists_of_map_toOption houtcome
  obtain ⟨summary, hsummary, -, -, hcounts⟩ := countsEvents_iff asciiRuntime {} stuckInput r hr
  exact ⟨r, hr, summary, hsummary, hcounts.mpr (by decide)⟩

/-- One call is counted twice. -/
theorem answering_miscounted :
    ∃ r, (run asciiRuntime answering plainInput).outcome = .ok r ∧
      ∀ summary ∈ r.runTrace.summary,
        ¬ CountsEvents asciiRuntime answering plainInput summary r.steps := by
  have htotal : (run asciiRuntime answering plainInput).outcome.toOption.map
      (fun r => r.runTrace.summary.map (·.totalToolCalls)) = some (some 2) := by
    decide +kernel
  obtain ⟨r, hr, hsummary⟩ := exists_of_map_toOption htotal
  refine ⟨r, hr, ?_⟩
  rintro summary hmem ⟨htoolCalls, -, -, -, -⟩
  rw [Option.mem_def.mp hmem, Option.map_some, Option.some.injEq] at hsummary
  rw [hsummary, answering_run.2] at htoolCalls
  exact absurd htoolCalls (by decide)

end Summary

section Metric

/-- The metric of the verification is reported as passed. -/
def CreditsVerification (r : PipelineResult) : Prop :=
  (r.benchmarkRun.metrics.filter (·.metricName = .verificationPass)).map
    (fun m => (m.passed, m.value)) = [(some true, 1)]

def HasVerified (r : PipelineResult) : Prop :=
  ∃ step ∈ r.steps, step.stepType = .verification ∧ step.status = .success

instance : DecidablePred CreditsVerification := fun _ =>
  inferInstanceAs (Decidable (_ = _))

instance : DecidablePred HasVerified := fun r =>
  inferInstanceAs (Decidable (∃ step ∈ r.steps, _))

theorem creditsVerification_iff {r : PipelineResult} {driver : StateDriver}
    {error : Option String} (h : r.benchmarkRun.metrics = resultMetrics driver r.steps error) :
    CreditsVerification r ↔ countStatus .failure r.steps = 0 := by
  rw [CreditsVerification, h]
  change [(some (decide (countStatus .failure r.steps = 0)),
    if countStatus .failure r.steps = 0 then (1 : ℚ) else 0)] = _ ↔ _
  by_cases hzero : countStatus .failure r.steps = 0
  · simp [hzero]
  · simp [hzero]

/-- Without a failed step the verification counts as passed; a run that does not
get to the back end has no failed step, and no verification. -/
theorem credit_iff_verified_iff (r : PipelineResult) (h : (run rt x input).outcome = .ok r) :
    (CreditsVerification r ↔ HasVerified r) ↔
      RouteTaken x input ∧ action x input ≠ .block := by
  obtain ⟨hrecorded, -, driver, error, hmetrics⟩ := recorded_of_outcome rt x input h
  obtain ⟨-, -, hreview, -⟩ := counted_reviewStep rt x input
  have hkind := reviewStep_stepType rt x input
  rw [creditsVerification_iff hmetrics, HasVerified]
  generalize r.steps = steps at hrecorded
  cases hrecorded with
  | rejected hroute => simp [countStatus, promptStep, hroute]
  | blocked hroute hblock =>
      simp [countStatus, promptStep, hreview, hkind, hblock]
  | toolFailed result hroute hgo _ _ hstatus =>
      simp [countStatus, promptStep, executionStep, hreview, hkind, hstatus, hroute, hgo]
  | verified result traces hroute hgo _ _ hstatus =>
      simp only [hroute, hgo, ne_eq, not_false_eq_true, and_self, iff_true]
      cases hpass : allPass traces with
      | true =>
          simp [countStatus, promptStep, executionStep, verificationStep, verificationStatus,
            hreview, hstatus, hpass]
      | false =>
          simp [countStatus, promptStep, executionStep, verificationStep, verificationStatus,
            hreview, hkind, hstatus, hpass]

theorem credit_answering :
    ∃ r, (run asciiRuntime answering plainInput).outcome = .ok r ∧
      (CreditsVerification r ↔ HasVerified r) := by
  obtain ⟨r, hr, -⟩ := exists_of_map_toOption answering_run.1
  exact ⟨r, hr, (credit_iff_verified_iff asciiRuntime answering plainInput r hr).mpr (by decide)⟩

/-- A run that its policy has stopped is credited with a verification. -/
theorem blockedInput_credited :
    ∃ r, (run asciiRuntime {} blockedInput).outcome = .ok r ∧
      CreditsVerification r ∧ ¬ HasVerified r := by
  have houtcome : (run asciiRuntime {} blockedInput).outcome.toOption.map
      (fun r => (decide (CreditsVerification r), decide (HasVerified r))) = some (true, false) := by
    decide +kernel
  obtain ⟨r, hr, hboth⟩ := exists_of_map_toOption houtcome
  obtain ⟨hcredited, hverified⟩ := Prod.mk.inj hboth
  exact ⟨r, hr, of_decide_eq_true hcredited, of_decide_eq_false hverified⟩

end Metric

end NovaHarness.EventCounts
