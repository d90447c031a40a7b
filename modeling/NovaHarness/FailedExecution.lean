import NovaHarness.CrashFreedom

namespace NovaHarness.FailedExecution

open NovaHarness.Text
open NovaHarness.RecordValidation
open NovaHarness.EarlyExit
open NovaHarness.OrchestrationMachine
open NovaHarness.Driver
open NovaHarness.ToolInterfaceSchema
open NovaHarness.TraceSchemas
open NovaHarness.Pipeline
open NovaHarness.PipelineRun
open NovaHarness.PipelinePhases
open NovaHarness.PipelineOutcome
open NovaHarness.ResultRecords
open NovaHarness.EffectGating
open NovaHarness.OneVerdict
open NovaHarness.RunCompletion
open NovaHarness.CrashFreedom

variable (rt : Runtime) (x : PipelineExecutor) (input : PipelineInput)

section BackEnd

/-- The back end a run calls raises `e` at what the run hands it. -/
def Raises (e : BackendError) : Prop :=
  match x.modelProvider with
  | some provider => provider.generate (promptMessages input.taskContract.1) = .error e
  | none => ∃ execute ∈ x.toolExecutor, execute (reviewed rt x input) = .error e

theorem failedResult_eq_ok {e : BackendError} {result : ToolResult}
    (h : failedResult rt (reviewed rt x input) (.backend e) = .ok result) :
    e.isException = true ∧ e.text ≠ "" ∧ result.status = .error := by
  refine ⟨?_, ?_, failedResult_status rt h⟩
  · by_contra hexception
    have hraised : ¬ PyException.isException (.backend e) = true := hexception
    simp [failedResult, if_neg hraised] at h
  · unfold failedResult at h
    split at h
    · rw [construct_eq_ok, ToolResult.validate_eq_ok] at h
      obtain ⟨-, -, herror, -⟩ := h
      exact herror (by simp)
    · simp at h

variable {x input} in
theorem backendResult_of_raises {e : BackendError} (h : Raises rt x input e) :
    backendResult rt x input (reviewed rt x input) =
      if x.modelProvider.isSome then failedResult rt (reviewed rt x input) (.backend e)
      else .error (.backend e) := by
  unfold Raises at h
  unfold backendResult
  rcases hprovider : x.modelProvider with _ | provider
  · simp only [hprovider] at h
    obtain ⟨execute, hexecutor, hexecute⟩ := h
    simp only [executorResult, Option.mem_def.mp hexecutor, hexecute]
    rfl
  · simp only [hprovider] at h
    simp only [providerResult, generateResult_of_error rt h]
    rfl

/-- What the guard around a provider does not take leaves the run. -/
theorem outcome_of_backend_error {t : Session} {e : PyException} (hfilled : FilledIn input)
    (hgo : action x input ≠ .block)
    (hprepared : prepared rt x input (initialSession input) = some t)
    (hraised : backendResult rt x input (reviewed rt x input) = .error e) :
    (run rt x input).outcome = .error e := by
  have hbody := run_body_of_prepared rt x input hfilled hgo hprepared
  rw [EStateM.run_bind, run_toolModelExecution rt x input hfilled, hraised] at hbody
  simp [run, hbody]

end BackEnd

/-- The state of the driver when the back end is called. -/
def stateAtCall : Option RunState :=
  input.driver.machine.walk input.driver.currentStateId (route (action x input))

/-- The event that a failure is reported with takes the driver out of
`toolRunning`, or finds it elsewhere. -/
def LeavesToolRunning : Prop :=
  ∀ s ∈ stateAtCall x input,
    (input.driver.machine.next s .toolFailedRetryable []).getD s ≠ .toolRunning

theorem leavesToolRunning_iff {t : Session}
    (hprepared : prepared rt x input (initialSession input) = some t) (result : ToolResult) :
    LeavesToolRunning x input ↔
      state (passing rt (executed rt t (reviewed rt x input) result) .toolFailedRetryable) ≠
        .toolRunning := by
  have hstate : stateAtCall x input = some (state t) := by
    have hwalk := map_state_prepared rt x input (initialSession input)
    rw [hprepared] at hwalk
    exact hwalk.symm
  obtain ⟨-, -, -, -, hpassing⟩ :=
    passing_keeps rt (executed rt t (reviewed rt x input) result) .toolFailedRetryable
  have hmachine : t.driver.machine = input.driver.machine :=
    (prepared_keeps rt x input hprepared).machine
  rw [hpassing]
  change _ ↔ (t.driver.machine.next (state t) _ _).getD (state t) ≠ _
  rw [LeavesToolRunning, hstate, hmachine]
  simp

/-- A result that says that the execution failed, and a driver that has left it. -/
def FailureReported (report : RunReport) : Prop :=
  (∃ r, report.outcome = .ok r ∧ r.success = false ∧ (∃ text, r.error = some text ∧ text ≠ "") ∧
    ∃ step ∈ r.steps, step.stepType = .toolExecution ∧ step.status = .failure) ∧
  report.session.driver.currentStateId ≠ .toolRunning

theorem failureReported_of_toolFailed {t : Session} {result : ToolResult}
    (hfilled : FilledIn input) (hgo : action x input ≠ .block)
    (hprepared : prepared rt x input (initialSession input) = some t)
    (hresult : backendResult rt x input (reviewed rt x input) = .ok result)
    (hstatus : result.status ≠ .success) :
    FailureReported (run rt x input) ↔ LeavesToolRunning x input := by
  have hreturned := Returned.toolFailed t result hfilled hgo hprepared hresult hstatus
  obtain ⟨hsession, houtcome⟩ := run_of_returned rt x input hreturned
  rw [leavesToolRunning_iff rt x input hprepared result, FailureReported, hsession,
    and_iff_right_iff_imp]
  intro _
  obtain ⟨r, hr⟩ := exists_buildResult_of_returned rt x input (by simp [hprepared]) hreturned
  have hreports := reports_of_buildResult rt input hr
  rw [stepResults_of_executed rt x input hprepared] at hreports
  refine ⟨r, houtcome.trans hr, ?_, ⟨_, hreports.error_eq, failureText_ne_empty result⟩, ?_⟩
  · simp [hreports.success_eq, resultSuccess, isError, failureText_ne_empty]
  · rw [hreports.steps_eq]
    refine ⟨executionStep rt (reviewed rt x input) result, by simp, rfl, ?_⟩
    simp [executionStep, hstatus]

/-- A raised exception is reported if a provider raised it, as an `Exception` that
says something, on a machine that takes the failure. -/
theorem failureReported_iff {e : BackendError} (hcalled : calls (run rt x input).session ≠ [])
    (hraises : Raises rt x input e) :
    FailureReported (run rt x input) ↔
      x.modelProvider.isSome ∧ e.isException = true ∧ e.text ≠ "" ∧
        LeavesToolRunning x input := by
  obtain ⟨t, hfilled, hgo, hprepared, -⟩ := (calls_cases rt x input).resolve_left hcalled
  have hbackend := backendResult_of_raises rt hraises
  rcases hresult : backendResult rt x input (reviewed rt x input) with ex | result
  · have houtcome := outcome_of_backend_error rt x input hfilled hgo hprepared hresult
    constructor
    · rintro ⟨⟨r, hr, -⟩, -⟩
      rw [houtcome] at hr
      simp at hr
    · rintro ⟨hprovider, hexception, htext, -⟩
      obtain ⟨result, hok⟩ := exists_failedResult rt x input hexception htext
      rw [hresult, if_pos hprovider, hok] at hbackend
      simp at hbackend
  · rw [hresult] at hbackend
    split at hbackend
    · rename_i hprovider
      obtain ⟨hexception, htext, hstatus⟩ := failedResult_eq_ok rt x input hbackend.symm
      rw [failureReported_of_toolFailed rt x input hfilled hgo hprepared hresult
        (by rw [hstatus]; decide)]
      simp [hprovider, hexception, htext]
    · simp at hbackend

/-- A provider, or a tool executor, that always raises. -/
def raisingProvider (text : String) : PipelineExecutor :=
  { modelProvider := some ⟨fun _ => .error { text := text }⟩ }

def raisingExecutor (text : String) : PipelineExecutor :=
  { toolExecutor := some fun _ => .error { text := text } }

theorem failureReported_raisingProvider :
    FailureReported (run asciiRuntime (raisingProvider "timeout") plainInput) := by
  have hcalled : calls (run asciiRuntime (raisingProvider "timeout") plainInput).session ≠ [] := by
    decide +kernel
  refine (failureReported_iff asciiRuntime (raisingProvider "timeout") plainInput hcalled
    (e := { text := "timeout" }) rfl).mpr ⟨rfl, rfl, by decide, ?_⟩
  intro s hs
  obtain rfl : RunState.toolRunning = s := Option.some.inj hs
  decide

/-- The back end is called and raises, the run reports nothing of it, and the driver
is left in `toolRunning`. -/
structure LeftRunning (x : PipelineExecutor) : Prop where
  raises : ∃ e, Raises asciiRuntime x plainInput e
  called : calls (run asciiRuntime x plainInput).session ≠ []
  state : (run asciiRuntime x plainInput).session.driver.currentStateId = .toolRunning
  unreported : ¬ FailureReported (run asciiRuntime x plainInput)

/-- What an executor raises, and what a provider raises without a text. -/
theorem raised_crashes :
    LeftRunning (raisingExecutor "timeout") ∧ LeftRunning (raisingProvider "") := by
  have hcrash : ∀ x ∈ [raisingExecutor "timeout", raisingProvider ""],
      calls (run asciiRuntime x plainInput).session ≠ [] ∧
        (run asciiRuntime x plainInput).session.driver.currentStateId = .toolRunning := by
    decide +kernel
  have hleft : ∀ x ∈ [raisingExecutor "timeout", raisingProvider ""],
      (∃ e, Raises asciiRuntime x plainInput e) → LeftRunning x := by
    intro x hx hraises
    obtain ⟨hcalled, hstate⟩ := hcrash x hx
    exact ⟨hraises, hcalled, hstate, fun h => h.2 hstate⟩
  exact ⟨hleft _ (by simp) ⟨{ text := "timeout" }, _, rfl, rfl⟩,
    hleft _ (by simp) ⟨{ text := "" }, rfl⟩⟩

end NovaHarness.FailedExecution
