import NovaHarness.RunCompletion

namespace NovaHarness.CrashFreedom

open NovaHarness.Text
open NovaHarness.RecordValidation
open NovaHarness.OrchestrationMachine
open NovaHarness.Driver
open NovaHarness.TaskContractSchema
open NovaHarness.ToolInterfaceSchema
open NovaHarness.TraceSchemas
open NovaHarness.Pipeline
open NovaHarness.PipelineRun
open NovaHarness.PipelinePhases
open NovaHarness.PipelineOutcome
open NovaHarness.ResultRecords
open NovaHarness.EffectGating
open NovaHarness.RunCompletion
open NovaHarness.OneVerdict
open NovaHarness.OutputRendering

variable (rt : Runtime) (x : PipelineExecutor) (input : PipelineInput)

section Criteria

/-- The trace of a criterion takes its name: an empty target is replaced, one of
spaces is not. -/
def Nameable (criterion : SuccessCriterion) : Prop :=
  criterion.target = "" ∨ ¬ IsBlank criterion.target

instance (criterion : SuccessCriterion) : Decidable (Nameable criterion) :=
  inferInstanceAs (Decidable (_ ∨ _))

theorem not_isBlank_checkName (criterion : SuccessCriterion) :
    ¬ IsBlank (SuccessCriterion.checkName criterion) ↔ Nameable criterion := by
  unfold SuccessCriterion.checkName Nameable
  split
  · rename_i hempty
    have hkind : ¬ IsBlank criterion.kind.value := by
      cases criterion.kind <;> decide
    simp [hempty, hkind]
  · rename_i hne
    simp [hne]

theorem exists_checkCriterion (criterion : SuccessCriterion) (content : String) :
    (∃ trace, checkCriterion rt criterion content = .ok trace) ↔ Nameable criterion := by
  simp only [checkCriterion, construct_eq_ok, VerificationTrace.validate, fields_eq_ok,
    nonBlank_eq_nil, not_isBlank_checkName]
  constructor
  · rintro ⟨_, hname, -⟩
    exact hname
  · intro hname
    exact ⟨_, hname, rfl⟩

/-- `str` of the output returns. -/
def Prints (result : ToolResult) : Prop :=
  ∀ entry ∈ result.output.getD [], entry.2.Prints

instance (result : ToolResult) : Decidable (Prints result) :=
  inferInstanceAs (Decidable (∀ entry ∈ _, _))

theorem prints_stringDict (entries : List (String × String)) :
    ∀ entry ∈ stringDict entries, entry.2.Prints := by
  intro entry hentry
  obtain ⟨strings, -, rfl⟩ := List.mem_map.mp hentry
  trivial

theorem exists_dictStr (tables : UnicodeTables) (output : Dict) :
    (∃ s, dictStr tables output = .ok s) ↔ ∀ entry ∈ output, entry.2.Prints := by
  have hentry : ∀ entry, (∃ s, entryStr tables entry = .ok s) ↔ entry.2.Prints := by
    intro entry
    rw [← Value.exists_repr tables, entryStr]
    simp only [bind_eq_ok, pure_eq_ok]
    constructor
    · rintro ⟨-, value, hvalue, -⟩
      exact ⟨value, hvalue⟩
    · rintro ⟨value, hvalue⟩
      exact ⟨_, value, hvalue, rfl⟩
  simp only [← hentry, ← exists_mapM_eq_ok, dictStr, bind_eq_ok, pure_eq_ok]
  constructor
  · rintro ⟨-, entries, hentries, -⟩
    exact ⟨entries, hentries⟩
  · rintro ⟨entries, hentries⟩
    exact ⟨_, entries, hentries, rfl⟩

theorem exists_outputContent (result : ToolResult) :
    (∃ content, outputContent rt result = .ok content) ↔ Prints result := by
  unfold outputContent Prints
  rcases result.output with _ | output
  · simp
  · change (∃ content, (dictStr rt.tables output).mapError PyException.backend = .ok content) ↔ _
    rw [Option.getD_some, ← exists_dictStr rt.tables]
    cases dictStr rt.tables output <;> simp [Except.mapError]

theorem exists_criterionTraces (result : ToolResult) :
    (∃ traces, criterionTraces rt input result = .ok traces) ↔
      Prints result ∧
        ∀ criterion ∈ input.taskContract.1.successCriteria, Nameable criterion := by
  have hcriteria : ∀ content, (∃ traces, input.taskContract.1.successCriteria.mapM
      (fun criterion => checkCriterion rt criterion content) = .ok traces) ↔
      ∀ criterion ∈ input.taskContract.1.successCriteria, Nameable criterion := by
    intro content
    simp only [exists_mapM_eq_ok, exists_checkCriterion]
  rw [← exists_outputContent rt, criterionTraces]
  simp only [bind_eq_ok]
  constructor
  · rintro ⟨traces, content, hcontent, htraces⟩
    exact ⟨⟨content, hcontent⟩, (hcriteria content).mp ⟨traces, htraces⟩⟩
  · rintro ⟨⟨content, hcontent⟩, hnameable⟩
    obtain ⟨traces, htraces⟩ := (hcriteria content).mpr hnameable
    exact ⟨traces, content, hcontent, htraces⟩

end Criteria

section BackEnd

/-- A tool executor returns; a provider may also raise what a run makes a result of. -/
def BackendReturns : Prop :=
  match x.modelProvider with
  | some provider => ∀ messages e, provider.generate messages = .error e →
      e.isException = true ∧ e.text ≠ ""
  | none => ∀ execute ∈ x.toolExecutor, ∀ invocation, ∃ result, execute invocation = .ok result

theorem exists_failedResult {e : BackendError} (hexception : e.isException = true)
    (htext : e.text ≠ "") :
    ∃ result, failedResult rt (reviewed rt x input) (.backend e) = .ok result := by
  obtain ⟨hid, hname⟩ := not_isBlank_reviewed rt x input
  have hraised : PyException.isException (.backend e) = true := hexception
  simp only [failedResult, if_pos hraised, construct_eq_ok, ToolResult.validate_eq_ok]
  exact ⟨_, ⟨hid, hname⟩, by simp, fun _ => htext, rfl⟩

theorem exists_backendResult (h : BackendReturns x) :
    ∃ result, backendResult rt x input (reviewed rt x input) = .ok result := by
  unfold BackendReturns at h
  unfold backendResult
  rcases hprovider : x.modelProvider with _ | provider
  · simp only [hprovider, executorResult] at h ⊢
    rcases hexecutor : x.toolExecutor with _ | execute
    · obtain ⟨hid, hname⟩ := not_isBlank_reviewed rt x input
      simp only [construct_eq_ok, defaultToolExecutor, ToolResult.validate_eq_ok]
      exact ⟨_, ⟨hid, hname⟩, by simp [mockOutput], by simp, rfl⟩
    · obtain ⟨result, hresult⟩ := h execute hexecutor (reviewed rt x input)
      simp only [hresult]
      exact ⟨result.1, rfl⟩
  · simp only [hprovider, providerResult] at h ⊢
    rcases hgenerate : provider.generate (promptMessages input.taskContract.1) with e | response
    · obtain ⟨hexception, htext⟩ := h _ e hgenerate
      simp only [generateResult_of_error rt hgenerate]
      exact exists_failedResult rt x input hexception htext
    · obtain ⟨generated, hgenerated, -⟩ := generateResult_of_ok rt x input hgenerate
      simp only [hgenerated]
      exact ⟨generated, rfl⟩

/-- A tool executor that the run calls gives an output whose text can be taken. -/
def OutputPrints : Prop :=
  match x.modelProvider with
  | some _ => True
  | none => ∀ execute ∈ x.toolExecutor, ∀ result,
      execute (reviewed rt x input) = .ok result → Prints result.1

theorem prints_iff {result : ToolResult}
    (hresult : backendResult rt x input (reviewed rt x input) = .ok result)
    (hsuccess : result.status = .success) : Prints result ↔ OutputPrints rt x input := by
  unfold OutputPrints
  unfold backendResult at hresult
  rcases hprovider : x.modelProvider with _ | provider
  · simp only [hprovider, executorResult] at hresult ⊢
    rcases hexecutor : x.toolExecutor with _ | execute
    · simp only [hexecutor, construct_eq_ok, defaultToolExecutor,
        ToolResult.validate_eq_ok] at hresult
      obtain ⟨-, -, -, rfl⟩ := hresult
      have hmock : ∀ entry ∈ mockOutput, entry.2.Prints := by decide
      simpa [ToolResult.normalized, Prints] using hmock
    · simp only [hexecutor] at hresult ⊢
      rcases hexecute : execute (reviewed rt x input) with e | executed
      · rw [hexecute] at hresult
        simp [Except.mapError, Except.map] at hresult
      · rw [hexecute] at hresult
        obtain rfl := Except.ok.inj hresult
        simp [hexecute]
  · simp only [hprovider, providerResult] at hresult ⊢
    rcases hgenerate : provider.generate (promptMessages input.taskContract.1) with e | response
    · simp only [generateResult_of_error rt hgenerate] at hresult
      simp [failedResult_status rt hresult] at hsuccess
    · obtain ⟨generated, hgenerated, -, houtput⟩ := generateResult_of_ok rt x input hgenerate
      rw [hgenerated] at hresult
      obtain rfl := Except.ok.inj hresult
      simpa [Prints, houtput, generatedOutput] using prints_stringDict (responseEntries response)

end BackEnd

section Returns

theorem next_toolCompleted :
    harnessV1.next .toolRunning .toolCompleted [] = some .verifying := by
  decide

theorem exists_next_verificationEvent (traces : List VerificationTrace) :
    ∃ toState, harnessV1.next .verifying (verificationEvent traces) [] = some toState := by
  unfold verificationEvent
  split
  · exact ⟨.succeeded, by decide⟩
  · exact ⟨.failed, by decide⟩

/-- On a fresh driver the criteria are followed by an event that is accepted. -/
theorem exists_verified {t : Session} (hfresh : input.driver = {})
    (hprepared : prepared rt x input (initialSession input) = some t)
    (hstate : state t = .toolRunning) (result : ToolResult) (traces : List VerificationTrace) :
    ∃ t', follow rt (passing rt (executed rt t (reviewed rt x input) result) .toolCompleted)
      [(verificationEvent traces, [])] = some t' := by
  obtain ⟨hmachine, hverifying⟩ := machine_state_of_executed rt x input hfresh hprepared hstate
    result .toolCompleted
  rw [next_toolCompleted, Option.getD_some] at hverifying
  obtain ⟨toState, hnext⟩ := exists_next_verificationEvent traces
  simp only [follow, hverifying, hmachine, hnext, Option.bind_some]
  exact ⟨_, rfl⟩

end Returns

/-- On a fresh driver, a run that returns has been blocked or has got a result, and
then traces of its criteria unless the result is a failure. -/
theorem blocked_or_result_of_outcome {r : PipelineResult} (hfresh : input.driver = {})
    (h : (run rt x input).outcome = .ok r) :
    FilledIn input ∧ (action x input = .block ∨
      action x input ≠ .block ∧
        ∃ result, backendResult rt x input (reviewed rt x input) = .ok result ∧
          (result.status = .success → ∃ traces, criterionTraces rt input result = .ok traces)) := by
  obtain ⟨t₀, hprepared₀, -⟩ := exists_prepared rt x input hfresh
  obtain ⟨error, hreturned, -⟩ := returned_of_outcome rt x input h
  generalize (run rt x input).session = s at hreturned
  cases hreturned with
  | rejected msg t hmsg hrejected hprepare => simp [hprepared₀] at hrejected
  | blocked t hfilled hblock hprepared => exact ⟨hfilled, .inl hblock⟩
  | toolFailed t result hfilled hgo hprepared hresult hstatus =>
      exact ⟨hfilled, .inr ⟨hgo, result, hresult, fun hsuccess => absurd hsuccess hstatus⟩⟩
  | verified t t' result traces hfilled hgo hprepared hresult hstatus htraces hfollow =>
      exact ⟨hfilled, .inr ⟨hgo, result, hresult, fun _ => ⟨traces, htraces⟩⟩⟩

/-- Whether a run returns is decided by the texts it copies. -/
theorem returns_iff (hfresh : input.driver = {}) (hreturns : BackendReturns x) :
    (∃ r, (run rt x input).outcome = .ok r) ↔
      FilledIn input ∧ (action x input = .block ∨ ¬ BackendSucceeds rt x input ∨
        OutputPrints rt x input ∧
          ∀ criterion ∈ input.taskContract.1.successCriteria, Nameable criterion) := by
  obtain ⟨t, hprepared, hstate⟩ := exists_prepared rt x input hfresh
  constructor
  · rintro ⟨r, houtcome⟩
    obtain ⟨hfilled, hblock | ⟨-, result, hresult, hcriteria⟩⟩ :=
      blocked_or_result_of_outcome rt x input hfresh houtcome
    · exact ⟨hfilled, .inl hblock⟩
    · refine ⟨hfilled, .inr ?_⟩
      rw [← status_eq_success_iff rt x input hresult]
      by_cases hstatus : result.status = .success
      · obtain ⟨hprints, hnameable⟩ :=
          (exists_criterionTraces rt input result).mp (hcriteria hstatus)
        exact .inr ⟨(prints_iff rt x input hresult hstatus).mp hprints, hnameable⟩
      · exact .inl hstatus
  · rintro ⟨hfilled, hcases⟩
    have hreturned : ∃ error s, Returned rt x input error s := by
      by_cases hblock : action x input = .block
      · exact ⟨_, _, .blocked t hfilled hblock hprepared⟩
      · rw [if_neg hblock] at hstate
        obtain ⟨result, hresult⟩ := exists_backendResult rt x input hreturns
        by_cases hstatus : result.status = .success
        · have hsucceeds := (status_eq_success_iff rt x input hresult).mp hstatus
          obtain ⟨houtput, hnameable⟩ :=
            (hcases.resolve_left hblock).resolve_left (not_not_intro hsucceeds)
          have hprints := (prints_iff rt x input hresult hstatus).mpr houtput
          obtain ⟨traces, htraces⟩ :=
            (exists_criterionTraces rt input result).mpr ⟨hprints, hnameable⟩
          obtain ⟨t', hfollow⟩ :=
            exists_verified rt x input hfresh hprepared hstate result traces
          exact ⟨_, _, .verified t t' result traces hfilled hblock hprepared hresult hstatus
            htraces hfollow⟩
        · exact ⟨_, _, .toolFailed t result hfilled hblock hprepared hresult hstatus⟩
    obtain ⟨error, s, hreturned⟩ := hreturned
    rw [(run_of_returned rt x input hreturned).2]
    exact exists_buildResult_of_returned rt x input (by simp [hprepared]) hreturned

theorem returns_iff_answering :
    ∃ r, (run asciiRuntime answering plainInput).outcome = .ok r := by
  have hreturns : BackendReturns answering := by
    rintro execute ⟨rfl⟩ invocation
    exact ⟨answer, rfl⟩
  have houtput : OutputPrints asciiRuntime answering plainInput := by
    rintro execute ⟨rfl⟩ result hresult
    obtain rfl := Except.ok.inj hresult
    decide
  exact (returns_iff asciiRuntime answering plainInput rfl hreturns).mpr
    ⟨filledIn_minimalInput none, .inr (.inr ⟨houtput, by decide⟩)⟩

/-- A contract whose only criterion aims at a space. -/
def spacedContract : Accepted TaskContract :=
  build
    { taskId := "test-task"
      title := "Test task"
      taskType := .feature
      goal := "Write a Python function."
      scope := { repoPath := "/workspace", allowedPaths := ["solution.py"] }
      inputs := { userRequest := "Write add(a,b) function." }
      constraints := { allowDependencyChanges := true }
      toolsAllowed := [.editFile]
      successCriteria := [{ kind := .test, target := " " }] }
    (by decide)

def spacedInput : PipelineInput where
  taskContract := spacedContract
  runId := "run-1"

/-- The trace of the criterion is refused when the tool has already run. -/
theorem spacedInput_crashes :
    (¬ ∃ r, (run asciiRuntime answering spacedInput).outcome = .ok r) ∧
      (calls (run asciiRuntime answering spacedInput).session).length = 1 := by
  have houtcome : (run asciiRuntime answering spacedInput).outcome.toOption = none := by
    decide +kernel
  refine ⟨?_, by decide +kernel⟩
  rintro ⟨r, hr⟩
  simp [hr, Except.toOption] at houtcome

end NovaHarness.CrashFreedom
