import NovaHarness.CrashFreedom
import NovaHarness.OutputRendering

namespace NovaHarness.CriteriaTightening

open NovaHarness.Text
open NovaHarness.RecordValidation
open NovaHarness.OrchestrationMachine
open NovaHarness.Driver
open NovaHarness.TaskContractSchema
open NovaHarness.ToolInterfaceSchema
open NovaHarness.TraceSchemas
open NovaHarness.Pipeline
open NovaHarness.PipelineRun
open NovaHarness.PipelinePhases
open NovaHarness.PipelineOutcome
open NovaHarness.ResultRecords
open NovaHarness.EffectGating
open NovaHarness.OneVerdict
open NovaHarness.RunCompletion
open NovaHarness.OutputRendering
open NovaHarness.CrashFreedom

section Endings

variable (rt : Runtime) (x : PipelineExecutor) (input : PipelineInput)

/-- The success flag and the terminal state of a run, if it returns. -/
def ending : Option (Bool × String) :=
  (run rt x input).outcome.toOption.map fun r => (r.success, r.terminalState)

def Passes (criteria : List SuccessCriterion) (content : String) : Prop :=
  ∀ criterion ∈ criteria, (criterionVerdict rt criterion.kind content).1 = .success

instance (criteria : List SuccessCriterion) (content : String) :
    Decidable (Passes rt criteria content) :=
  inferInstanceAs (Decidable (∀ criterion ∈ criteria, _ = _))

/-- How a run ends that gets some output from the back end. -/
def endingWith (criteria : List SuccessCriterion) (status : ToolStatus) (content : String) :
    Bool × String :=
  if status = .success then
    if Passes rt criteria content then (true, "succeeded") else (false, "failed")
  else (false, "retry_pending")

theorem ending_of_returned {error : Option String} {s : Session} (hfresh : input.driver = {})
    (h : Returned rt x input error s) :
    ending rt x input = some (resultSuccess s.driver error, (state s).value) := by
  obtain ⟨t, hprepared, -⟩ := exists_prepared rt x input hfresh
  obtain ⟨r, hr⟩ := exists_buildResult_of_returned rt x input (by simp [hprepared]) h
  have hreports := reports_of_buildResult rt input hr
  rw [ending, (run_of_returned rt x input h).2, hr]
  simp only [Except.toOption, Option.map_some, hreports.success_eq, hreports.terminalState_eq]

/-- A run that returns has been blocked, or has got something from the back end that
it can take the text of. -/
theorem blocked_or_result_of_ending (hfresh : input.driver = {}) (h : ending rt x input ≠ none) :
    FilledIn input ∧ (action x input = .block ∨
      ∃ result, backendResult rt x input (reviewed rt x input) = .ok result ∧
        (result.status = .success → Prints result)) := by
  unfold ending at h
  rcases houtcome : (run rt x input).outcome with e | r
  · simp [houtcome, Except.toOption] at h
  · obtain ⟨hfilled, hcases⟩ := blocked_or_result_of_outcome rt x input hfresh houtcome
    refine ⟨hfilled, hcases.imp_right ?_⟩
    rintro ⟨-, result, hresult, hcriteria⟩
    exact ⟨result, hresult, fun hstatus =>
      ((exists_criterionTraces rt input result).mp (hcriteria hstatus)).1⟩

theorem ending_of_not_filledIn (hfresh : input.driver = {}) (h : ¬ FilledIn input) :
    ending rt x input = none := by
  by_contra hsome
  exact h (blocked_or_result_of_ending rt x input hfresh hsome).1

/-- The back end is called, and its output made a text, outside every `try`. -/
theorem ending_of_raised (hfresh : input.driver = {}) (hgo : action x input ≠ .block)
    (h : ∀ result, backendResult rt x input (reviewed rt x input) = .ok result →
      result.status = .success ∧ ¬ Prints result) :
    ending rt x input = none := by
  by_contra hsome
  rcases (blocked_or_result_of_ending rt x input hfresh hsome).2 with
    hblock | ⟨result, hresult, hprints⟩
  · exact hgo hblock
  · obtain ⟨hstatus, hraises⟩ := h result hresult
    exact hraises (hprints hstatus)

theorem ending_of_blocked (hfresh : input.driver = {}) (hfilled : FilledIn input)
    (hblock : action x input = .block) : ending rt x input = some (false, "failed") := by
  obtain ⟨t, hprepared, hstate⟩ := exists_prepared rt x input hfresh
  rw [if_pos hblock] at hstate
  rw [ending_of_returned rt x input hfresh (.blocked t hfilled hblock hprepared), hstate]
  have hsuccess : resultSuccess t.driver none = false := by
    change t.driver.currentStateId = .failed at hstate
    simp [resultSuccess, hstate]
  rw [hsuccess]
  rfl

/-- The criteria come in only at the end, by their kinds. -/
theorem ending_of_result (hfresh : input.driver = {}) (hfilled : FilledIn input)
    (hgo : action x input ≠ .block) {result : ToolResult}
    (hresult : backendResult rt x input (reviewed rt x input) = .ok result)
    {content : String} (hcontent : result.status = .success → outputContent rt result = .ok content)
    (hnameable : ∀ criterion ∈ input.taskContract.1.successCriteria, Nameable criterion) :
    ending rt x input = some (endingWith rt input.taskContract.1.successCriteria result.status
      content) := by
  have hdefault := isDefault_of_fresh hfresh
  obtain ⟨t, hprepared, hstate⟩ := exists_prepared rt x input hfresh
  rw [if_neg hgo] at hstate
  by_cases hstatus : result.status = .success
  · have hprints := (exists_outputContent rt result).mp ⟨content, hcontent hstatus⟩
    obtain ⟨traces, htraces⟩ :=
      (exists_criterionTraces rt input result).mpr ⟨hprints, hnameable⟩
    obtain ⟨t', hfollow⟩ := exists_verified rt x input hfresh hprepared hstate result traces
    have hreturned := Returned.verified t t' result traces hfilled hgo hprepared hresult hstatus
      htraces hfollow
    have hverified := state_of_verified hdefault hprepared hfollow
    have hpasses : allPass traces = true ↔
        Passes rt input.taskContract.1.successCriteria content := by
      rw [criterionTraces, hcontent hstatus] at htraces
      exact allPass_iff rt htraces
    rw [ending_of_returned rt x input hfresh hreturned, endingWith, if_pos hstatus]
    change some (resultSuccess t'.driver none, (state t').value) = _
    change t'.driver.currentStateId = _ at hverified
    by_cases hall : allPass traces = true
    · rw [if_pos hall] at hverified
      simp [resultSuccess, isError, state, hverified, if_pos (hpasses.mp hall)]
      rfl
    · rw [if_neg hall] at hverified
      simp [resultSuccess, state, hverified, if_neg (mt hpasses.mpr hall)]
      rfl
  · have hreturned := Returned.toolFailed t result hfilled hgo hprepared hresult hstatus
    have hfailed := (machine_state_of_executed rt x input hfresh hprepared hstate result
      .toolFailedRetryable).2
    rw [next_toolFailedRetryable, Option.getD_some] at hfailed
    rw [ending_of_returned rt x input hfresh hreturned, endingWith, if_neg hstatus, hfailed]
    have hsuccess : ∀ driver, resultSuccess driver (some (failureText result)) = false := by
      intro driver
      simp [resultSuccess, isError, failureText_ne_empty]
    rw [hsuccess]
    rfl

end Endings

section Kinds

variable (rt : Runtime)

def kinds (criteria : List SuccessCriterion) : List VerificationKind :=
  criteria.map (·.kind)

theorem passes_iff (criteria : List SuccessCriterion) (content : String) :
    Passes rt criteria content ↔
      ∀ kind ∈ kinds criteria, (criterionVerdict rt kind content).1 = .success := by
  simp [Passes, kinds]

/-- Dropping criteria never takes a pass away. -/
theorem Passes.of_subset {criteria criteria' : List SuccessCriterion} {content : String}
    (h : Passes rt criteria' content) (hsubset : kinds criteria ⊆ kinds criteria') :
    Passes rt criteria content := by
  rw [passes_iff] at h ⊢
  intro kind hkind
  exact h kind (hsubset hkind)

theorem endingWith_congr {criteria criteria' : List SuccessCriterion}
    (h : ∀ kind, kind ∈ kinds criteria ↔ kind ∈ kinds criteria') (status : ToolStatus)
    (content : String) :
    endingWith rt criteria status content = endingWith rt criteria' status content := by
  have hpasses : Passes rt criteria content ↔ Passes rt criteria' content := by
    constructor
    · intro hall
      exact hall.of_subset rt fun kind => (h kind).mpr
    · intro hall
      exact hall.of_subset rt fun kind => (h kind).mp
  simp only [endingWith, hpasses]

theorem endingWith_fst (criteria : List SuccessCriterion) (status : ToolStatus)
    (content : String) :
    (endingWith rt criteria status content).1 = true ↔
      status = .success ∧ Passes rt criteria content := by
  unfold endingWith
  split
  · rename_i hstatus
    split
    · rename_i hpasses
      simp [hstatus, hpasses]
    · rename_i hpasses
      simp [hpasses]
  · rename_i hstatus
    simp [hstatus]

variable {rt} {rt' : Runtime}

theorem criterionVerdict_congr (htables : rt'.tables = rt.tables) (kind : VerificationKind)
    (content : String) : criterionVerdict rt' kind content = criterionVerdict rt kind content := by
  simp only [criterionVerdict, htables]

theorem endingWith_runtime (htables : rt'.tables = rt.tables) (criteria : List SuccessCriterion)
    (status : ToolStatus) (content : String) :
    endingWith rt' criteria status content = endingWith rt criteria status content := by
  have hpasses : Passes rt' criteria content ↔ Passes rt criteria content := by
    simp only [Passes, criterionVerdict_congr htables]
  simp only [endingWith, hpasses]

end Kinds

section TwoRuns

/-- What the back end of a run comes to, without the ids and the times in it. -/
def toolOutput (rt : Runtime) (x : PipelineExecutor) (input : PipelineInput) :
    Option (ToolStatus × Option Dict) :=
  (backendResult rt x input (reviewed rt x input)).toOption.map fun result =>
    (result.status, result.output)

/-- Two runs that only the criteria of their contracts tell apart.  The clock and
the fresh identifiers may differ as well, and so may the executors, as long as
they put out the same. -/
structure SameButCriteria (rt rt' : Runtime) (x x' : PipelineExecutor)
    (input input' : PipelineInput) : Prop where
  contract : input'.taskContract.1 =
    { input.taskContract.1 with successCriteria := input'.taskContract.1.successCriteria }
  runId : input'.runId = input.runId
  modelName : input'.modelName = input.modelName
  policy : input'.safetyPolicy = input.safetyPolicy
  fresh : input.driver = {}
  fresh' : input'.driver = {}
  toolName : x'.toolName = x.toolName
  tables : rt'.tables = rt.tables
  output : action x input ≠ .block → toolOutput rt' x' input' = toolOutput rt x input

variable {rt rt' : Runtime} {x x' : PipelineExecutor} {input input' : PipelineInput}

theorem SameButCriteria.filledIn_iff (h : SameButCriteria rt rt' x x' input input') :
    FilledIn input' ↔ FilledIn input := by
  have htask : input'.taskContract.1.taskId = input.taskContract.1.taskId := by
    rw [h.contract]
  have hrequest : input'.taskContract.1.inputs = input.taskContract.1.inputs := by
    rw [h.contract]
  constructor
  · rintro ⟨htaskId, hrunId, huserRequest, hmodelName⟩
    exact ⟨htask ▸ htaskId, h.runId ▸ hrunId, hrequest ▸ huserRequest, h.modelName ▸ hmodelName⟩
  · rintro ⟨htaskId, hrunId, huserRequest, hmodelName⟩
    exact ⟨htask ▸ htaskId, h.runId ▸ hrunId, hrequest ▸ huserRequest, h.modelName ▸ hmodelName⟩

theorem SameButCriteria.action_eq (h : SameButCriteria rt rt' x x' input input') :
    action x' input' = action x input := by
  simp only [action, h.policy, h.toolName]

/-- Up to the verification the two runs go the same way. -/
theorem SameButCriteria.endings (h : SameButCriteria rt rt' x x' input input')
    (hnameable : ∀ criterion ∈ input.taskContract.1.successCriteria, Nameable criterion)
    (hnameable' : ∀ criterion ∈ input'.taskContract.1.successCriteria, Nameable criterion) :
    (ending rt' x' input' = ending rt x input ∧
        ∀ terminal, ending rt x input ≠ some (true, terminal)) ∨
      ∃ status content,
        ending rt x input =
            some (endingWith rt input.taskContract.1.successCriteria status content) ∧
          ending rt' x' input' =
            some (endingWith rt input'.taskContract.1.successCriteria status content) := by
  by_cases hfilled : FilledIn input
  · have hfilled' := h.filledIn_iff.mpr hfilled
    by_cases hblock : action x input = .block
    · have hblock' := h.action_eq.trans hblock
      refine .inl ?_
      rw [ending_of_blocked rt x input h.fresh hfilled hblock,
        ending_of_blocked rt' x' input' h.fresh' hfilled' hblock']
      simp
    · have hgo' : action x' input' ≠ .block := by rwa [h.action_eq]
      have houtput := h.output hblock
      unfold toolOutput at houtput
      rcases hresult : backendResult rt x input (reviewed rt x input) with e | result
      · rcases hresult' : backendResult rt' x' input' (reviewed rt' x' input') with e' | result'
        · refine .inl ?_
          rw [ending_of_raised rt x input h.fresh hblock (by simp [hresult]),
            ending_of_raised rt' x' input' h.fresh' hgo' (by simp [hresult'])]
          simp
        · simp [hresult, hresult', Except.toOption] at houtput
      · rcases hresult' : backendResult rt' x' input' (reviewed rt' x' input') with e' | result'
        · simp [hresult, hresult', Except.toOption] at houtput
        · simp only [hresult, hresult', Except.toOption, Option.map_some, Option.some.injEq,
            Prod.mk.injEq] at houtput
          obtain ⟨hstatus, hsame⟩ := houtput
          have htext : outputContent rt' result' = outputContent rt result := by
            rw [outputContent, outputContent, hsame, h.tables]
          by_cases hprints : result.status = .success → Prints result
          · obtain ⟨content, hcontent⟩ : ∃ content, result.status = .success →
                outputContent rt result = .ok content := by
              by_cases hsuccess : result.status = .success
              · obtain ⟨content, hcontent⟩ :=
                  (exists_outputContent rt result).mpr (hprints hsuccess)
                exact ⟨content, fun _ => hcontent⟩
              · exact ⟨"", fun hstatus => absurd hstatus hsuccess⟩
            have hcontent' : result'.status = .success →
                outputContent rt' result' = .ok content := by
              rw [hstatus, htext]
              exact hcontent
            refine .inr ⟨result.status, content, ?_, ?_⟩
            · exact ending_of_result rt x input h.fresh hfilled hblock hresult hcontent hnameable
            · rw [ending_of_result rt' x' input' h.fresh' hfilled' hgo' hresult' hcontent'
                hnameable', endingWith_runtime h.tables, hstatus]
          · rw [Classical.not_imp] at hprints
            have hprints' : result'.status = .success ∧ ¬ Prints result' := by
              rwa [hstatus, Prints, hsame]
            refine .inl ?_
            rw [ending_of_raised rt x input h.fresh hblock (by simpa [hresult] using hprints),
              ending_of_raised rt' x' input' h.fresh' hgo' (by simpa [hresult'] using hprints')]
            simp
  · have hfilled' : ¬ FilledIn input' := mt h.filledIn_iff.mp hfilled
    refine .inl ?_
    rw [ending_of_not_filledIn rt x input h.fresh hfilled,
      ending_of_not_filledIn rt' x' input' h.fresh' hfilled']
    simp

theorem ending_of_outcome {r : PipelineResult} (h : (run rt x input).outcome = .ok r) :
    ending rt x input = some (r.success, r.terminalState) := by
  simp [ending, h, Except.toOption]

theorem exists_outcome_of_ending {e : Bool × String} (h : ending rt x input = some e) :
    ∃ r, (run rt x input).outcome = .ok r ∧ r.success = e.1 := by
  unfold ending at h
  rcases houtcome : (run rt x input).outcome with raised | r
  · simp [houtcome, Except.toOption] at h
  · simp only [houtcome, Except.toOption, Option.map_some, Option.some.injEq] at h
    exact ⟨r, rfl, by rw [← h]⟩

/-- Which kinds of criteria there are decides the ending, and fewer of them are
easier to meet. -/
theorem criteria_only_tighten (h : SameButCriteria rt rt' x x' input input')
    (hnameable : ∀ criterion ∈ input.taskContract.1.successCriteria, Nameable criterion)
    (hnameable' : ∀ criterion ∈ input'.taskContract.1.successCriteria, Nameable criterion) :
    (input.taskContract.1.successCriteria.Perm input'.taskContract.1.successCriteria ∨
        (∀ kind, kind ∈ kinds input.taskContract.1.successCriteria ↔
          kind ∈ kinds input'.taskContract.1.successCriteria) →
      ending rt x input = ending rt' x' input') ∧
    (input.taskContract.1.successCriteria.Sublist input'.taskContract.1.successCriteria →
      (∃ r', (run rt' x' input').outcome = .ok r' ∧ r'.success = true) →
      ∃ r, (run rt x input).outcome = .ok r ∧ r.success = true) := by
  constructor
  · intro hsame
    have hkinds : ∀ kind, kind ∈ kinds input.taskContract.1.successCriteria ↔
        kind ∈ kinds input'.taskContract.1.successCriteria := by
      rcases hsame with hperm | hkinds
      · intro kind
        exact (hperm.map _).mem_iff
      · exact hkinds
    rcases h.endings hnameable hnameable' with ⟨heq, -⟩ | ⟨status, content, hfirst, hsecond⟩
    · exact heq.symm
    · rw [hfirst, hsecond, endingWith_congr rt hkinds]
  · rintro hsublist ⟨r', houtcome', hsuccess'⟩
    have hending' := ending_of_outcome houtcome'
    rw [hsuccess'] at hending'
    rcases h.endings hnameable hnameable' with ⟨heq, hnot⟩ | ⟨status, content, hfirst, hsecond⟩
    · exact absurd (heq.symm.trans hending') (hnot _)
    · rw [hsecond, Option.some.injEq] at hending'
      have hfst : (endingWith rt input'.taskContract.1.successCriteria status content).1 = true := by
        rw [hending']
      obtain ⟨hstatus, hpasses⟩ := (endingWith_fst rt _ status content).mp hfst
      have hfewer := hpasses.of_subset rt (hsublist.map _).subset
      have hmet := (endingWith_fst rt _ status content).mpr ⟨hstatus, hfewer⟩
      obtain ⟨r, houtcome, hr⟩ := exists_outcome_of_ending hfirst
      exact ⟨r, houtcome, hr.trans hmet⟩

/-- The small contract with a criterion more, of a kind that it has already. -/
def doubledContract : Accepted TaskContract :=
  build
    { minimalContract.1 with
      successCriteria := [{ kind := .test, target := "" }, { kind := .test, target := "pytest" }] }
    (by decide +kernel)

def doubledInput : PipelineInput :=
  { plainInput with taskContract := doubledContract }

theorem criteria_only_tighten_doubled :
    ending asciiRuntime answering plainInput = ending asciiRuntime answering doubledInput ∧
      ∃ r, (run asciiRuntime answering plainInput).outcome = .ok r ∧ r.success = true := by
  have hsame : SameButCriteria asciiRuntime asciiRuntime answering answering plainInput
      doubledInput :=
    { contract := by decide +kernel
      runId := rfl
      modelName := rfl
      policy := rfl
      fresh := rfl
      fresh' := rfl
      toolName := rfl
      tables := rfl
      output := fun _ => rfl }
  have hkinds : ∀ kind, kind ∈ kinds plainInput.taskContract.1.successCriteria ↔
      kind ∈ kinds doubledInput.taskContract.1.successCriteria := by
    intro kind
    cases kind <;> decide +kernel
  have hsublist : plainInput.taskContract.1.successCriteria.Sublist
      doubledInput.taskContract.1.successCriteria := by
    decide +kernel
  obtain ⟨r', houtcome', hsuccess'⟩ := exists_of_map_toOption
    (by decide +kernel : (run asciiRuntime answering doubledInput).outcome.toOption.map
      (·.success) = some true)
  obtain ⟨hending, hsucceeds⟩ :=
    criteria_only_tighten hsame (by decide) (by decide +kernel)
  exact ⟨hending (.inr hkinds), hsucceeds hsublist ⟨r', houtcome', hsuccess'⟩⟩

end TwoRuns

end NovaHarness.CriteriaTightening
