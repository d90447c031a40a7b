import NovaHarness.CrashFreedom
import NovaHarness.OutputRendering

namespace NovaHarness.GeneratedVerdict

open NovaHarness.Text
open NovaHarness.RecordValidation
open NovaHarness.OrchestrationMachine
open NovaHarness.Driver
open NovaHarness.TaskContractSchema
open NovaHarness.ToolInterfaceSchema
open NovaHarness.ApprovalSafetySchema
open NovaHarness.TraceSchemas
open NovaHarness.Pipeline
open NovaHarness.PipelineRun
open NovaHarness.PipelinePhases
open NovaHarness.PipelineOutcome
open NovaHarness.ResultRecords
open NovaHarness.EffectGating
open NovaHarness.OneVerdict
open NovaHarness.RunCompletion
open NovaHarness.CrashFreedom
open NovaHarness.OutputRendering

variable (rt : Runtime) (x : PipelineExecutor) (input : PipelineInput)

section Responses

/-- The provider answers the prompt of the run with `response`. -/
def Responds (response : ModelResponse) : Prop :=
  ∃ provider, x.modelProvider = some provider ∧
    provider.generate (promptMessages input.taskContract.1) = .ok response

def responding (response : ModelResponse) : PipelineExecutor :=
  { modelProvider := some ⟨fun _ => .ok response⟩ }

theorem responds_responding (response : ModelResponse) :
    Responds (responding response) input response :=
  ⟨_, rfl, rfl⟩

/-- What the policy says about a run with a provider. -/
def generateAction : SafetyAction :=
  match input.safetyPolicy with
  | some policy => chosenAction policy.1 "model_generate"
  | none => .allow

variable {x input}

theorem action_of_responds {response : ModelResponse} (h : Responds x input response) :
    action x input = generateAction input := by
  obtain ⟨provider, hprovider, -⟩ := h
  have hname : x.toolName = "model_generate" := by
    rw [PipelineExecutor.toolName, hprovider]
    rfl
  unfold action generateAction
  rcases input.safetyPolicy with _ | policy
  · rfl
  · rw [hname]

theorem exists_generated {response : ModelResponse} (h : Responds x input response) :
    ∃ result, backendResult rt x input (reviewed rt x input) = .ok result ∧
      result.status = .success ∧
      outputContent rt result = .ok (rendering rt.tables response) := by
  obtain ⟨provider, hprovider, hgenerate⟩ := h
  obtain ⟨result, hresult, hstatus, houtput⟩ := generateResult_of_ok rt x input hgenerate
  refine ⟨result, ?_, hstatus, ?_⟩
  · simp only [backendResult, hprovider, providerResult, hresult]
  · simp only [outputContent, houtput, dictStr_generatedOutput]
    rfl

end Responses

section Verdict

/-- The statuses of the verification steps, and the success flag. -/
def verdict (report : RunReport) : Option (List TraceEventStatus × Bool) :=
  report.outcome.toOption.map fun r =>
    ((r.steps.filter (·.stepType = .verification)).map (·.status), r.success)

/-- A run with a provider that answers gets to its verification and through it. -/
structure Verifies : Prop where
  filled : FilledIn input
  go : generateAction input ≠ .block
  nameable : ∀ criterion ∈ input.taskContract.1.successCriteria, Nameable criterion

variable {x input} in
theorem verdict_of_verifies {response : ModelResponse} (hfresh : input.driver = {})
    (hresponds : Responds x input response) (hverifies : Verifies input) :
    verdict (run rt x input) =
      if Satisfied input rt.tables (rendering rt.tables response) then some ([.success], true)
      else some ([.failure], false) := by
  obtain ⟨t, hprepared, hstate⟩ := exists_prepared rt x input hfresh
  have hgo : action x input ≠ .block := by
    rw [action_of_responds hresponds]
    exact hverifies.go
  rw [if_neg hgo] at hstate
  obtain ⟨result, hresult, hstatus, houtput⟩ := exists_generated rt hresponds
  have hprints := (exists_outputContent rt result).mp ⟨_, houtput⟩
  obtain ⟨traces, htraces⟩ :=
    (exists_criterionTraces rt input result).mpr ⟨hprints, hverifies.nameable⟩
  obtain ⟨t', hfollow⟩ := exists_verified rt x input hfresh hprepared hstate result traces
  have hreturned := Returned.verified t t' result traces hverifies.filled hgo hprepared hresult
    hstatus htraces hfollow
  obtain ⟨r, hr⟩ := exists_buildResult_of_returned rt x input (by simp [hprepared]) hreturned
  have hreports := reports_of_buildResult rt input hr
  have hsteps := stepResults_of_followed rt x input hprepared hfollow
  have hend : state t' = if allPass traces then .succeeded else .failed :=
    state_of_verified (isDefault_of_fresh hfresh) hprepared hfollow
  have hreview := reviewStep_stepType rt x input
  rw [verdict, (run_of_returned rt x input hreturned).2, hr]
  simp only [Except.toOption, Option.map_some, hreports.steps_eq, hreports.success_eq,
    Session.recording, hsteps, ← allPass_generated rt input houtput htraces]
  cases hpass : allPass traces with
  | true =>
      rw [hpass] at hend
      simp [promptStep, executionStep, verificationStep, verificationStatus, hreview, hpass,
        resultSuccess, isError, hend]
  | false =>
      rw [hpass] at hend
      simp [promptStep, executionStep, verificationStep, verificationStatus, hreview, hpass,
        resultSuccess, isError, hend]

variable {x input} in
theorem verdict_of_blocked {response : ModelResponse} (hfresh : input.driver = {})
    (hresponds : Responds x input response) (hfilled : FilledIn input)
    (hblock : generateAction input = .block) : verdict (run rt x input) = some ([], false) := by
  rw [← action_of_responds hresponds] at hblock
  obtain ⟨t, hprepared, hstate⟩ := exists_prepared rt x input hfresh
  rw [if_pos hblock] at hstate
  obtain ⟨r, hr, hreports⟩ := exists_outcome_of_blocked rt x input hfilled hblock hprepared
  have hreview := reviewStep_stepType rt x input
  rw [verdict, hr]
  simp [Except.toOption, hreports.steps_eq, hreports.success_eq, promptStep, hreview,
    resultSuccess, hstate]

variable {x input} in
/-- A run that returns has been blocked, or has gone through its verification. -/
theorem blocked_or_verifies {response : ModelResponse} {r : PipelineResult}
    (hfresh : input.driver = {}) (hresponds : Responds x input response)
    (h : (run rt x input).outcome = .ok r) :
    FilledIn input ∧ (generateAction input = .block ∨ Verifies input) := by
  obtain ⟨hfilled, hcases⟩ := blocked_or_result_of_outcome rt x input hfresh h
  refine ⟨hfilled, ?_⟩
  rw [action_of_responds hresponds] at hcases
  rcases hcases with hblock | ⟨hgo, result, hresult, hcriteria⟩
  · exact .inl hblock
  · obtain ⟨generated, hgenerated, hstatus, -⟩ := exists_generated rt hresponds
    obtain rfl := Except.ok.inj (hgenerated.symm.trans hresult)
    have hnameable := ((exists_criterionTraces rt input generated).mp (hcriteria hstatus)).2
    exact .inr ⟨hfilled, hgo, hnameable⟩

variable {x input} in
/-- Whatever the provider answers, a run that does not verify ends in the same way. -/
theorem verdict_of_not_verifies {response : ModelResponse} (hfresh : input.driver = {})
    (hresponds : Responds x input response) (h : ¬ Verifies input) :
    (FilledIn input ∧ generateAction input = .block → verdict (run rt x input) = some ([], false)) ∧
    (¬ (FilledIn input ∧ generateAction input = .block) → verdict (run rt x input) = none) := by
  constructor
  · rintro ⟨hfilled, hblock⟩
    exact verdict_of_blocked rt hfresh hresponds hfilled hblock
  · intro hnot
    rcases houtcome : (run rt x input).outcome with e | r
    · rw [verdict, houtcome]
      rfl
    · obtain ⟨hfilled, hcases⟩ := blocked_or_verifies rt hfresh hresponds houtcome
      exact absurd ⟨hfilled, hcases.resolve_right h⟩ hnot

end Verdict

section Metadata

variable (tables : UnicodeTables)

/-- Any two answers with this content lead to the same verdict. -/
def ContentDecides (content : String) : Prop :=
  ∀ (rt rt' : Runtime) (x x' : PipelineExecutor) (response response' : ModelResponse),
    rt.tables = tables → rt'.tables = tables →
    Responds x input response → Responds x' input response' →
    response.content = content → response'.content = content →
    verdict (run rt x input) = verdict (run rt' x' input)

/-- The part of the output that shows the content satisfies every criterion. -/
def Covered (content : String) : Prop :=
  Satisfied input tables (contentPart tables content)

instance (content : String) : Decidable (Covered input tables content) :=
  inferInstanceAs (Decidable (Satisfied _ _ _))

/-- Metadata that satisfies no criterion by itself. -/
def emptyMetadata (content : String) : ModelResponse where
  content := content
  modelUsed := ""
  finishReason := ""

/-- Metadata in which every kind of criterion finds what it looks for. -/
def telling (content : String) : ModelResponse where
  content := content
  modelUsed := "test: int"
  finishReason := ""

theorem metadataPart_emptyMetadata (content : String) :
    metadataPart tables (emptyMetadata content) = "'model': '', 'finish_reason': ''\x7d" := by
  have hempty : reprStr tables "" = "''" := reprStr_of_isPlain tables (by decide)
  simp [metadataPart, emptyMetadata, hempty]

theorem metadataPart_telling (content : String) :
    metadataPart tables (telling content) = "'model': 'test: int', 'finish_reason': ''\x7d" := by
  have hempty : reprStr tables "" = "''" := reprStr_of_isPlain tables (by decide)
  have hmodel : reprStr tables "test: int" = "'test: int'" :=
    reprStr_of_isPlain tables (by decide)
  simp [metadataPart, telling, hempty, hmodel]

variable {tables}

theorem finds_rendering_iff (hlower : LowerSplits tables) (kind : VerificationKind)
    (response : ModelResponse) :
    Finds tables kind (rendering tables response) ↔
      Finds tables kind (contentPart tables response.content) ∨
        FindsBehind tables kind (metadataPart tables response) := by
  rw [rendering_eq]
  exact finds_comma_iff hlower kind _ _

variable {input} in
theorem satisfied_of_covered (hlower : LowerSplits tables) {response : ModelResponse}
    (h : Covered input tables response.content) :
    Satisfied input tables (rendering tables response) := by
  intro criterion hcriterion
  exact (finds_rendering_iff hlower _ _).mpr (.inl (h criterion hcriterion))

theorem satisfied_emptyMetadata_iff (hlower : LowerSplits tables) (content : String) :
    Satisfied input tables (rendering tables (emptyMetadata content)) ↔
      Covered input tables content := by
  refine ⟨fun h => ?_, fun h => satisfied_of_covered hlower h⟩
  intro criterion hcriterion
  rcases (finds_rendering_iff hlower _ _).mp (h criterion hcriterion) with hfinds | hbehind
  · exact hfinds
  · rw [metadataPart_emptyMetadata] at hbehind
    cases hkind : criterion.kind with
    | test =>
        simp only [hkind, FindsBehind] at hbehind
        rw [tables.lower_of_all (by decide)] at hbehind
        exact absurd hbehind (by decide)
    | typecheck =>
        simp only [hkind, FindsBehind] at hbehind
        exact absurd hbehind (by decide)
    | lint => trivial
    | diffReview => trivial

theorem satisfied_telling (hlower : LowerSplits tables) (content : String) :
    Satisfied input tables (rendering tables (telling content)) := by
  intro criterion hcriterion
  refine (finds_rendering_iff hlower _ _).mpr (.inr ?_)
  rw [metadataPart_telling]
  cases criterion.kind with
  | test =>
      simp only [FindsBehind]
      rw [tables.lower_of_all (by decide)]
      decide
  | typecheck =>
      simp only [FindsBehind]
      decide
  | lint => trivial
  | diffReview => trivial

/-- The content decides if it never comes to a verification, or if the content
satisfies the criteria by itself; otherwise metadata can do it in its place. -/
theorem contentDecides_iff (hlower : LowerSplits tables) (hfresh : input.driver = {})
    (content : String) :
    ContentDecides input tables content ↔ ¬ Verifies input ∨ Covered input tables content := by
  constructor
  · intro hdecides
    by_cases hverifies : Verifies input
    · right
      let rt : Runtime := { asciiRuntime with tables := tables }
      have hsame := hdecides rt rt (responding (emptyMetadata content))
        (responding (telling content)) _ _ rfl rfl (responds_responding _ _)
        (responds_responding _ _) rfl rfl
      rw [verdict_of_verifies rt hfresh (responds_responding _ _) hverifies,
        verdict_of_verifies rt hfresh (responds_responding _ _) hverifies,
        if_pos (satisfied_telling input hlower content)] at hsame
      by_contra hcovered
      rw [if_neg (mt (satisfied_emptyMetadata_iff input hlower content).mp hcovered)] at hsame
      simp at hsame
    · exact .inl hverifies
  · rintro hcases rt rt' x x' response response' rfl htables hresponds hresponds' hcontent hcontent'
    by_cases hverifies : Verifies input
    · have hcovered := hcases.resolve_left (not_not_intro hverifies)
      have hsatisfied := satisfied_of_covered hlower (hcontent ▸ hcovered)
      have hsatisfied' := satisfied_of_covered hlower (hcontent' ▸ hcovered)
      rw [← htables] at hsatisfied'
      rw [verdict_of_verifies rt hfresh hresponds hverifies,
        verdict_of_verifies rt' hfresh hresponds' hverifies, if_pos hsatisfied,
        if_pos hsatisfied']
    · obtain ⟨hblocked, hcrashed⟩ := verdict_of_not_verifies rt hfresh hresponds hverifies
      obtain ⟨hblocked', hcrashed'⟩ := verdict_of_not_verifies rt' hfresh hresponds' hverifies
      by_cases h : FilledIn input ∧ generateAction input = .block
      · rw [hblocked h, hblocked' h]
      · rw [hcrashed h, hcrashed' h]

theorem lowerSplits_asciiTables : LowerSplits asciiTables where
  lower_comma s t := by
    apply String.toList_inj.mp
    simp [asciiTables]

theorem contentDecides_test :
    ContentDecides plainInput asciiTables "def test_add(): ..." :=
  (contentDecides_iff plainInput lowerSplits_asciiTables rfl _).mpr (.inr (by decide))

/-- The name of the model makes the difference. -/
theorem model_name_decides : ¬ ContentDecides plainInput asciiTables "print(1)" := by
  intro hdecides
  let base : ModelResponse := { content := "print(1)", modelUsed := "base-model" }
  let test : ModelResponse := { content := "print(1)", modelUsed := "test-model" }
  have hsame := hdecides asciiRuntime asciiRuntime (responding base) (responding test) _ _ rfl rfl
    (responds_responding _ _) (responds_responding _ _) rfl rfl
  have hverifies : Verifies plainInput :=
    { filled := filledIn_minimalInput none
      go := by decide
      nameable := by decide }
  have hbase : ¬ Satisfied plainInput asciiRuntime.tables
      (rendering asciiRuntime.tables base) := by
    decide +kernel
  have htest : Satisfied plainInput asciiRuntime.tables
      (rendering asciiRuntime.tables test) := by
    decide +kernel
  rw [verdict_of_verifies asciiRuntime rfl (responds_responding _ _) hverifies,
    verdict_of_verifies asciiRuntime rfl (responds_responding _ _) hverifies, if_neg hbase,
    if_pos htest] at hsame
  exact absurd hsame (by decide)

end Metadata

section Emptiness

/-- The run treats the output as empty: every criterion says so, and the run fails. -/
structure OutputRejected : Prop where
  criteria : ∃ result content, backendResult rt x input (reviewed rt x input) = .ok result ∧
    outputContent rt result = .ok content ∧
    ∀ criterion ∈ input.taskContract.1.successCriteria,
      criterionVerdict rt criterion.kind content = (.failure, "no output produced")
  failed : (run rt x input).session.driver.currentStateId = .failed
  unsuccessful : ∀ r, (run rt x input).outcome = .ok r → r.success = false

/-- No output of a provider is treated as empty, whatever its content is, a blank
one included; the run succeeds if the whole output satisfies the criteria. -/
theorem output_not_rejected (response : ModelResponse) (hresponds : Responds x input response) :
    ¬ OutputRejected rt x input ∧
    (input.driver = {} → Verifies input →
      ((∃ r, (run rt x input).outcome = .ok r ∧ r.success = true) ↔
        Satisfied input rt.tables (rendering rt.tables response))) := by
  constructor
  · rintro ⟨⟨result, content, hresult, hcontent, hcriteria⟩, -, -⟩
    obtain ⟨result', hresult', -, houtput⟩ := exists_generated rt hresponds
    obtain rfl := Except.ok.inj (hresult'.symm.trans hresult)
    obtain ⟨criterion, hcriterion⟩ :=
      List.exists_mem_of_ne_nil _ (TaskContract.wellFormed input.taskContract).successCriteria
    obtain rfl := Except.ok.inj (houtput.symm.trans hcontent)
    have hverdict := criterionVerdict_of_long rt (strip_rendering rt.tables response)
      (length_rendering rt.tables response) criterion.kind
    exact hverdict.2 (hcriteria criterion hcriterion)
  · intro hfresh hverifies
    have hverdict := verdict_of_verifies rt hfresh hresponds hverifies
    rw [verdict] at hverdict
    rcases houtcome : (run rt x input).outcome with e | r
    · rw [houtcome] at hverdict
      split at hverdict <;> simp [Except.toOption] at hverdict
    · rw [houtcome] at hverdict
      simp only [Except.toOption, Option.map_some, Except.ok.injEq, exists_eq_left'] at hverdict ⊢
      split at hverdict
      · rename_i hsatisfied
        simpa [hsatisfied] using (Prod.mk.inj (Option.some.inj hverdict)).2
      · rename_i hsatisfied
        simpa [hsatisfied] using (Prod.mk.inj (Option.some.inj hverdict)).2

theorem output_not_rejected_blank :
    IsBlank " \n" ∧ ¬ OutputRejected asciiRuntime (responding { content := " \n" }) plainInput :=
  ⟨by decide, (output_not_rejected asciiRuntime _ plainInput _ (responds_responding _ _)).1⟩

def lintContract : Accepted TaskContract :=
  build
    { minimalContract.1 with successCriteria := [{ kind := .lint, target := "ruff" }] }
    (by decide)

def lintInput : PipelineInput where
  taskContract := lintContract
  runId := "run-1"

theorem blank_output_succeeds :
    IsBlank "" ∧ Responds (responding {}) lintInput {} ∧
      ∃ r, (run asciiRuntime (responding {}) lintInput).outcome = .ok r ∧ r.success = true := by
  have hsuccess : (run asciiRuntime (responding {}) lintInput).outcome.toOption.map (·.success) =
      some true := by decide +kernel
  obtain ⟨r, hr, hr'⟩ := exists_of_map_toOption hsuccess
  exact ⟨by decide, responds_responding _ _, r, hr, hr'⟩

end Emptiness

end NovaHarness.GeneratedVerdict
