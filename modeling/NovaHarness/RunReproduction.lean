import NovaHarness.RunCourses

namespace NovaHarness.RunReproduction

open NovaHarness.Text
open NovaHarness.RecordValidation
open NovaHarness.ToolInterfaceSchema
open NovaHarness.TraceSchemas
open NovaHarness.Pipeline
open NovaHarness.PipelineRun
open NovaHarness.PipelinePhases
open NovaHarness.PipelineOutcome
open NovaHarness.RunCompletion
open NovaHarness.RunCourses
open NovaHarness.OneVerdict

section Gists

/-- What a run goes by in an answer: whether there is one, its status and its
output. -/
def gist {ε : Type} (answer : Except ε ToolResult) : Option (ToolStatus × Option Dict) :=
  answer.toOption.map fun result => (result.status, result.output)

/-- The executor may look at all of an invocation but its id. -/
def IgnoresIds (execute : ToolExecutor) : Prop :=
  ∀ invocation id, gist ((execute { invocation with invocationId := id }).map (·.1)) =
    gist ((execute invocation).map (·.1))

theorem gist_executed {ε ε' : Type} (f : ε → ε') (answer : Except ε (Accepted ToolResult)) :
    gist ((answer.mapError f).map (·.1)) = gist (answer.map (·.1)) := by
  cases answer <;> rfl

/-- The same result under two ids and at two times. -/
structure Redated (raw raw' : ToolResult) : Prop where
  ids : ¬ IsBlank raw.invocationId ∧ ¬ IsBlank raw.toolName
  ids' : ¬ IsBlank raw'.invocationId ∧ ¬ IsBlank raw'.toolName
  status : raw'.status = raw.status
  output : raw'.output = raw.output
  artifacts : raw'.artifacts = raw.artifacts
  error : raw'.error = raw.error

theorem Redated.gist_construct {raw raw' : ToolResult} (h : Redated raw raw') :
    gist (construct "ToolResult" raw'.validate) = gist (construct "ToolResult" raw.validate) := by
  have haccepted : ∀ result, raw.validate = .ok result → raw'.validate = .ok raw'.normalized := by
    intro result hresult
    obtain ⟨-, hsuccess, hfailure, -⟩ := (ToolResult.validate_eq_ok _ _).mp hresult
    rw [← h.status, ← h.output, ← h.artifacts] at hsuccess
    rw [← h.status, ← h.error] at hfailure
    exact (ToolResult.validate_eq_ok _ _).mpr ⟨h.ids', hsuccess, hfailure, rfl⟩
  have hrejected : ∀ e, raw.validate = .error e → ∃ e', raw'.validate = .error e' := by
    intro e he
    rcases hraw' : raw'.validate with e' | result'
    · exact ⟨e', rfl⟩
    · obtain ⟨-, hsuccess, hfailure, -⟩ := (ToolResult.validate_eq_ok _ _).mp hraw'
      rw [h.status, h.output, h.artifacts] at hsuccess
      rw [h.status, h.error] at hfailure
      have hok := (ToolResult.validate_eq_ok raw _).mpr ⟨h.ids, hsuccess, hfailure, rfl⟩
      rw [hok] at he
      simp at he
  rcases hraw : raw.validate with e | result
  · obtain ⟨e', he'⟩ := hrejected e hraw
    rw [he']
    rfl
  · obtain ⟨-, -, -, rfl⟩ := (ToolResult.validate_eq_ok _ _).mp hraw
    rw [haccepted _ hraw]
    change some (raw'.status, raw'.output) = some (raw.status, raw.output)
    rw [h.status, h.output]

end Gists

variable (rt rt' : Runtime) (x : PipelineExecutor) (input : PipelineInput)

section Answers

theorem reviewed_redated :
    reviewed rt' x input =
      { reviewed rt x input with invocationId := (reviewed rt' x input).invocationId } :=
  rfl

theorem gist_failedResult (e : BackendError) :
    gist (failedResult rt' (reviewed rt' x input) (.backend e)) =
      gist (failedResult rt (reviewed rt x input) (.backend e)) := by
  unfold failedResult
  split
  · apply Redated.gist_construct
    exact ⟨not_isBlank_reviewed rt x input, not_isBlank_reviewed rt' x input, rfl, rfl, rfl, rfl⟩
  · rfl

theorem generateResult_eq_construct {provider : ModelProvider} {messages : List ModelMessage}
    {response : ModelResponse} (h : provider.generate messages = .ok response)
    (invocation : ToolInvocation) :
    generateResult rt provider messages invocation =
      construct "ToolResult" (ToolResult.validate
        { invocationId := invocation.invocationId
          toolName := invocation.toolName
          status := .success
          output := some [("content", .str response.content), ("model", .str response.modelUsed),
            ("finish_reason", .str response.finishReason)]
          startedAt := some (rt.now (.stepStarted 2))
          finishedAt := some (rt.now .toolFinished) }) := by
  rw [generateResult, h]
  rfl

theorem gist_generateResult {provider : ModelProvider} {messages : List ModelMessage}
    {response : ModelResponse} (h : provider.generate messages = .ok response) :
    gist (generateResult rt' provider messages (reviewed rt' x input)) =
      gist (generateResult rt provider messages (reviewed rt x input)) := by
  rw [generateResult_eq_construct rt h, generateResult_eq_construct rt' h]
  apply Redated.gist_construct
  exact ⟨not_isBlank_reviewed rt x input, not_isBlank_reviewed rt' x input, rfl, rfl, rfl, rfl⟩

theorem gist_providerResult (provider : ModelProvider) (messages : List ModelMessage) :
    gist (providerResult rt' provider messages (reviewed rt' x input)) =
      gist (providerResult rt provider messages (reviewed rt x input)) := by
  unfold providerResult
  rcases hanswer : provider.generate messages with e | response
  · rw [generateResult_of_error rt hanswer, generateResult_of_error rt' hanswer]
    exact gist_failedResult rt rt' x input e
  · have hgist := gist_generateResult rt rt' x input hanswer
    obtain ⟨result, hresult, -⟩ := generateResult_of_ok rt x input hanswer
    obtain ⟨result', hresult', -⟩ := generateResult_of_ok rt' x input hanswer
    rw [hresult, hresult'] at hgist ⊢
    exact hgist

theorem gist_backendResult (hignores : ∀ execute ∈ x.toolExecutor, IgnoresIds execute) :
    gist (backendResult rt' x input (reviewed rt' x input)) =
      gist (backendResult rt x input (reviewed rt x input)) := by
  unfold backendResult
  split
  · exact gist_providerResult rt rt' x input _ _
  · unfold executorResult
    split
    · rename_i execute hexecutor
      rw [reviewed_redated rt rt' x input, gist_executed, gist_executed]
      exact hignores execute hexecutor _ _
    · apply Redated.gist_construct
      exact ⟨not_isBlank_reviewed rt x input, not_isBlank_reviewed rt' x input, rfl, rfl, rfl, rfl⟩

end Answers

section Runs

variable {rt rt' x input} (htables : rt'.tables = rt.tables)

include htables

theorem checkCriterion_congr : checkCriterion rt' = checkCriterion rt := by
  funext criterion content
  simp only [checkCriterion, criterionVerdict, htables]

theorem courseAfter_congr {result result' : ToolResult} (hstatus : result'.status = result.status)
    (houtput : result'.output = result.output) :
    courseAfter rt' input result' = courseAfter rt input result := by
  simp only [courseAfter, criterionTraces, outputContent, checkCriterion_congr htables, hstatus,
    houtput, htables]

theorem course_congr (hignores : ∀ execute ∈ x.toolExecutor, IgnoresIds execute) :
    course rt' x input = course rt x input := by
  have hgist := gist_backendResult rt rt' x input hignores
  rw [course, course]
  generalize backendResult rt x input (reviewed rt x input) = answer at hgist ⊢
  generalize backendResult rt' x input (reviewed rt' x input) = answer' at hgist ⊢
  rcases answer with e | result
  · rcases answer' with e' | result'
    · rfl
    · simp [gist, Except.toOption] at hgist
  · rcases answer' with e' | result'
    · simp [gist, Except.toOption] at hgist
    · simp only [gist, Except.toOption, Option.map_some, Option.some.injEq, Prod.mk.injEq] at hgist
      simp only [courseAfter_congr htables hgist.1 hgist.2]

omit htables in
theorem reviewKind_congr : reviewKind rt' x input = reviewKind rt x input := by
  rw [reviewKind, reviewKind]
  rcases hpolicy : input.safetyPolicy with _ | policy
  · simp only [reviewStep, hpolicy]
    rfl
  · rw [reviewStep_of_policy rt x input hpolicy, reviewStep_of_policy rt' x input hpolicy]
    cases action x input <;> rfl

/-- Runs of one input can be reproduced: at another time and with other fresh ids
a run takes the same course, if its executor does not go by the ids. -/
theorem clock_and_ids_immaterial (hfresh : input.driver = {})
    (hignores : ∀ execute ∈ x.toolExecutor, IgnoresIds execute) :
    trail (run rt' x input).session = trail (run rt x input).session ∧
      (run rt' x input).outcome.toOption.map (·.success) =
        (run rt x input).outcome.toOption.map (·.success) := by
  obtain ⟨htrail, hsuccess⟩ := took_course rt x input hfresh
  obtain ⟨htrail', hsuccess'⟩ := took_course rt' x input hfresh
  rw [htrail, htrail', hsuccess, hsuccess', course_congr htables hignores, reviewKind_congr]
  exact ⟨rfl, rfl⟩

end Runs

/-- A clock that shows other times, and other ids. -/
def laterRuntime : Runtime :=
  { asciiRuntime with
    now := fun _ => "2031-07-01T12:00:00+00:00"
    now_ne_empty := fun _ => by decide
    uuidHex := fun _ => "89abcdef" }

theorem clock_and_ids_immaterial_laterRuntime :
    trail (run laterRuntime answering plainInput).session =
      trail (run asciiRuntime answering plainInput).session := by
  have htables : laterRuntime.tables = asciiRuntime.tables := rfl
  have hfresh : plainInput.driver = {} := rfl
  have hignores : ∀ execute ∈ answering.toolExecutor, IgnoresIds execute := by
    intro execute hexecute
    obtain rfl := Option.mem_some_iff.mp hexecute
    intro invocation id
    rfl
  exact (clock_and_ids_immaterial htables hfresh hignores).1

end NovaHarness.RunReproduction
