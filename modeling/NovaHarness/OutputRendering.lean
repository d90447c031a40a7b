import NovaHarness.PipelineOutcome

namespace NovaHarness.OutputRendering

open NovaHarness.Text
open NovaHarness.RecordValidation
open NovaHarness.TaskContractSchema
open NovaHarness.ToolInterfaceSchema
open NovaHarness.TraceSchemas
open NovaHarness.Pipeline
open NovaHarness.PipelineRun
open NovaHarness.PipelineOutcome

section Rendering

variable (tables : UnicodeTables)

/-- A dictionary whose values are strings. -/
def stringDict (entries : List (String × String)) : Dict :=
  entries.map fun entry => (entry.1, .str entry.2)

def stringDictStr (entries : List (String × String)) : String :=
  "\x7b" ++ joinComma (entries.map fun entry =>
    reprStr tables entry.1 ++ ": " ++ reprStr tables entry.2) ++ "\x7d"

theorem dictStr_stringDict (entries : List (String × String)) :
    dictStr tables (stringDict entries) = .ok (stringDictStr tables entries) := by
  have hentry : (fun entry : String × String => entryStr tables (entry.1, .str entry.2)) =
      fun entry => pure (reprStr tables entry.1 ++ ": " ++ reprStr tables entry.2) := by
    funext entry
    rfl
  rw [dictStr, stringDict, List.mapM_map, Function.comp_def, hentry, List.mapM_pure]
  rfl

def responseEntries (response : ModelResponse) : List (String × String) :=
  [("content", response.content), ("model", response.modelUsed),
    ("finish_reason", response.finishReason)]

def generatedOutput (response : ModelResponse) : Dict :=
  stringDict (responseEntries response)

def rendering (response : ModelResponse) : String :=
  stringDictStr tables (responseEntries response)

theorem dictStr_generatedOutput (response : ModelResponse) :
    dictStr tables (generatedOutput response) = .ok (rendering tables response) :=
  dictStr_stringDict tables (responseEntries response)

theorem strip_rendering (response : ModelResponse) :
    strip (rendering tables response) = rendering tables response :=
  strip_braced _

def contentPart (content : String) : String :=
  "\x7b'content': " ++ reprStr tables content

def metadataPart (response : ModelResponse) : String :=
  "'model': " ++ reprStr tables response.modelUsed ++ ", 'finish_reason': " ++
    reprStr tables response.finishReason ++ "\x7d"

theorem rendering_eq (response : ModelResponse) :
    rendering tables response =
      contentPart tables response.content ++ ", " ++ metadataPart tables response := by
  have hcontent : reprStr tables "content" = "'content'" :=
    reprStr_of_isPlain tables (by decide)
  have hmodel : reprStr tables "model" = "'model'" :=
    reprStr_of_isPlain tables (by decide)
  have hfinish : reprStr tables "finish_reason" = "'finish_reason'" :=
    reprStr_of_isPlain tables (by decide)
  apply String.toList_inj.mp
  simp [rendering, stringDictStr, responseEntries, joinComma, contentPart, metadataPart,
    hcontent, hmodel, hfinish, String.intercalate_cons_cons]

theorem length_rendering (response : ModelResponse) :
    20 ≤ (rendering tables response).length := by
  rw [rendering_eq, contentPart, metadataPart]
  simp only [String.length_append]
  have hcontent : "\x7b'content': ".length = 12 := by decide
  have hmodel : "'model': ".length = 9 := by decide
  omega

end Rendering

section Patterns

variable (tables : UnicodeTables)

/-- What a criterion of some kind asks of an output that is long enough. -/
def Finds (kind : VerificationKind) (s : String) : Prop :=
  match kind with
  | .test => ∃ p ∈ testPatterns, contains (tables.lower s) p = true
  | .typecheck => ∃ p ∈ typePatterns, contains s p = true
  | .lint => True
  | .diffReview => True

instance (kind : VerificationKind) (s : String) : Decidable (Finds tables kind s) :=
  match kind with
  | .test => inferInstanceAs (Decidable (∃ p ∈ testPatterns, _))
  | .typecheck => inferInstanceAs (Decidable (∃ p ∈ typePatterns, _))
  | .lint => inferInstanceAs (Decidable True)
  | .diffReview => inferInstanceAs (Decidable True)

/-- The same, of a text that follows a comma and a space. -/
def FindsBehind (kind : VerificationKind) (s : String) : Prop :=
  match kind with
  | .test => ∃ p ∈ testPatterns, contains (" " ++ tables.lower s) p = true
  | .typecheck => ∃ p ∈ typePatterns, contains (" " ++ s) p = true
  | .lint => True
  | .diffReview => True

/-- `str.lower` takes the two sides of a comma and a space by themselves: the only
mapping that looks around, that of a final sigma, does not look past a comma. -/
structure LowerSplits : Prop where
  lower_comma : ∀ s t, tables.lower (s ++ ", " ++ t) = tables.lower s ++ ", " ++ tables.lower t

variable {tables}

theorem finds_comma_iff (hlower : LowerSplits tables) (kind : VerificationKind) (s t : String) :
    Finds tables kind (s ++ ", " ++ t) ↔ Finds tables kind s ∨ FindsBehind tables kind t := by
  have htest : ∀ p ∈ testPatterns, ',' ∉ p.toList := by decide
  have htype : ∀ p ∈ typePatterns, ',' ∉ p.toList := by decide
  have hmem : ∀ {ps : List String}, (∀ p ∈ ps, ',' ∉ p.toList) → ∀ s t : String,
      (∃ p ∈ ps, contains (s ++ ", " ++ t) p = true) ↔
        (∃ p ∈ ps, contains s p = true) ∨ ∃ p ∈ ps, contains (" " ++ t) p = true := by
    intro ps hps s t
    rw [← exists_or]
    refine exists_congr fun p => ?_
    rw [← and_or_left]
    exact and_congr_right fun hp => contains_comma_iff (hps p hp) s t
  cases kind with
  | test =>
      simp only [Finds, FindsBehind, hlower.lower_comma]
      exact hmem htest _ _
  | typecheck => exact hmem htype s t
  | lint => simp [Finds]
  | diffReview => simp [Finds]

end Patterns

section Verdicts

variable (rt : Runtime)

/-- No output of this length is taken for an empty one. -/
theorem criterionVerdict_of_long {s : String} (hstrip : strip s = s) (hlong : 20 ≤ s.length)
    (kind : VerificationKind) :
    ((criterionVerdict rt kind s).1 = .success ↔ Finds rt.tables kind s) ∧
      criterionVerdict rt kind s ≠ (.failure, "no output produced") := by
  have hproduced : ¬ (s = "" ∨ s ∈ ["\x7b\x7d", "\x7b'mock': True\x7d"]) := by
    intro h
    simp only [List.mem_cons, List.not_mem_nil, or_false] at h
    rcases h with rfl | rfl | rfl <;> exact absurd hlong (by decide)
  have hfilter : ∀ (ps : List String) (f : String → Bool),
      ps.filter f ≠ [] ↔ ∃ p ∈ ps, f p = true := by
    intro ps f
    simp [List.filter_eq_nil_iff]
  simp only [criterionVerdict, hstrip, if_neg hproduced]
  cases kind with
  | test =>
      by_cases hfound : testPatterns.filter (fun p => contains (rt.tables.lower s) p) ≠ []
      · simp [hfound, Finds, ← hfilter]
      · simp [hfound, Finds, ← hfilter]
  | lint => simp [Finds, hlong]
  | typecheck =>
      by_cases hfound : typePatterns.filter (fun p => contains s p) ≠ []
      · simp [hfound, Finds, ← hfilter]
      · simp [hfound, Finds, ← hfilter]
  | diffReview => simp [Finds]

variable (input : PipelineInput)

theorem checkCriterion_status {criterion : SuccessCriterion} {content : String}
    {trace : VerificationTrace} (h : checkCriterion rt criterion content = .ok trace) :
    trace.status = (criterionVerdict rt criterion.kind content).1 := by
  simp only [checkCriterion, construct_eq_ok, VerificationTrace.validate, fields_eq_ok] at h
  obtain ⟨-, rfl⟩ := h
  rfl

theorem allPass_iff {criteria : List SuccessCriterion} {content : String}
    {traces : List VerificationTrace}
    (h : criteria.mapM (fun criterion => checkCriterion rt criterion content) = .ok traces) :
    allPass traces = true ↔
      ∀ criterion ∈ criteria, (criterionVerdict rt criterion.kind content).1 = .success := by
  induction criteria generalizing traces with
  | nil =>
      obtain rfl := (pure_eq_ok _ _).mp h
      simp [allPass]
  | cons criterion criteria ih =>
      simp only [List.mapM_cons, bind_eq_ok, pure_eq_ok] at h
      obtain ⟨trace, htrace, rest, hrest, rfl⟩ := h
      have htail := ih hrest
      simp only [allPass, List.all_cons, Bool.and_eq_true, decide_eq_true_eq,
        List.forall_mem_cons] at htail ⊢
      rw [htail, checkCriterion_status rt htrace]

/-- The output satisfies every criterion of the contract. -/
def Satisfied (tables : UnicodeTables) (s : String) : Prop :=
  ∀ criterion ∈ input.taskContract.1.successCriteria, Finds tables criterion.kind s

instance (tables : UnicodeTables) (s : String) : Decidable (Satisfied input tables s) :=
  inferInstanceAs (Decidable (∀ criterion ∈ _, _))

/-- The criteria read what a provider has generated as one text. -/
theorem allPass_generated {result : ToolResult} {traces : List VerificationTrace}
    {response : ModelResponse}
    (houtput : outputContent rt result = .ok (rendering rt.tables response))
    (htraces : criterionTraces rt input result = .ok traces) :
    allPass traces = true ↔ Satisfied input rt.tables (rendering rt.tables response) := by
  rw [criterionTraces, houtput] at htraces
  change input.taskContract.1.successCriteria.mapM _ = _ at htraces
  rw [allPass_iff rt htraces]
  exact forall₂_congr fun criterion _ =>
    (criterionVerdict_of_long rt (strip_rendering _ _) (length_rendering _ _) criterion.kind).1

end Verdicts

end NovaHarness.OutputRendering
