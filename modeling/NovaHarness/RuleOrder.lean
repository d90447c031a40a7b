import NovaHarness.EffectGating

namespace NovaHarness.RuleOrder

open NovaHarness.Text
open NovaHarness.RecordValidation
open NovaHarness.TaskContractSchema
open NovaHarness.ToolInterfaceSchema
open NovaHarness.ApprovalSafetySchema
open NovaHarness.Pipeline
open NovaHarness.PipelineRun
open NovaHarness.PipelinePhases
open NovaHarness.EffectGating

/-- Where all elements agree, the first one says the same in every order. -/
theorem map_head?_eq_of_perm {α β : Type} {l l' : List α} (f : α → β) (hperm : l.Perm l')
    (hagree : ∀ a ∈ l, ∀ b ∈ l, f a = f b) : l.head?.map f = l'.head?.map f := by
  rcases l with _ | ⟨a, as⟩
  · rw [hperm.nil_eq]
  · rcases l' with _ | ⟨b, bs⟩
    · exact absurd hperm.eq_nil (by simp)
    · have hb : b ∈ a :: as := hperm.mem_iff.mpr (by simp)
      exact congrArg some (hagree a (by simp) b hb)

def rulesFor (policy : ApprovalSafetyPolicy) (toolName : String) : List ActionRiskRule :=
  policy.rules.filter (·.actionName = toolName)

theorem chosenAction_eq (policy : ApprovalSafetyPolicy) (toolName : String) :
    chosenAction policy toolName =
      ((rulesFor policy toolName).head?.map (·.safetyAction)).getD .allow := by
  rw [rulesFor, List.head?_filter, chosenAction]
  cases policy.rules.find? _ <;> rfl

/-- The action of the decision that `_make_safety_decision` returns, if it does. -/
def chosen (rt : Runtime) (invocation : ToolInvocation) (policy : ApprovalSafetyPolicy)
    (runId : String) : Option SafetyAction :=
  (makeSafetyDecision rt invocation policy runId).toOption.map (·.safetyAction)

theorem chosen_eq (rt : Runtime) (invocation : ToolInvocation) (policy : ApprovalSafetyPolicy)
    (runId : String) :
    chosen rt invocation policy runId =
      if ¬ IsBlank runId ∧ ¬ IsBlank invocation.toolName then
        some (chosenAction policy invocation.toolName)
      else none := by
  have hiff := makeSafetyDecision_eq_ok rt invocation policy runId
  unfold chosen
  rcases hmake : makeSafetyDecision rt invocation policy runId with e | d
  · rw [if_neg]
    · rfl
    · intro htexts
      have hok := (hiff _).mpr ⟨htexts, rfl⟩
      rw [hmake] at hok
      simp at hok
  · obtain ⟨htexts, rfl⟩ := (hiff d).mp hmake
    rw [if_pos htexts]
    exact congrArg some (decisionParts_safetyAction rt invocation.toolName policy runId)

theorem first_rule_decides (rt : Runtime) (x : PipelineExecutor) (input : PipelineInput)
    (policy policy' : Accepted ApprovalSafetyPolicy) (invocation : ToolInvocation)
    (runId : String) :
    (∀ rule, input.safetyPolicy = some policy →
      policy.1.rules.find? (·.actionName = x.toolName) = some rule →
      rule.safetyAction = .block → calls (run rt x input).session = []) ∧
    (policy.1.rules.Perm policy'.1.rules →
      (rulesFor policy.1 invocation.toolName = rulesFor policy'.1 invocation.toolName ∨
        ∀ r ∈ rulesFor policy.1 invocation.toolName,
          ∀ r' ∈ rulesFor policy.1 invocation.toolName, r.safetyAction = r'.safetyAction) →
      chosen rt invocation policy.1 runId = chosen rt invocation policy'.1 runId) := by
  constructor
  · intro rule hpolicy hfirst hblock
    apply calls_eq_nil
    rintro ⟨-, hgo, -⟩
    apply hgo
    simp [action, hpolicy, chosenAction, hfirst, hblock]
  · intro hperm hrules
    have hsame : chosenAction policy.1 invocation.toolName =
        chosenAction policy'.1 invocation.toolName := by
      rw [chosenAction_eq, chosenAction_eq]
      rcases hrules with heq | hagree
      · rw [heq]
      · have hrulesFor : (rulesFor policy.1 invocation.toolName).Perm
            (rulesFor policy'.1 invocation.toolName) := hperm.filter _
        rw [map_head?_eq_of_perm (·.safetyAction) hrulesFor hagree]
    rw [chosen_eq, chosen_eq, hsame]

def blockTwice : Accepted ApprovalSafetyPolicy :=
  build (mockToolPolicy [("first", .block), ("second", .block)]) (by decide)

def blockTwiceSwapped : Accepted ApprovalSafetyPolicy :=
  build (mockToolPolicy [("second", .block), ("first", .block)]) (by decide)

def mockInvocation : ToolInvocation :=
  requested asciiRuntime {} (minimalInput (some blockTwice))

theorem first_rule_decides_blockTwice :
    calls (run asciiRuntime {} (minimalInput (some blockTwice))).session = [] ∧
      chosen asciiRuntime mockInvocation blockTwice.1 "run-1" =
        chosen asciiRuntime mockInvocation blockTwiceSwapped.1 "run-1" := by
  obtain ⟨hcalls, hchosen⟩ := first_rule_decides asciiRuntime {} (minimalInput (some blockTwice))
    blockTwice blockTwiceSwapped mockInvocation "run-1"
  exact ⟨hcalls _ rfl rfl rfl, hchosen (by decide) (.inr (by decide))⟩

def allowThenBlock : Accepted ApprovalSafetyPolicy :=
  build (mockToolPolicy [("allowing", .allow), ("blocking", .block)]) (by decide)

def blockThenAllow : Accepted ApprovalSafetyPolicy :=
  build (mockToolPolicy [("blocking", .block), ("allowing", .allow)]) (by decide)

theorem blockingRule_comes_too_late :
    (∃ rule ∈ allowThenBlock.1.rules,
      rule.actionName = ({} : PipelineExecutor).toolName ∧ rule.safetyAction = .block) ∧
    calls (run asciiRuntime {} (minimalInput (some allowThenBlock))).session ≠ [] ∧
    allowThenBlock.1.rules.Perm blockThenAllow.1.rules ∧
    chosen asciiRuntime mockInvocation allowThenBlock.1 "run-1" ≠
      chosen asciiRuntime mockInvocation blockThenAllow.1 "run-1" := by
  refine ⟨by decide, ?_, by decide, ?_⟩
  · obtain ⟨t, hprepared, -⟩ :=
      exists_prepared asciiRuntime {} (minimalInput (some allowThenBlock)) rfl
    rw [calls_of_prepared asciiRuntime {} _ (filledIn_minimalInput _) (by decide) hprepared]
    simp
  · rw [chosen_eq, chosen_eq]
    decide

end NovaHarness.RuleOrder
