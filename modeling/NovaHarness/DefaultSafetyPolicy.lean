import NovaHarness.RunCourses

namespace NovaHarness.DefaultSafetyPolicy

open NovaHarness.Text
open NovaHarness.RecordValidation
open NovaHarness.OrchestrationMachine
open NovaHarness.ApprovalSafetySchema
open NovaHarness.TraceSchemas
open NovaHarness.Pipeline
open NovaHarness.PipelineRun
open NovaHarness.PipelinePhases
open NovaHarness.PipelineOutcome
open NovaHarness.RunCourses

section Policy

def humanApproval : ApprovalRequirement where
  requireHuman := true
  reasonRequired := true

def v1Rules : List ActionRiskRule :=
  [{ ruleId := "read-workspace-files"
     actionName := "read_file"
     resourceType := .filesystem
     riskLevel := .low
     safetyAction := .allow
     rationale := "Reading workspace files is safe and scoped to project directory."
     allowedPathPrefixes := ["/workspace"] },
   { ruleId := "search-list-files"
     actionName := "search_files"
     resourceType := .filesystem
     riskLevel := .low
     safetyAction := .allow
     rationale := "Searching and listing files is read-only and low risk."
     allowedPathPrefixes := ["/workspace"] },
   { ruleId := "run-tests-lint-typecheck"
     actionName := "run_command"
     resourceType := .process
     riskLevel := .low
     safetyAction := .allow
     rationale := "Running tests, lint, and typecheck inside sandbox is safe." },
   { ruleId := "edit-workspace-files"
     actionName := "edit_file"
     resourceType := .filesystem
     riskLevel := .medium
     safetyAction := .requireApproval
     rationale := "Editing files can introduce errors or overwrite work."
     allowedPathPrefixes := ["/workspace"]
     approvalRequirement := some humanApproval },
   { ruleId := "delete-files"
     actionName := "delete_file"
     resourceType := .filesystem
     riskLevel := .high
     safetyAction := .requireApproval
     rationale := "File deletion is irreversible and high risk."
     allowedPathPrefixes := ["/workspace"]
     approvalRequirement := some humanApproval },
   { ruleId := "access-secrets"
     actionName := "read_secret"
     resourceType := .secret
     riskLevel := .critical
     safetyAction := .requireApproval
     rationale := "Secrets access can leak credentials and tokens."
     allowedSecretNames := ["api_key", "token", "password"]
     approvalRequirement := some { humanApproval with approverRole := some "security_lead" } },
   { ruleId := "arbitrary-network"
     actionName := "network_request"
     resourceType := .network
     riskLevel := .high
     safetyAction := .block
     rationale := "Network requests to arbitrary hosts are blocked for safety." },
   { ruleId := "allowlisted-docs-network"
     actionName := "network_request"
     resourceType := .network
     riskLevel := .medium
     safetyAction := .allow
     rationale := "Network requests to allowlisted documentation hosts are permitted."
     allowedHosts := ["docs.python.org", "pypi.org", "npmjs.com"] },
   { ruleId := "deployment-changes"
     actionName := "deploy"
     resourceType := .externalSideEffect
     riskLevel := .critical
     safetyAction := .requireApproval
     rationale := "Deployments affect production and are irreversible."
     approvalRequirement := some
       { humanApproval with
         approverRole := some "deployment_lead"
         expiresInSeconds := some 300 } },
   { ruleId := "credential-file-access"
     actionName := "read_file"
     resourceType := .filesystem
     riskLevel := .critical
     safetyAction := .block
     rationale := "Access to credential files is blocked entirely."
     allowedPathPrefixes := ["/workspace/.env", "/workspace/credentials"] }]

/-- `v1_default_safety_policy`, before its checks. -/
def v1Parts : ApprovalSafetyPolicy where
  policyId := "approval-safety-v1"
  rules := v1Rules

theorem v1Parts_validate : v1Parts.validate = .ok v1Parts := by
  decide +kernel

def v1DefaultSafetyPolicy : Accepted ApprovalSafetyPolicy :=
  ⟨v1Parts, asciiTables, v1Parts, v1Parts_validate⟩

theorem v1DefaultSafetyPolicy_eq : v1DefaultSafetyPolicy.1 = v1Parts :=
  rfl

/-- Of two rules for one action the second has no say: documentation hosts are
blocked and credential files readable, whatever their own rules say. -/
example : chosenAction v1DefaultSafetyPolicy.1 "network_request" = .block ∧
    chosenAction v1DefaultSafetyPolicy.1 "read_file" = .allow := by
  decide +kernel

end Policy

section Influence

variable (rt : Runtime) (x : PipelineExecutor) (input : PipelineInput)
  (policy : Accepted ApprovalSafetyPolicy)

def ungated : PipelineInput :=
  { input with safetyPolicy := none }

def gated : PipelineInput :=
  { input with safetyPolicy := some policy }

theorem action_gated_ne_allow_iff :
    action x (gated input policy) ≠ .allow ↔
      ∃ rule, firstRule policy.1 x.toolName = some rule ∧ rule.safetyAction ≠ .allow := by
  change chosenAction policy.1 x.toolName ≠ .allow ↔ _
  rw [chosenAction, firstRule]
  cases policy.1.rules.find? (·.actionName = x.toolName) with
  | none => simp
  | some rule => simp

theorem action_ungated : action x (ungated input) = .allow :=
  action_of_noPolicy rfl

theorem reviewKind_ungated :
    reviewKind rt x (ungated input) = { action := .allow, step := (.policyCheck, .skipped) } := by
  rw [reviewKind, action_ungated]
  rfl

/-- What an allowing policy changes in the trail of a run: its check is recorded
as passed and not as skipped. -/
def checked (trail : Trail) : Trail :=
  { trail with
    steps := trail.steps.map fun step =>
      if step = (.policyCheck, .skipped) then (.policyCheck, .success) else step }

theorem trail_checked (c : Course) :
    c.trail { action := .allow, step := (.policyCheck, .success) } =
      checked (c.trail { action := .allow, step := (.policyCheck, .skipped) }) := by
  cases c <;> rfl

theorem events_checked (trail : Trail) : (checked trail).events = trail.events := rfl

/-- The event of the review comes fifth, if a run gets that far. -/
theorem events_review {c : Course} (hassembled : c ≠ .unassembled) (hrequested : c ≠ .unrequested)
    (k : ReviewKind) : (c.trail k).events[4]? = k.events[4]? := by
  have hevents : ∃ more, (c.trail k).events = k.events ++ more := by
    cases c with
    | unassembled => exact absurd rfl hassembled
    | unrequested => exact absurd rfl hrequested
    | blocked | crashed => exact ⟨[], (List.append_nil _).symm⟩
    | toolFailed | unverified | rejected | accepted => exact ⟨_, rfl⟩
  obtain ⟨more, hmore⟩ := hevents
  have hroute : ∀ a : SafetyAction, 4 < ((route a).map (·.1)).length := by
    intro a
    cases a <;> decide
  have hlong : 4 < k.events.length := hroute k.action
  rw [hmore, List.getElem?_append_left hlong]

theorem event_review_ne {k k' : ReviewKind} (hk : k.action ≠ .allow) (hk' : k'.action = .allow) :
    k.events[4]? ≠ k'.events[4]? := by
  obtain ⟨a, step⟩ := k
  obtain ⟨a', step'⟩ := k'
  obtain rfl : a' = .allow := hk'
  cases a with
  | allow => exact absurd rfl hk
  | requireApproval => exact fun h => by cases h
  | block => exact fun h => by cases h

theorem course_ne_of_filledIn (hfilled : FilledIn input) :
    course rt x input ≠ .unassembled ∧ course rt x input ≠ .unrequested := by
  obtain ⟨hassembles, hmodel⟩ := (filledIn_iff input).mp hfilled
  rw [course, if_neg (not_not_intro hassembles), if_neg hmodel]
  split
  · decide
  · split
    · decide
    · rw [courseAfter]
      split
      · split
        · split <;> decide
        · decide
      · decide

theorem course_of_not_filledIn (hfilled : ¬ FilledIn input) :
    course rt x input = if Assembles input then .unrequested else .unassembled := by
  rw [filledIn_iff, not_and_or, not_not] at hfilled
  rw [course]
  by_cases hassembles : Assembles input
  · rw [if_neg (not_not_intro hassembles),
      if_pos (hfilled.resolve_left (not_not_intro hassembles)), if_pos hassembles]
  · rw [if_pos hassembles, if_neg hassembles]

variable {x input policy}

/-- A run that is not held up takes the decisions it would take without a policy. -/
theorem course_gated (hallow : action x (gated input policy) = .allow) :
    course rt x (gated input policy) = course rt x (ungated input) := by
  have hreviewed : reviewed rt x (gated input policy) = reviewed rt x (ungated input) := by
    rw [reviewed, reviewed, hallow, action_ungated]
    rfl
  have hbackend : backendResult rt x (gated input policy) = backendResult rt x (ungated input) :=
    rfl
  rw [course, course, hallow, action_ungated, hreviewed, hbackend]
  rfl

theorem reviewKind_gated (hallow : action x (gated input policy) = .allow) :
    reviewKind rt x (gated input policy) =
      { action := .allow, step := (.policyCheck, .success) } := by
  rw [reviewKind, reviewStep_of_policy rt x (gated input policy) rfl, hallow]
  rfl

theorem trail_gated_of_allow (hfresh : input.driver = {})
    (hallow : action x (gated input policy) = .allow) :
    trail (run rt x (gated input policy)).session =
        checked (trail (run rt x (ungated input)).session) ∧
      (run rt x (gated input policy)).outcome.toOption.map (·.success) =
        (run rt x (ungated input)).outcome.toOption.map (·.success) := by
  obtain ⟨htrail, hsuccess⟩ := took_course rt x (gated input policy) hfresh
  obtain ⟨htrail', hsuccess'⟩ := took_course rt x (ungated input) hfresh
  constructor
  · rw [htrail, htrail', reviewKind_gated rt hallow, reviewKind_ungated, course_gated rt hallow,
      trail_checked]
  · rw [hsuccess, hsuccess', course_gated rt hallow]

theorem trail_gated_of_stopped (hfresh : input.driver = {}) (hfilled : ¬ FilledIn input) :
    trail (run rt x (gated input policy)).session =
        checked (trail (run rt x (ungated input)).session) ∧
      (run rt x (gated input policy)).outcome.toOption.map (·.success) =
        (run rt x (ungated input)).outcome.toOption.map (·.success) := by
  have hgated : ¬ FilledIn (gated input policy) :=
    fun h => hfilled ⟨h.taskId, h.runId, h.userRequest, h.modelName⟩
  have hungated : ¬ FilledIn (ungated input) :=
    fun h => hfilled ⟨h.taskId, h.runId, h.userRequest, h.modelName⟩
  have hassembles : Assembles (gated input policy) ↔ Assembles (ungated input) := Iff.rfl
  obtain ⟨htrail, hsuccess⟩ := took_course rt x (gated input policy) hfresh
  obtain ⟨htrail', hsuccess'⟩ := took_course rt x (ungated input) hfresh
  rw [htrail, htrail', hsuccess, hsuccess', course_of_not_filledIn rt x _ hgated,
    course_of_not_filledIn rt x _ hungated]
  by_cases h : Assembles (ungated input)
  · rw [if_pos (hassembles.mpr h), if_pos h]
    exact ⟨rfl, rfl⟩
  · rw [if_neg (mt hassembles.mp h), if_neg h]
    exact ⟨rfl, rfl⟩

theorem trail_gated_of_held (hfresh : input.driver = {}) (hfilled : FilledIn input)
    (haction : action x (gated input policy) ≠ .allow) :
    trail (run rt x (gated input policy)).session ≠
      checked (trail (run rt x (ungated input)).session) := by
  have hgated : FilledIn (gated input policy) :=
    ⟨hfilled.taskId, hfilled.runId, hfilled.userRequest, hfilled.modelName⟩
  have hungated : FilledIn (ungated input) :=
    ⟨hfilled.taskId, hfilled.runId, hfilled.userRequest, hfilled.modelName⟩
  obtain ⟨hassembled, hrequested⟩ := course_ne_of_filledIn rt x _ hgated
  obtain ⟨hassembled', hrequested'⟩ := course_ne_of_filledIn rt x _ hungated
  intro hsame
  have hfifth : (trail (run rt x (gated input policy)).session).events[4]? =
      (trail (run rt x (ungated input)).session).events[4]? := by
    rw [hsame, events_checked]
  rw [(took_course rt x (gated input policy) hfresh).1,
    (took_course rt x (ungated input) hfresh).1, events_review hassembled hrequested,
    events_review hassembled' hrequested'] at hfifth
  exact event_review_ne haction (action_ungated x input) hfifth

/-- A policy makes a difference to the trail of a run on a fresh driver, the record of
its check apart, exactly when the first of its rules for the tool does not allow it and
the run gets as far as to ask; where it makes none, the success is the same too. -/
theorem policy_matters_iff (rt : Runtime) (x : PipelineExecutor) (input : PipelineInput)
    (policy : Accepted ApprovalSafetyPolicy) (hfresh : input.driver = {}) :
    (trail (run rt x { input with safetyPolicy := some policy }).session ≠
        checked (trail (run rt x { input with safetyPolicy := none }).session) ↔
      FilledIn input ∧
        ∃ rule, firstRule policy.1 x.toolName = some rule ∧ rule.safetyAction ≠ .allow) ∧
    (trail (run rt x { input with safetyPolicy := some policy }).session =
        checked (trail (run rt x { input with safetyPolicy := none }).session) →
      (run rt x { input with safetyPolicy := some policy }).outcome.toOption.map (·.success) =
        (run rt x { input with safetyPolicy := none }).outcome.toOption.map (·.success)) := by
  change (trail (run rt x (gated input policy)).session ≠
      checked (trail (run rt x (ungated input)).session) ↔ _) ∧
    (trail (run rt x (gated input policy)).session =
      checked (trail (run rt x (ungated input)).session) →
    (run rt x (gated input policy)).outcome.toOption.map (·.success) =
      (run rt x (ungated input)).outcome.toOption.map (·.success))
  rw [← action_gated_ne_allow_iff x input policy]
  refine ⟨⟨fun hdiffers => ⟨?_, ?_⟩, ?_⟩, fun hsame => ?_⟩
  · by_contra hfilled
    exact hdiffers (trail_gated_of_stopped rt hfresh hfilled).1
  · intro hallow
    exact hdiffers (trail_gated_of_allow rt hfresh hallow).1
  · rintro ⟨hfilled, haction⟩
    exact trail_gated_of_held rt hfresh hfilled haction
  · by_cases hfilled : FilledIn input
    · have hallow : action x (gated input policy) = .allow := by
        by_contra haction
        exact trail_gated_of_held rt hfresh hfilled haction hsame
      exact (trail_gated_of_allow rt hfresh hallow).2
    · exact (trail_gated_of_stopped rt hfresh hfilled).2

/-- No executor asks for a tool the default policy has a rule for. -/
theorem firstRule_v1 (x : PipelineExecutor) :
    firstRule v1DefaultSafetyPolicy.1 x.toolName = none := by
  rw [firstRule, v1DefaultSafetyPolicy_eq, PipelineExecutor.toolName]
  cases x.modelProvider.isSome <;> decide +kernel

theorem policy_matters_iff_v1 :
    trail (run asciiRuntime {} (minimalInput (some v1DefaultSafetyPolicy))).session =
        checked (trail (run asciiRuntime {} (minimalInput none)).session) ∧
      (run asciiRuntime {} (minimalInput (some v1DefaultSafetyPolicy))).outcome.toOption.map
          (·.success) =
        (run asciiRuntime {} (minimalInput none)).outcome.toOption.map (·.success) := by
  obtain ⟨hmatters, hsuccess⟩ := policy_matters_iff asciiRuntime {} (minimalInput none)
    v1DefaultSafetyPolicy rfl
  have hsame : trail (run asciiRuntime {} (minimalInput (some v1DefaultSafetyPolicy))).session =
      checked (trail (run asciiRuntime {} (minimalInput none)).session) := by
    by_contra hdiffers
    obtain ⟨-, rule, hrule, -⟩ := hmatters.mp hdiffers
    rw [firstRule_v1] at hrule
    simp at hrule
  exact ⟨hsame, hsuccess hsame⟩

end Influence

end NovaHarness.DefaultSafetyPolicy
