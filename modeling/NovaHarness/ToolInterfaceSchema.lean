import NovaHarness.RecordValidation

namespace NovaHarness.ToolInterfaceSchema

open NovaHarness.Text
open NovaHarness.RecordValidation

inductive ApprovalState where
  | notRequired
  | pending
  | approved
  | rejected
  deriving DecidableEq, Repr

inductive ToolStatus where
  | success
  | error
  | blocked
  deriving DecidableEq, Repr

structure ToolInvocation where
  invocationId : String
  toolName : String
  arguments : Dict
  requestedByTaskId : String
  requestedByAgent : String
  approvalState : ApprovalState := .notRequired
  deriving DecidableEq, Repr

namespace ToolInvocation

def normalized (raw : ToolInvocation) : ToolInvocation :=
  { raw with
    invocationId := strip raw.invocationId
    toolName := strip raw.toolName
    requestedByTaskId := strip raw.requestedByTaskId
    requestedByAgent := strip raw.requestedByAgent }

def validate (raw : ToolInvocation) : Validated ToolInvocation := do
  let invocation ← fields
    (nonBlank "invocation_id" "must not be empty" raw.invocationId ++
      nonBlank "tool_name" "must not be empty" raw.toolName ++
      nonBlank "requested_by_task_id" "must not be empty" raw.requestedByTaskId ++
      nonBlank "requested_by_agent" "must not be empty" raw.requestedByAgent)
    raw.normalized
  require (invocation.approvalState ≠ .approved)
    "invocation cannot start as already approved; set PENDING and approve later"
  return invocation

theorem validate_eq_ok (raw invocation : ToolInvocation) :
    raw.validate = .ok invocation ↔
      (¬ IsBlank raw.invocationId ∧ ¬ IsBlank raw.toolName ∧
        ¬ IsBlank raw.requestedByTaskId ∧ ¬ IsBlank raw.requestedByAgent) ∧
      raw.approvalState ≠ .approved ∧ raw.normalized = invocation := by
  simp only [validate, normalized, bind_eq_ok, fields_eq_ok, require_eq_ok, pure_eq_ok,
    List.append_eq_nil_iff, nonBlank_eq_nil]
  constructor
  · rintro ⟨_, ⟨⟨⟨⟨hid, htool⟩, htask⟩, hagent⟩, rfl⟩, _, happroval, rfl⟩
    exact ⟨⟨hid, htool, htask, hagent⟩, happroval, rfl⟩
  · rintro ⟨⟨hid, htool, htask, hagent⟩, happroval, rfl⟩
    exact ⟨_, ⟨⟨⟨⟨hid, htool⟩, htask⟩, hagent⟩, rfl⟩, (), happroval, rfl⟩

end ToolInvocation

structure ToolResult where
  invocationId : String
  toolName : String
  status : ToolStatus
  output : Option Dict := none
  error : Option String := none
  artifacts : List String := []
  startedAt : Option String := none
  finishedAt : Option String := none
  deriving DecidableEq, Repr

namespace ToolResult

def normalized (raw : ToolResult) : ToolResult :=
  { raw with
    invocationId := strip raw.invocationId
    toolName := strip raw.toolName }

def validate (raw : ToolResult) : Validated ToolResult := do
  let result ← fields
    (nonBlank "invocation_id" "must not be empty" raw.invocationId ++
      nonBlank "tool_name" "must not be empty" raw.toolName)
    raw.normalized
  require (result.status = .success → ¬ (result.output.getD [] = [] ∧ result.artifacts = []))
    "successful result must have output or artifacts"
  require (result.status = .error → result.error.getD "" ≠ "")
    "error status must include an error message"
  require (result.status = .blocked → result.error.getD "" ≠ "")
    "blocked status must include an error message"
  return result

instance : Schema ToolResult := ⟨fun _ => validate⟩

theorem validate_eq_ok (raw result : ToolResult) :
    raw.validate = .ok result ↔
      (¬ IsBlank raw.invocationId ∧ ¬ IsBlank raw.toolName) ∧
      (raw.status = .success → ¬ (raw.output.getD [] = [] ∧ raw.artifacts = [])) ∧
      (raw.status ≠ .success → raw.error.getD "" ≠ "") ∧ raw.normalized = result := by
  simp only [validate, normalized, bind_eq_ok, fields_eq_ok, require_eq_ok, pure_eq_ok,
    List.append_eq_nil_iff, nonBlank_eq_nil]
  constructor
  · rintro ⟨_, ⟨⟨hid, htool⟩, rfl⟩, _, hsuccess, _, herror, _, hblocked, rfl⟩
    refine ⟨⟨hid, htool⟩, hsuccess, fun hstatus => ?_, rfl⟩
    cases hraw : raw.status with
    | success => exact absurd hraw hstatus
    | error => exact herror hraw
    | blocked => exact hblocked hraw
  · rintro ⟨⟨hid, htool⟩, hsuccess, hfailure, rfl⟩
    refine ⟨_, ⟨⟨hid, htool⟩, rfl⟩, (), hsuccess, (), ?_, (), ?_, rfl⟩
    · intro (hstatus : raw.status = .error)
      exact hfailure (by simp [hstatus])
    · intro (hstatus : raw.status = .blocked)
      exact hfailure (by simp [hstatus])

end ToolResult

end NovaHarness.ToolInterfaceSchema
