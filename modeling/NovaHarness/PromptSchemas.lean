import NovaHarness.RecordValidation

/-!
The records of context delivery and of prompt assembly.  Records nested in them
arrive constructed, so only the fields of the outer record are checked.
-/

namespace NovaHarness.PromptSchemas

open NovaHarness.Text
open NovaHarness.RecordValidation

section ContextDelivery

inductive ContentType where
  | fileSnippet
  | errorLog
  | testFailure
  | docSnippet
  | repoMap
  | commandHint
  deriving DecidableEq

structure DeliveryItem where
  itemId : String
  contentType : ContentType
  title : String
  reason : String
  content : String
  priority : Int := 1
  deriving DecidableEq

def DeliveryItem.validate (raw : DeliveryItem) : Validated DeliveryItem :=
  fields
    (nonBlank "title" "must not be empty" raw.title ++
      nonBlank "reason" "must not be empty" raw.reason ++
      nonBlank "content" "must not be empty" raw.content ++
      check "priority" "priority must be between 1 and 5"
        (1 ≤ raw.priority ∧ raw.priority ≤ 5))
    { raw with
      title := strip raw.title
      reason := strip raw.reason
      content := strip raw.content }

structure RepoSnapshot where
  repoRoot : String
  topLevelPaths : List String := []
  primaryLanguage : Option String := none
  deriving DecidableEq

def RepoSnapshot.validate (raw : RepoSnapshot) : Validated RepoSnapshot :=
  fields (nonBlank "repo_root" "repo_root must not be empty" raw.repoRoot)
    { raw with repoRoot := strip raw.repoRoot }

structure ContextDeliveryBundle where
  taskId : String
  taskBrief : String
  repoSnapshot : RepoSnapshot
  selectedFiles : List DeliveryItem := []
  deriving DecidableEq

def ContextDeliveryBundle.validate (raw : ContextDeliveryBundle) :
    Validated ContextDeliveryBundle :=
  fields
    (nonBlank "task_id" "must not be empty" raw.taskId ++
      nonBlank "task_brief" "must not be empty" raw.taskBrief)
    { raw with
      taskId := strip raw.taskId
      taskBrief := strip raw.taskBrief }

end ContextDelivery

section PromptAssembly

inductive InstructionLayerType where
  | system
  | global
  | repository
  | task
  deriving DecidableEq

inductive ContextBlockType where
  | file
  | failure
  | doc
  | summary
  deriving DecidableEq

inductive MessageRole where
  | system
  | user
  | assistant
  deriving DecidableEq

def MessageRole.value : MessageRole → String
  | .system => "system"
  | .user => "user"
  | .assistant => "assistant"

structure InstructionLayer where
  layerId : String
  layerType : InstructionLayerType
  title : String
  content : String
  priority : Int := 0
  deriving DecidableEq

def InstructionLayer.validate (raw : InstructionLayer) : Validated InstructionLayer :=
  fields
    (nonBlank "layer_id" "layer_id must not be empty" raw.layerId ++
      nonBlank "title" "title must not be empty" raw.title ++
      nonBlank "content" "content must not be empty" raw.content)
    { raw with
      layerId := strip raw.layerId
      title := strip raw.title
      content := strip raw.content }

structure ContextBlock where
  blockId : String
  blockType : ContextBlockType
  title : String
  content : String
  priority : Int := 0
  deriving DecidableEq

def ContextBlock.validate (raw : ContextBlock) : Validated ContextBlock :=
  fields
    (nonBlank "block_id" "block_id must not be empty" raw.blockId ++
      nonBlank "title" "title must not be empty" raw.title ++
      nonBlank "content" "content must not be empty" raw.content)
    { raw with
      blockId := strip raw.blockId
      title := strip raw.title
      content := strip raw.content }

structure VerificationBlock where
  summary : Option String := none
  requiredChecks : List String := []
  doneDefinition : List String := []
  deriving DecidableEq

def VerificationBlock.validate (raw : VerificationBlock) : Validated VerificationBlock := do
  require (¬ (raw.requiredChecks = [] ∧ raw.doneDefinition = []))
    "verification block must have at least one required_check or done_definition item"
  return raw

structure MessageBlock where
  role : MessageRole
  content : String
  deriving DecidableEq

def MessageBlock.validate (raw : MessageBlock) : Validated MessageBlock :=
  fields (nonBlank "content" "message content must not be empty" raw.content)
    { raw with content := strip raw.content }

structure PromptAssembly where
  assemblyId : String
  runId : String
  instructionLayers : List InstructionLayer := []
  contextBlocks : List ContextBlock := []
  verification : Option VerificationBlock := none
  messages : List MessageBlock := []
  deriving DecidableEq

def PromptAssembly.validate (raw : PromptAssembly) : Validated PromptAssembly := do
  let assembly ← fields
    (nonBlank "assembly_id" "assembly_id must not be empty" raw.assemblyId ++
      nonBlank "run_id" "run_id must not be empty" raw.runId)
    { raw with
      assemblyId := strip raw.assemblyId
      runId := strip raw.runId }
  require (assembly.instructionLayers ≠ [])
    "prompt assembly must have at least one instruction layer"
  require (assembly.messages ≠ []) "prompt assembly must have at least one message block"
  return assembly

end PromptAssembly

end NovaHarness.PromptSchemas
