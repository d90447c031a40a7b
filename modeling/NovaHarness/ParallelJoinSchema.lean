import Mathlib.Algebra.Order.Ring.Rat
import NovaHarness.RecordValidation

namespace NovaHarness.ParallelJoinSchema

open NovaHarness.Text
open NovaHarness.RecordValidation

inductive BranchStatus where
  | planned
  | ready
  | running
  | waiting
  | completed
  | failed
  | cancelled
  | blocked
  deriving DecidableEq, Repr

inductive JoinPolicy where
  | waitForAll
  | waitForQuorum
  | waitForFirstSuccess
  | waitForRequiredSet
  | manualJoin
  deriving DecidableEq, Repr

inductive JoinStatus where
  | pending
  | waiting
  | readyToMerge
  | merged
  | partialMerge
  | failed
  | cancelled
  deriving DecidableEq, Repr

structure ParallelWorkRequest where
  parallelRequestId : String
  objective : String
  joinPolicy : JoinPolicy
  deriving DecidableEq, Repr

def ParallelWorkRequest.validate (raw : ParallelWorkRequest) : Validated ParallelWorkRequest :=
  fields
    (idField "parallel_request_id" "parallel_request_id must not be blank"
        raw.parallelRequestId ++
      idField "objective" "objective must not be blank" raw.objective)
    { raw with
      parallelRequestId := strip raw.parallelRequestId
      objective := strip raw.objective }

structure BranchAssignmentRecord where
  branchId : String
  parallelRequestId : String
  scopeSummary : String
  deriving DecidableEq, Repr

def BranchAssignmentRecord.validate (raw : BranchAssignmentRecord) :
    Validated BranchAssignmentRecord :=
  fields
    (idField "branch_id" "branch_id must not be blank" raw.branchId ++
      idField "parallel_request_id" "parallel_request_id must not be blank"
        raw.parallelRequestId ++
      idField "scope_summary" "scope_summary must not be blank" raw.scopeSummary)
    { branchId := strip raw.branchId
      parallelRequestId := strip raw.parallelRequestId
      scopeSummary := strip raw.scopeSummary }

structure BranchOutputRecord where
  branchOutputId : String
  branchId : String
  status : BranchStatus
  confidence : Option ℚ := none
  deriving DecidableEq, Repr

def BranchOutputRecord.validate (raw : BranchOutputRecord) : Validated BranchOutputRecord :=
  fields
    (idField "branch_output_id" "branch_output_id must not be blank" raw.branchOutputId ++
      idField "branch_id" "branch_id must not be blank" raw.branchId ++
      optionAtLeast "confidence" "0" 0 raw.confidence ++
      optionAtMost "confidence" "1" 1 raw.confidence)
    { raw with
      branchOutputId := strip raw.branchOutputId
      branchId := strip raw.branchId }

structure BranchConflictRecord where
  conflictId : String
  branchIds : List String
  conflictSummary : String
  deriving DecidableEq, Repr

def BranchConflictRecord.validate (raw : BranchConflictRecord) :
    Validated BranchConflictRecord :=
  fields
    (idField "conflict_id" "conflict_id must not be blank" raw.conflictId ++
      andThen (minItems "branch_ids" 2 raw.branchIds)
        (check "branch_ids" "branch_ids in conflict must be unique" raw.branchIds.Nodup) ++
      idField "conflict_summary" "conflict_summary must not be blank" raw.conflictSummary)
    { raw with
      conflictId := strip raw.conflictId
      conflictSummary := strip raw.conflictSummary }

structure JoinRequirementRecord where
  joinRequirementId : String
  parallelRequestId : String
  requiredBranchIds : List String := []
  requiredCompletionCount : Option Int := none
  acceptPartialFailures : Bool := false
  deriving DecidableEq, Repr

def JoinRequirementRecord.validate (raw : JoinRequirementRecord) :
    Validated JoinRequirementRecord :=
  fields
    (idField "join_requirement_id" "join_requirement_id must not be blank"
        raw.joinRequirementId ++
      idField "parallel_request_id" "parallel_request_id must not be blank"
        raw.parallelRequestId)
    { raw with
      joinRequirementId := strip raw.joinRequirementId
      parallelRequestId := strip raw.parallelRequestId }

structure JoinExecutionRecord where
  joinId : String
  parallelRequestId : String
  joinPolicy : JoinPolicy
  joinStatus : JoinStatus
  completedBranchIds : List String := []
  deriving DecidableEq, Repr

def JoinExecutionRecord.validate (raw : JoinExecutionRecord) : Validated JoinExecutionRecord :=
  fields
    (idField "join_id" "join_id must not be blank" raw.joinId ++
      idField "parallel_request_id" "parallel_request_id must not be blank"
        raw.parallelRequestId)
    { raw with
      joinId := strip raw.joinId
      parallelRequestId := strip raw.parallelRequestId }

structure MergeResultRecord where
  mergeId : String
  joinId : String
  deriving DecidableEq, Repr

def MergeResultRecord.validate (raw : MergeResultRecord) : Validated MergeResultRecord :=
  fields
    (idField "merge_id" "merge_id must not be blank" raw.mergeId ++
      idField "join_id" "join_id must not be blank" raw.joinId)
    { mergeId := strip raw.mergeId
      joinId := strip raw.joinId }

structure ParallelJoinEnvelope where
  envelopeId : String
  parallelRequest : ParallelWorkRequest
  branchAssignments : List BranchAssignmentRecord
  branchOutputs : List BranchOutputRecord := []
  conflicts : List BranchConflictRecord := []
  joinRequirements : JoinRequirementRecord
  joinExecution : Option JoinExecutionRecord := none
  mergeResult : Option MergeResultRecord := none
  deriving DecidableEq, Repr

namespace ParallelJoinEnvelope

section Rules

/-- The test of the completion count, which the source has twice. -/
def checkCompletionCount (req : JoinRequirementRecord) : Validated Unit :=
  match req.requiredCompletionCount with
  | none => .ok ()
  | some count => do
      require (¬ count < 1) "required_completion_count must be at least 1"
      require (¬ (0 < req.requiredBranchIds.length ∧ count > req.requiredBranchIds.length))
        "required_completion_count cannot exceed total required branch count"

def checkFirstSuccess (policy : JoinPolicy) (req : JoinRequirementRecord) : Validated Unit :=
  require
    (¬ (policy = .waitForFirstSuccess ∧ 1 < req.requiredBranchIds.length ∧
      req.requiredCompletionCount = none))
    "wait_for_first_success must not require all branches; set required_completion_count=1 or use wait_for_all"

def checkMergeStatus (joinExecution : Option JoinExecutionRecord) : Validated Unit :=
  require (∀ execution ∈ joinExecution, execution.joinStatus ∈ [.merged, .partialMerge])
    "merge results require completed or partial join state"

def validateJoinRequirements (envelope : ParallelJoinEnvelope) : Validated Unit := do
  checkCompletionCount envelope.joinRequirements
  whenever (envelope.parallelRequest.joinPolicy = .waitForAll)
    (envelope.joinRequirements.requiredBranchIds |> forEach fun bid =>
      let matching := envelope.branchOutputs.filter fun o =>
        o.branchId = bid ∧ o.status = .completed
      -- a required branch that has not completed is passed over
      whenever (matching = []) (.ok ()))
  checkFirstSuccess envelope.parallelRequest.joinPolicy envelope.joinRequirements

def checkMergeRequiresCompletedJoin (envelope : ParallelJoinEnvelope) : Validated Unit :=
  whenever (envelope.mergeResult ≠ none) (checkMergeStatus envelope.joinExecution)

def checkAllEnvelopeRules (envelope : ParallelJoinEnvelope) : Validated Unit := do
  envelope.validateJoinRequirements
  envelope.checkMergeRequiresCompletedJoin

end Rules

section Construction

def assignmentErrors (assignments : List BranchAssignmentRecord) : List FieldError :=
  andThen (listErrors "branch_assignments" BranchAssignmentRecord.validate assignments)
    (andThen (minItems "branch_assignments" 1 assignments)
      (andThen
        (check "branch_assignments" "branch IDs must be unique within a parallel request"
          ((listValues BranchAssignmentRecord.validate assignments).map (·.branchId)).Nodup)
        (check "branch_assignments" "at least one branch assignment is required"
          (¬ assignments.length < 1))))

/-- Both lists that refer to branches are looked up in the assignments. -/
def unknownBranch (assigned : Option (List BranchAssignmentRecord)) (message : String → String)
    (branchIds : List String) : Validated Unit :=
  match assigned with
  | none => .ok ()
  | some assignments =>
      branchIds |> forEach fun bid =>
        require (bid ∈ assignments.map (·.branchId)) (message bid)

def outputErrors (assigned : Option (List BranchAssignmentRecord))
    (outputs : List BranchOutputRecord) : List FieldError :=
  andThen (listErrors "branch_outputs" BranchOutputRecord.validate outputs)
    (fieldCheck "branch_outputs"
      (unknownBranch assigned (fun bid => "output references unknown branch_id '" ++ bid ++ "'")
        ((listValues BranchOutputRecord.validate outputs).map (·.branchId))))

def conflictErrors (assigned : Option (List BranchAssignmentRecord))
    (conflicts : List BranchConflictRecord) : List FieldError :=
  andThen (listErrors "conflicts" BranchConflictRecord.validate conflicts)
    (fieldCheck "conflicts"
      (unknownBranch assigned (fun bid => "conflict references unknown branch_id '" ++ bid ++ "'")
        ((listValues BranchConflictRecord.validate conflicts).flatMap (·.branchIds))))

def requirementErrors (request : Option ParallelWorkRequest) (req : JoinRequirementRecord) :
    List FieldError :=
  andThen (errorsUnder "join_requirements" req.validate)
    (fieldCheck "join_requirements"
      (match request with
      | none => .ok ()
      | some request => do
          checkCompletionCount (valueD req.validate req)
          checkFirstSuccess request.joinPolicy (valueD req.validate req)))

def mergeErrors (joinExecution : Option JoinExecutionRecord) (merge : Option MergeResultRecord) :
    List FieldError :=
  andThen (optionErrors "merge_result" MergeResultRecord.validate merge)
    (fieldCheck "merge_result" (whenever (merge ≠ none) (checkMergeStatus joinExecution)))

def normalized (raw : ParallelJoinEnvelope) : ParallelJoinEnvelope where
  envelopeId := strip raw.envelopeId
  parallelRequest := valueD raw.parallelRequest.validate raw.parallelRequest
  branchAssignments := listValues BranchAssignmentRecord.validate raw.branchAssignments
  branchOutputs := listValues BranchOutputRecord.validate raw.branchOutputs
  conflicts := listValues BranchConflictRecord.validate raw.conflicts
  joinRequirements := valueD raw.joinRequirements.validate raw.joinRequirements
  joinExecution := optionValue JoinExecutionRecord.validate raw.joinExecution
  mergeResult := optionValue MergeResultRecord.validate raw.mergeResult

def validate (raw : ParallelJoinEnvelope) : Validated ParallelJoinEnvelope :=
  let envelope := raw.normalized
  let requestErrors := errorsUnder "parallel_request" raw.parallelRequest.validate
  let executionErrors :=
    optionErrors "join_execution" JoinExecutionRecord.validate raw.joinExecution
  let request := ifValid requestErrors envelope.parallelRequest
  let assigned := ifValid (assignmentErrors raw.branchAssignments) envelope.branchAssignments
  let execution := (ifValid executionErrors envelope.joinExecution).join
  fields
    (idField "envelope_id" "envelope_id must not be blank" raw.envelopeId ++
      requestErrors ++
      assignmentErrors raw.branchAssignments ++
      outputErrors assigned raw.branchOutputs ++
      conflictErrors assigned raw.conflicts ++
      requirementErrors request raw.joinRequirements ++
      executionErrors ++
      mergeErrors execution raw.mergeResult)
    envelope

instance : Schema ParallelJoinEnvelope := ⟨fun _ => validate⟩

end Construction

end ParallelJoinEnvelope

end NovaHarness.ParallelJoinSchema
