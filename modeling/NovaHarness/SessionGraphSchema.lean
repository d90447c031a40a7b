import NovaHarness.RecordValidation

namespace NovaHarness.SessionGraphSchema

open NovaHarness.Text
open NovaHarness.RecordValidation

inductive SessionNodeType where
  | parentRun
  | childRun
  | agentRole
  | step
  | handoff
  | delegation
  | routingDecision
  | approvalGate
  | verificationStep
  | joinNode
  | terminalNode
  deriving DecidableEq, Repr

structure SessionGraphNode where
  nodeId : String
  nodeType : SessionNodeType
  parentNodeId : Option String := none
  deriving DecidableEq, Repr

def SessionGraphNode.validate (raw : SessionGraphNode) : Validated SessionGraphNode :=
  fields (idField "node_id" "node_id must not be blank" raw.nodeId)
    { raw with nodeId := strip raw.nodeId }

structure SessionGraphEdge where
  edgeId : String
  fromNodeId : String
  toNodeId : String
  deriving DecidableEq, Repr

def SessionGraphEdge.validate (raw : SessionGraphEdge) : Validated SessionGraphEdge :=
  fields
    (idField "edge_id" "edge_id must not be blank" raw.edgeId ++
      minLength "from_node_id" raw.fromNodeId ++
      minLength "to_node_id" raw.toNodeId)
    { raw with edgeId := strip raw.edgeId }

structure BranchStateRecord where
  branchId : String
  entryNodeId : String
  branchNodeIds : List String := []
  activeNodeIds : List String := []
  completedNodeIds : List String := []
  failedNodeIds : List String := []
  deriving DecidableEq, Repr

def BranchStateRecord.validate (raw : BranchStateRecord) : Validated BranchStateRecord :=
  fields
    (idField "branch_id" "branch_id must not be blank" raw.branchId ++
      minLength "entry_node_id" raw.entryNodeId)
    { raw with branchId := strip raw.branchId }

structure JoinStateRecord where
  joinId : String
  joinNodeId : String
  incomingNodeIds : List String
  requiredCompletionCount : Int := 1
  completedIncomingIds : List String := []
  deriving DecidableEq, Repr

def JoinStateRecord.validate (raw : JoinStateRecord) : Validated JoinStateRecord := do
  let join ← fields
    (idField "join_id" "join_id must not be blank" raw.joinId ++
      minLength "join_node_id" raw.joinNodeId ++
      minItems "incoming_node_ids" 1 raw.incomingNodeIds ++
      atLeast "required_completion_count" "1" 1 raw.requiredCompletionCount)
    { raw with joinId := strip raw.joinId }
  require (¬ join.requiredCompletionCount > join.incomingNodeIds.length)
    ("required_completion_count (" ++ toString join.requiredCompletionCount ++
      ") must not exceed incoming_node_ids count (" ++
      toString join.incomingNodeIds.length ++ ")")
  return join

instance : Schema JoinStateRecord := ⟨fun _ => JoinStateRecord.validate⟩

theorem JoinStateRecord.validate_eq_ok (raw join : JoinStateRecord) :
    raw.validate = .ok join ↔
      (¬ IsBlank raw.joinId ∧ raw.joinNodeId ≠ "" ∧ 1 ≤ raw.incomingNodeIds.length ∧
        1 ≤ raw.requiredCompletionCount ∧
        raw.requiredCompletionCount ≤ raw.incomingNodeIds.length) ∧
      { raw with joinId := strip raw.joinId } = join := by
  simp only [validate, bind_eq_ok, fields_eq_ok, require_eq_ok, pure_eq_ok,
    List.append_eq_nil_iff, idField_eq_nil, minLength_eq_nil, minItems_eq_nil, atLeast_eq_nil]
  constructor
  · rintro ⟨_, ⟨⟨⟨⟨hid, hnode⟩, hincoming⟩, hone⟩, rfl⟩, _, hcount, rfl⟩
    exact ⟨⟨hid, hnode, hincoming, hone, not_lt.mp hcount⟩, rfl⟩
  · rintro ⟨⟨hid, hnode, hincoming, hone, hcount⟩, rfl⟩
    exact ⟨_, ⟨⟨⟨⟨hid, hnode⟩, hincoming⟩, hone⟩, rfl⟩, (), not_lt.mpr hcount, rfl⟩

structure GraphCheckpointRecord where
  checkpointId : String
  graphId : String
  activeNodeIds : List String := []
  waitingNodeIds : List String := []
  blockedNodeIds : List String := []
  lastTraversedEdgeIds : List String := []
  deriving DecidableEq, Repr

def GraphCheckpointRecord.validate (raw : GraphCheckpointRecord) :
    Validated GraphCheckpointRecord :=
  fields
    (idField "checkpoint_id" "checkpoint_id must not be blank" raw.checkpointId ++
      idField "graph_id" "graph_id in checkpoint must not be blank" raw.graphId)
    { raw with
      checkpointId := strip raw.checkpointId
      graphId := strip raw.graphId }

structure SessionGraphMetadata where
  graphId : String
  sessionId : String
  entryNodeId : String
  terminalNodeIds : List String := []
  deriving DecidableEq, Repr

def SessionGraphMetadata.validate (raw : SessionGraphMetadata) :
    Validated SessionGraphMetadata :=
  fields
    (idField "graph_id" "graph_id must not be blank" raw.graphId ++
      idField "session_id" "session_id must not be blank" raw.sessionId ++
      idField "entry_node_id" "entry_node_id must not be blank" raw.entryNodeId)
    { raw with
      graphId := strip raw.graphId
      sessionId := strip raw.sessionId
      entryNodeId := strip raw.entryNodeId }

structure MultiAgentSessionGraph where
  metadata : SessionGraphMetadata
  nodes : List SessionGraphNode := []
  edges : List SessionGraphEdge := []
  branches : List BranchStateRecord := []
  joins : List JoinStateRecord := []
  checkpoints : List GraphCheckpointRecord := []
  deriving DecidableEq, Repr

namespace MultiAgentSessionGraph

def nodeIds (graph : MultiAgentSessionGraph) : List String :=
  graph.nodes.map (·.nodeId)

def edgeIds (graph : MultiAgentSessionGraph) : List String :=
  graph.edges.map (·.edgeId)

section Loops

variable (nodeIds : List String)

def checkParent (n : SessionGraphNode) : Validated Unit :=
  require (∀ p ∈ nonEmpty n.parentNodeId, p ∈ nodeIds)
    ("parent_node_id '" ++ n.parentNodeId.getD "" ++ "' on node '" ++ n.nodeId ++
      "' does not reference an existing node")

def checkEndpoints (e : SessionGraphEdge) : Validated Unit := do
  require (e.fromNodeId ∈ nodeIds)
    ("edge '" ++ e.edgeId ++ "' from_node_id '" ++ e.fromNodeId ++ "' not found in nodes")
  require (e.toNodeId ∈ nodeIds)
    ("edge '" ++ e.edgeId ++ "' to_node_id '" ++ e.toNodeId ++ "' not found in nodes")

def checkBranch (b : BranchStateRecord) : Validated Unit := do
  require (b.entryNodeId ∈ nodeIds)
    ("branch '" ++ b.branchId ++ "' entry_node_id '" ++ b.entryNodeId ++ "' not found in nodes")
  b.branchNodeIds |> forEach fun nid =>
    require (nid ∈ nodeIds)
      ("branch '" ++ b.branchId ++ "' references node '" ++ nid ++ "' not found in nodes")

def checkJoin (j : JoinStateRecord) : Validated Unit := do
  require (j.joinNodeId ∈ nodeIds)
    ("join '" ++ j.joinId ++ "' join_node_id '" ++ j.joinNodeId ++ "' not found in nodes")
  j.incomingNodeIds |> forEach fun nid =>
    require (nid ∈ nodeIds)
      ("join '" ++ j.joinId ++ "' incoming_node '" ++ nid ++ "' not found in nodes")

def checkCheckpoint (metadata : SessionGraphMetadata) (cp : GraphCheckpointRecord) :
    Validated Unit :=
  require (cp.graphId = metadata.graphId)
    ("checkpoint '" ++ cp.checkpointId ++ "' references graph_id '" ++ cp.graphId ++
      "' but metadata graph_id is '" ++ metadata.graphId ++ "'")

end Loops

def validateIds (graph : MultiAgentSessionGraph) : Validated Unit := do
  forEachNew (·.nodeId) (fun n => "duplicate node_id: " ++ n.nodeId)
    (checkParent graph.nodeIds) [] graph.nodes
  forEachNew (·.edgeId) (fun e => "duplicate edge_id: " ++ e.edgeId)
    (checkEndpoints graph.nodeIds) [] graph.edges
  forEach (checkBranch graph.nodeIds) graph.branches
  forEach (checkJoin graph.nodeIds) graph.joins
  require (¬ graph.nodes.countP (fun n => n.nodeType = .terminalNode) = 0)
    "at least one terminal_node must exist in the graph"
  require (graph.metadata.entryNodeId ∈ graph.nodeIds)
    ("entry_node_id '" ++ graph.metadata.entryNodeId ++ "' not found in nodes")
  forEach (checkCheckpoint graph.metadata) graph.checkpoints

def normalized (raw : MultiAgentSessionGraph) : MultiAgentSessionGraph where
  metadata := valueD raw.metadata.validate raw.metadata
  nodes := listValues SessionGraphNode.validate raw.nodes
  edges := listValues SessionGraphEdge.validate raw.edges
  branches := listValues BranchStateRecord.validate raw.branches
  joins := listValues JoinStateRecord.validate raw.joins
  checkpoints := listValues GraphCheckpointRecord.validate raw.checkpoints

def validate (raw : MultiAgentSessionGraph) : Validated MultiAgentSessionGraph := do
  let graph ← fields
    (errorsUnder "metadata" raw.metadata.validate ++
      listErrors "nodes" SessionGraphNode.validate raw.nodes ++
      listErrors "edges" SessionGraphEdge.validate raw.edges ++
      listErrors "branches" BranchStateRecord.validate raw.branches ++
      listErrors "joins" JoinStateRecord.validate raw.joins ++
      listErrors "checkpoints" GraphCheckpointRecord.validate raw.checkpoints)
    raw.normalized
  graph.validateIds
  return graph

instance : Schema MultiAgentSessionGraph := ⟨fun _ => validate⟩

/-- What `validate_ids` looks at. -/
structure IdsValid (graph : MultiAgentSessionGraph) : Prop where
  nodeIds : graph.nodeIds.Nodup
  parents : ∀ n ∈ graph.nodes, ∀ p ∈ nonEmpty n.parentNodeId, p ∈ graph.nodeIds
  edgeIds : graph.edgeIds.Nodup
  endpoints : ∀ e ∈ graph.edges, e.fromNodeId ∈ graph.nodeIds ∧ e.toNodeId ∈ graph.nodeIds
  branches : ∀ b ∈ graph.branches,
    b.entryNodeId ∈ graph.nodeIds ∧ ∀ nid ∈ b.branchNodeIds, nid ∈ graph.nodeIds
  joins : ∀ j ∈ graph.joins,
    j.joinNodeId ∈ graph.nodeIds ∧ ∀ nid ∈ j.incomingNodeIds, nid ∈ graph.nodeIds
  terminal : ∃ n ∈ graph.nodes, n.nodeType = .terminalNode
  entry : graph.metadata.entryNodeId ∈ graph.nodeIds
  checkpoints : ∀ cp ∈ graph.checkpoints, cp.graphId = graph.metadata.graphId

theorem validateIds_eq_ok (graph : MultiAgentSessionGraph) (u : Unit) :
    graph.validateIds = .ok u ↔ graph.IdsValid := by
  simp only [validateIds, bind_eq_ok, forEachNew_eq_ok, forEach_eq_ok, require_eq_ok,
    checkParent, checkEndpoints, checkBranch, checkJoin, checkCheckpoint, List.not_mem_nil,
    not_false_eq_true, implies_true, and_true, exists_const, List.countP_eq_zero,
    decide_eq_true_eq, not_forall, not_not]
  constructor
  · rintro ⟨⟨hnodes, hparents⟩, ⟨hedges, hends⟩, hbranches, hjoins, hterminal, hentry, hcps⟩
    refine ⟨hnodes, hparents, hedges, hends, hbranches, hjoins, ?_, hentry, hcps⟩
    obtain ⟨n, hn, htype⟩ := hterminal
    exact ⟨n, hn, htype⟩
  · rintro ⟨hnodes, hparents, hedges, hends, hbranches, hjoins, ⟨n, hn, htype⟩, hentry, hcps⟩
    exact ⟨⟨hnodes, hparents⟩, ⟨hedges, hends⟩, hbranches, hjoins, ⟨n, hn, htype⟩, hentry, hcps⟩

/-- The records a graph is made of, each by itself. -/
structure PartsAccepted (raw : MultiAgentSessionGraph) : Prop where
  metadata : ∃ m, raw.metadata.validate = .ok m
  nodes : ∀ n ∈ raw.nodes, ∃ a, n.validate = .ok a
  edges : ∀ e ∈ raw.edges, ∃ a, e.validate = .ok a
  branches : ∀ b ∈ raw.branches, ∃ a, b.validate = .ok a
  joins : ∀ j ∈ raw.joins, ∃ a, j.validate = .ok a
  checkpoints : ∀ cp ∈ raw.checkpoints, ∃ a, cp.validate = .ok a

theorem validate_eq_ok (raw graph : MultiAgentSessionGraph) :
    raw.validate = .ok graph ↔ raw.PartsAccepted ∧ graph.IdsValid ∧ raw.normalized = graph := by
  simp only [validate, bind_eq_ok, fields_eq_ok, List.append_eq_nil_iff, errorsUnder_eq_nil,
    listErrors_eq_nil, validateIds_eq_ok, pure_eq_ok]
  constructor
  · rintro ⟨_, ⟨⟨⟨⟨⟨⟨hm, hn⟩, he⟩, hb⟩, hj⟩, hcp⟩, rfl⟩, _, hids, rfl⟩
    exact ⟨⟨hm, hn, he, hb, hj, hcp⟩, hids, rfl⟩
  · rintro ⟨⟨hm, hn, he, hb, hj, hcp⟩, hids, rfl⟩
    exact ⟨_, ⟨⟨⟨⟨⟨⟨hm, hn⟩, he⟩, hb⟩, hj⟩, hcp⟩, rfl⟩, (), hids, rfl⟩

theorem idsValid (graph : Accepted MultiAgentSessionGraph) : graph.1.IdsValid := by
  obtain ⟨_, raw, h⟩ := graph.2
  exact ((validate_eq_ok raw graph.1).mp h).2.1

end MultiAgentSessionGraph

structure SessionGraphEnvelope where
  envelopeId : String
  graph : MultiAgentSessionGraph
  deriving DecidableEq, Repr

def SessionGraphEnvelope.validate (raw : SessionGraphEnvelope) : Validated SessionGraphEnvelope :=
  fields
    (idField "envelope_id" "envelope_id must not be blank" raw.envelopeId ++
      errorsUnder "graph" raw.graph.validate)
    { envelopeId := strip raw.envelopeId
      graph := valueD raw.graph.validate raw.graph }

end NovaHarness.SessionGraphSchema
