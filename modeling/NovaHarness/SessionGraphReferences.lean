import NovaHarness.LinkWalks
import NovaHarness.SessionGraphSchema

namespace NovaHarness.SessionGraphReferences

open NovaHarness.Text
open NovaHarness.RecordValidation
open NovaHarness.LinkWalks
open NovaHarness.SessionGraphSchema
open NovaHarness.SessionGraphSchema.MultiAgentSessionGraph

section References

variable (graph : MultiAgentSessionGraph)

/-- An id that is the id of exactly one node. -/
def NamesNode (id : String) : Prop :=
  graph.nodes.countP (fun n => n.nodeId = id) = 1

def NamesEdge (id : String) : Prop :=
  graph.edges.countP (fun e => e.edgeId = id) = 1

def NamesTerminal (id : String) : Prop :=
  NamesNode graph id ∧ ∃ n ∈ graph.nodes, n.nodeId = id ∧ n.nodeType = .terminalNode

/-- The references inside a branch, a join and a checkpoint. -/
def branchReferences (b : BranchStateRecord) : List String :=
  b.entryNodeId :: b.branchNodeIds ++ b.activeNodeIds ++ b.completedNodeIds ++ b.failedNodeIds

def joinReferences (j : JoinStateRecord) : List String :=
  j.joinNodeId :: j.incomingNodeIds ++ j.completedIncomingIds

def checkpointReferences (cp : GraphCheckpointRecord) : List String :=
  cp.activeNodeIds ++ cp.waitingNodeIds ++ cp.blockedNodeIds

/-- Every id mentioned anywhere leads to exactly one record. -/
structure ReferencesClosed : Prop where
  parents : ∀ n ∈ graph.nodes, ∀ p ∈ nonEmpty n.parentNodeId, NamesNode graph p
  endpoints : ∀ e ∈ graph.edges, NamesNode graph e.fromNodeId ∧ NamesNode graph e.toNodeId
  entry : NamesNode graph graph.metadata.entryNodeId
  terminals : ∀ id ∈ graph.metadata.terminalNodeIds, NamesTerminal graph id
  branches : ∀ b ∈ graph.branches, ∀ id ∈ branchReferences b, NamesNode graph id
  joins : ∀ j ∈ graph.joins,
    (∀ id ∈ joinReferences j, NamesNode graph id) ∧ j.completedIncomingIds ⊆ j.incomingNodeIds
  checkpoints : ∀ cp ∈ graph.checkpoints,
    (∀ id ∈ checkpointReferences cp, NamesNode graph id) ∧
      ∀ id ∈ cp.lastTraversedEdgeIds, NamesEdge graph id

/-- The references that no validator reads. -/
structure UncheckedResolve : Prop where
  terminals : ∀ id ∈ graph.metadata.terminalNodeIds,
    ∃ n ∈ graph.nodes, n.nodeId = id ∧ n.nodeType = .terminalNode
  branches : ∀ b ∈ graph.branches,
    ∀ id ∈ b.activeNodeIds ++ b.completedNodeIds ++ b.failedNodeIds, id ∈ graph.nodeIds
  joins : ∀ j ∈ graph.joins, ∀ id ∈ j.completedIncomingIds, id ∈ j.incomingNodeIds
  checkpoints : ∀ cp ∈ graph.checkpoints,
    (∀ id ∈ cp.activeNodeIds ++ cp.waitingNodeIds ++ cp.blockedNodeIds, id ∈ graph.nodeIds) ∧
      ∀ id ∈ cp.lastTraversedEdgeIds, id ∈ graph.edgeIds

variable {graph}

theorem namesNode_iff (hids : graph.IdsValid) (id : String) :
    NamesNode graph id ↔ id ∈ graph.nodeIds :=
  countP_eq_one_iff hids.nodeIds id

theorem namesEdge_iff (hids : graph.IdsValid) (id : String) :
    NamesEdge graph id ↔ id ∈ graph.edgeIds :=
  countP_eq_one_iff hids.edgeIds id

theorem namesTerminal_iff (hids : graph.IdsValid) (id : String) :
    NamesTerminal graph id ↔
      ∃ n ∈ graph.nodes, n.nodeId = id ∧ n.nodeType = .terminalNode := by
  refine ⟨fun h => h.2, fun h => ⟨?_, h⟩⟩
  obtain ⟨n, hn, rfl, -⟩ := h
  exact (namesNode_iff hids _).mpr (List.mem_map_of_mem hn)

theorem branch_closed_iff (hids : graph.IdsValid) {b : BranchStateRecord}
    (hb : b ∈ graph.branches) :
    (∀ id ∈ branchReferences b, NamesNode graph id) ↔
      ∀ id ∈ b.activeNodeIds ++ b.completedNodeIds ++ b.failedNodeIds, id ∈ graph.nodeIds := by
  obtain ⟨hentry, hnodes⟩ := hids.branches b hb
  simp only [namesNode_iff hids, branchReferences, List.cons_append, List.append_assoc,
    List.forall_mem_cons, List.forall_mem_append]
  constructor
  · exact fun h => h.2.2
  · exact fun h => ⟨hentry, hnodes, h⟩

theorem join_closed_iff (hids : graph.IdsValid) {j : JoinStateRecord} (hj : j ∈ graph.joins) :
    ((∀ id ∈ joinReferences j, NamesNode graph id) ∧
        j.completedIncomingIds ⊆ j.incomingNodeIds) ↔
      ∀ id ∈ j.completedIncomingIds, id ∈ j.incomingNodeIds := by
  obtain ⟨hjoin, hincoming⟩ := hids.joins j hj
  simp only [namesNode_iff hids, joinReferences, List.cons_append, List.forall_mem_cons,
    List.forall_mem_append]
  constructor
  · exact fun h id hid => h.2 hid
  · exact fun h => ⟨⟨hjoin, hincoming, fun id hid => hincoming id (h id hid)⟩, h⟩

theorem checkpoint_closed_iff (hids : graph.IdsValid) (cp : GraphCheckpointRecord) :
    ((∀ id ∈ checkpointReferences cp, NamesNode graph id) ∧
        ∀ id ∈ cp.lastTraversedEdgeIds, NamesEdge graph id) ↔
      (∀ id ∈ cp.activeNodeIds ++ cp.waitingNodeIds ++ cp.blockedNodeIds, id ∈ graph.nodeIds) ∧
        ∀ id ∈ cp.lastTraversedEdgeIds, id ∈ graph.edgeIds := by
  simp only [namesNode_iff hids, namesEdge_iff hids, checkpointReferences]

/-- An accepted graph has no dangling reference exactly when the unchecked ones
resolve too. -/
theorem references_closed_iff (graph : Accepted MultiAgentSessionGraph) :
    ReferencesClosed graph.1 ↔ UncheckedResolve graph.1 := by
  have hids := idsValid graph
  constructor
  · intro h
    refine ⟨?_, ?_, ?_, ?_⟩
    · exact fun id hid => (h.terminals id hid).2
    · exact fun b hb => (branch_closed_iff hids hb).mp (h.branches b hb)
    · exact fun j hj => (join_closed_iff hids hj).mp (h.joins j hj)
    · exact fun cp hcp => (checkpoint_closed_iff hids cp).mp (h.checkpoints cp hcp)
  · intro h
    refine ⟨?_, ?_, ?_, ?_, ?_, ?_, ?_⟩
    · exact fun n hn p hp => (namesNode_iff hids p).mpr (hids.parents n hn p hp)
    · intro e he
      obtain ⟨hfrom, hto⟩ := hids.endpoints e he
      exact ⟨(namesNode_iff hids _).mpr hfrom, (namesNode_iff hids _).mpr hto⟩
    · exact (namesNode_iff hids _).mpr hids.entry
    · exact fun id hid => (namesTerminal_iff hids id).mpr (h.terminals id hid)
    · exact fun b hb => (branch_closed_iff hids hb).mpr (h.branches b hb)
    · exact fun j hj => (join_closed_iff hids hj).mpr (h.joins j hj)
    · exact fun cp hcp => (checkpoint_closed_iff hids cp).mpr (h.checkpoints cp hcp)

/-- A graph whose checkpoint, and whose list of terminal nodes, name what the
graph does not have. -/
def danglingGraph : Accepted MultiAgentSessionGraph :=
  build
    { metadata :=
        { graphId := "g-1", sessionId := "s-1", entryNodeId := "start",
          terminalNodeIds := ["finish"] }
      nodes :=
        [{ nodeId := "start", nodeType := .parentRun },
          { nodeId := "end", nodeType := .terminalNode, parentNodeId := some "start" }]
      edges := [{ edgeId := "e-1", fromNodeId := "start", toNodeId := "end" }]
      checkpoints :=
        [{ checkpointId := "cp-1", graphId := "g-1", activeNodeIds := ["worker"],
           lastTraversedEdgeIds := ["e-2"] }] }
    (by decide)

theorem danglingGraph_not_closed : ¬ ReferencesClosed danglingGraph.1 := by
  intro h
  have hterminal := (h.terminals "finish" (by decide)).1
  exact absurd hterminal (by unfold NamesNode; decide)

end References

section JoinCounts

variable (join : JoinStateRecord)

def incomingIds : Finset String :=
  join.incomingNodeIds.toFinset

/-- As many of the incoming nodes as the join asks for have completed. -/
def JoinReached (completed : Finset String) : Prop :=
  join.requiredCompletionCount ≤ (completed ∩ incomingIds join).card

/-- Some of the incoming nodes are enough, so their completion lets the join go
on. -/
structure CanFire : Prop where
  bounded : join.requiredCompletionCount ≤ (incomingIds join).card
  reached : ∃ completed ⊆ incomingIds join, JoinReached join completed

theorem canFire_iff :
    CanFire join ↔ join.requiredCompletionCount ≤ (incomingIds join).card := by
  refine ⟨fun h => h.bounded, fun h => ⟨h, incomingIds join, Finset.Subset.refl _, ?_⟩⟩
  rwa [JoinReached, Finset.inter_self]

/-- The count is compared with the length of the list, so it leaves enough nodes
when none is listed twice. -/
theorem join_count_bounded (join : Accepted JoinStateRecord) :
    (1 ≤ join.1.requiredCompletionCount ∧
        join.1.requiredCompletionCount ≤ join.1.incomingNodeIds.length) ∧
      (join.1.incomingNodeIds.Nodup → CanFire join.1) := by
  obtain ⟨_, raw, h⟩ := join.2
  obtain ⟨⟨-, -, -, hone, hcount⟩, hjoin⟩ := (JoinStateRecord.validate_eq_ok raw join.1).mp h
  rw [← hjoin]
  refine ⟨⟨hone, hcount⟩, fun hnodup => (canFire_iff _).mpr ?_⟩
  rw [incomingIds, List.toFinset_card_of_nodup hnodup]
  exact hcount

def joinOf (incoming : List String) : JoinStateRecord where
  joinId := "j-1"
  joinNodeId := "join"
  incomingNodeIds := incoming
  requiredCompletionCount := 2

def bothIncoming : Accepted JoinStateRecord :=
  build (joinOf ["a", "b"]) (by decide)

theorem join_count_bounded_bothIncoming : CanFire bothIncoming.1 :=
  (join_count_bounded bothIncoming).2 (by decide)

/-- One node listed twice is counted twice. -/
def repeatedIncoming : Accepted JoinStateRecord :=
  build (joinOf ["a", "a"]) (by decide)

theorem repeatedIncoming_cannot_fire : ¬ CanFire repeatedIncoming.1 := by
  intro h
  have hcard : (incomingIds repeatedIncoming.1).card = 1 := by decide
  have hbounded := h.bounded
  rw [hcard] at hbounded
  exact absurd hbounded (by decide)

end JoinCounts

section ParentLinks

variable (graph : MultiAgentSessionGraph)

/-- `parent_node_id` of the node with this id. -/
def parentOf (id : String) : Option String :=
  (graph.nodes.find? fun n => n.nodeId = id).bind fun n => nonEmpty n.parentNodeId

/-- The parent links of all nodes form a forest. -/
def IsForest : Prop :=
  (∀ n ∈ graph.nodes, EndsWithin (parentOf graph) graph.nodes.length n.nodeId) ∧
    ∀ n ∈ graph.nodes, ¬ OnCycle (parentOf graph) n.nodeId

variable {graph}

theorem parentOf_mem (hids : graph.IdsValid) {id p : String} (hp : p ∈ parentOf graph id) :
    p ∈ graph.nodeIds := by
  obtain ⟨n, hn, hparent⟩ := Option.bind_eq_some_iff.mp hp
  exact hids.parents n (List.mem_of_find?_eq_some hn) p hparent

theorem card_nodeIds (hids : graph.IdsValid) :
    graph.nodeIds.toFinset.card = graph.nodes.length := by
  rw [List.toFinset_card_of_nodup hids.nodeIds, nodeIds, List.length_map]

theorem parentOf_closed (hids : graph.IdsValid) :
    ∀ id ∈ graph.nodeIds.toFinset, ∀ p ∈ parentOf graph id, p ∈ graph.nodeIds.toFinset :=
  fun _ _ _ hp => List.mem_toFinset.mpr (parentOf_mem hids hp)

/-- Every parent id leads to exactly one node, so a walk up never falls out of
the graph: within as many steps as there are nodes it ends or meets a node that
is its own ancestor, and the links are a forest when there is no such node. -/
theorem parent_links (graph : Accepted MultiAgentSessionGraph) :
    (∀ n ∈ graph.1.nodes, ∀ p ∈ nonEmpty n.parentNodeId, NamesNode graph.1 p) ∧
      (∀ n ∈ graph.1.nodes,
        EndsWithin (parentOf graph.1) graph.1.nodes.length n.nodeId ∨
          ∃ k ≤ graph.1.nodes.length, ∃ m ∈ climb (parentOf graph.1) k n.nodeId,
            OnCycle (parentOf graph.1) m) ∧
      (IsForest graph.1 ↔ ∀ n ∈ graph.1.nodes, ¬ OnCycle (parentOf graph.1) n.nodeId) := by
  have hids := idsValid graph
  have hclosed := parentOf_closed hids
  have hstart : ∀ n ∈ graph.1.nodes, n.nodeId ∈ graph.1.nodeIds.toFinset :=
    fun n hn => List.mem_toFinset.mpr (List.mem_map_of_mem hn)
  rw [IsForest, ← card_nodeIds hids]
  refine ⟨?_, ?_, ?_⟩
  · exact fun n hn p hp => (namesNode_iff hids p).mpr (hids.parents n hn p hp)
  · exact fun n hn => endsWithin_or_cycle hclosed (hstart n hn)
  · refine ⟨fun h => h.2, fun h => ⟨fun n hn => ?_, h⟩⟩
    apply (endsWithin_iff hclosed (hstart n hn)).mpr
    intro k m hm
    have hmem := List.mem_toFinset.mp (mem_of_climb hclosed (hstart n hn) hm)
    obtain ⟨n', hn', rfl⟩ := List.mem_map.mp hmem
    exact h n' hn'

/-- A node may be its own parent. -/
def selfParentGraph : Accepted MultiAgentSessionGraph :=
  build
    { metadata := { graphId := "g-1", sessionId := "s-1", entryNodeId := "loop" }
      nodes :=
        [{ nodeId := "loop", nodeType := .parentRun, parentNodeId := some "loop" },
          { nodeId := "end", nodeType := .terminalNode }] }
    (by decide)

theorem selfParentGraph_not_forest : ¬ IsForest selfParentGraph.1 := by
  intro h
  exact h.2 { nodeId := "loop", nodeType := .parentRun, parentNodeId := some "loop" } (by decide)
    ⟨1, by decide, by decide⟩

end ParentLinks

end NovaHarness.SessionGraphReferences
