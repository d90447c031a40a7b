import NovaHarness.SessionGraphReferences

namespace NovaHarness.IdPadding

open NovaHarness.Text
open NovaHarness.RecordValidation
open NovaHarness.SessionGraphSchema
open NovaHarness.SessionGraphReferences

/-- A renaming that puts white space around ids, for each id always the same. -/
structure Padding where
  rename : String → String
  padded : ∀ id, ∃ before after,
    IsBlank before ∧ IsBlank after ∧ rename id = before ++ id ++ after

namespace Padding

variable (p : Padding)

@[simp] theorem strip_rename (id : String) : strip (p.rename id) = strip id := by
  obtain ⟨before, after, hbefore, hafter, heq⟩ := p.padded id
  rw [heq, strip_padded hbefore hafter]

@[simp] theorem isBlank_rename (id : String) : IsBlank (p.rename id) ↔ IsBlank id := by
  rw [IsBlank, strip_rename, IsBlank]

/-- A padded id without white space around it was not padded at all. -/
theorem rename_eq_self {id : String} (h : strip (p.rename id) = p.rename id) :
    p.rename id = id := by
  obtain ⟨before, after, -, -, heq⟩ := p.padded id
  have hlength : (p.rename id).length ≤ id.length := by
    rw [← h, strip_rename]
    exact length_strip_le id
  rw [heq, String.length_append, String.length_append] at hlength
  have hbefore : before = "" := String.length_eq_zero_iff.mp (by omega)
  have hafter : after = "" := String.length_eq_zero_iff.mp (by omega)
  rw [heq, hbefore, hafter, String.empty_append, String.append_empty]

/-- An empty `parent_node_id` refers to nothing. -/
def parent (parentId : String) : String :=
  if parentId = "" then parentId else p.rename parentId

def node (n : SessionGraphNode) : SessionGraphNode :=
  { n with
    nodeId := p.rename n.nodeId
    parentNodeId := n.parentNodeId.map p.parent }

def edge (e : SessionGraphEdge) : SessionGraphEdge :=
  { e with
    fromNodeId := p.rename e.fromNodeId
    toNodeId := p.rename e.toNodeId }

def branch (b : BranchStateRecord) : BranchStateRecord :=
  { b with
    entryNodeId := p.rename b.entryNodeId
    branchNodeIds := b.branchNodeIds.map p.rename
    activeNodeIds := b.activeNodeIds.map p.rename
    completedNodeIds := b.completedNodeIds.map p.rename
    failedNodeIds := b.failedNodeIds.map p.rename }

def join (j : JoinStateRecord) : JoinStateRecord :=
  { j with
    joinNodeId := p.rename j.joinNodeId
    incomingNodeIds := j.incomingNodeIds.map p.rename
    completedIncomingIds := j.completedIncomingIds.map p.rename }

/-- The payload with every node id padded, where it is defined and where it is
referred to. -/
def graph (raw : MultiAgentSessionGraph) : MultiAgentSessionGraph :=
  { raw with
    metadata := { raw.metadata with entryNodeId := p.rename raw.metadata.entryNodeId }
    nodes := raw.nodes.map p.node
    edges := raw.edges.map p.edge
    branches := raw.branches.map p.branch
    joins := raw.joins.map p.join }

end Padding

section Payloads

variable (raw : MultiAgentSessionGraph)

/-- The references to nodes, but for the entry node of the graph. -/
def references : List String :=
  raw.nodes.flatMap (fun n => (nonEmpty n.parentNodeId).toList) ++
    raw.edges.flatMap (fun e => [e.fromNodeId, e.toNodeId]) ++
    raw.branches.flatMap branchReferences ++
    raw.joins.flatMap joinReferences

/-- The payload with every id stripped that a validator strips. -/
def strippedIds : MultiAgentSessionGraph where
  metadata :=
    { raw.metadata with
      graphId := strip raw.metadata.graphId
      sessionId := strip raw.metadata.sessionId
      entryNodeId := strip raw.metadata.entryNodeId }
  nodes := raw.nodes.map fun n => { n with nodeId := strip n.nodeId }
  edges := raw.edges.map fun e => { e with edgeId := strip e.edgeId }
  branches := raw.branches.map fun b => { b with branchId := strip b.branchId }
  joins := raw.joins.map fun j => { j with joinId := strip j.joinId }
  checkpoints := raw.checkpoints.map fun cp =>
    { cp with
      checkpointId := strip cp.checkpointId
      graphId := strip cp.graphId }

/-- The padded payload is accepted if and only if the other one is, and as the
same graph. -/
def Immaterial (p : Padding) : Prop :=
  ((∃ graph, (p.graph raw).validate = .ok graph) ↔ ∃ graph, raw.validate = .ok graph) ∧
    ∀ graph padded, raw.validate = .ok graph → (p.graph raw).validate = .ok padded →
      padded = graph

variable {raw}

theorem normalized_eq_strippedIds (h : raw.PartsAccepted) : raw.normalized = strippedIds raw := by
  obtain ⟨⟨metadata, hmetadata⟩, hnodes, hedges, hbranches, hjoins, hcheckpoints⟩ := h
  simp only [MultiAgentSessionGraph.normalized, strippedIds, hmetadata, valueD_ok,
    MultiAgentSessionGraph.mk.injEq]
  refine ⟨?_, ?_, ?_, ?_, ?_, ?_⟩
  · exact ((fields_eq_ok _ _ _).mp hmetadata).2.symm
  · refine listValues_eq_map hnodes fun n a h => ?_
    exact ((fields_eq_ok _ _ _).mp h).2
  · refine listValues_eq_map hedges fun e a h => ?_
    exact ((fields_eq_ok _ _ _).mp h).2
  · refine listValues_eq_map hbranches fun b a h => ?_
    exact ((fields_eq_ok _ _ _).mp h).2
  · refine listValues_eq_map hjoins fun j a h => ?_
    exact ((JoinStateRecord.validate_eq_ok j a).mp h).2
  · refine listValues_eq_map hcheckpoints fun cp a h => ?_
    exact ((fields_eq_ok _ _ _).mp h).2

theorem validate_eq_ok_iff (graph : MultiAgentSessionGraph) :
    raw.validate = .ok graph ↔
      raw.PartsAccepted ∧ (strippedIds raw).IdsValid ∧ strippedIds raw = graph := by
  rw [MultiAgentSessionGraph.validate_eq_ok]
  constructor
  · rintro ⟨hparts, hids, rfl⟩
    rw [← normalized_eq_strippedIds hparts]
    exact ⟨hparts, hids, rfl⟩
  · rintro ⟨hparts, hids, rfl⟩
    exact ⟨hparts, hids, normalized_eq_strippedIds hparts⟩

theorem exists_validate_iff :
    (∃ graph, raw.validate = .ok graph) ↔ raw.PartsAccepted ∧ (strippedIds raw).IdsValid := by
  simp only [validate_eq_ok_iff]
  constructor
  · rintro ⟨_, hparts, hids, -⟩
    exact ⟨hparts, hids⟩
  · rintro ⟨hparts, hids⟩
    exact ⟨_, hparts, hids, rfl⟩

end Payloads

section Unpadded

variable (p : Padding)

theorem rename_ne_empty {id : String} (h : id ≠ "") : p.rename id ≠ "" := by
  obtain ⟨before, after, -, -, heq⟩ := p.padded id
  intro hempty
  have hlength := congrArg String.length (heq.symm.trans hempty)
  rw [String.length_append, String.length_append, String.length_empty] at hlength
  exact h (String.length_eq_zero_iff.mp (by omega))

theorem map_rename_eq_iff (ids : List String) :
    ids.map p.rename = ids ↔ ∀ id ∈ ids, p.rename id = id := by
  conv_lhs => rhs; rw [← List.map_id ids]
  exact List.map_inj_left

theorem map_parent_eq_iff (parentId : Option String) :
    parentId.map p.parent = parentId ↔ ∀ id ∈ nonEmpty parentId, p.rename id = id := by
  rcases parentId with _ | id
  · simp [nonEmpty]
  · by_cases hid : id = ""
    · simp [nonEmpty, Padding.parent, hid]
    · simp [nonEmpty, Padding.parent, hid, Option.filter]

theorem rename_mem_nonEmpty {parentId : Option String} {id : String}
    (h : id ∈ nonEmpty parentId) : p.rename id ∈ nonEmpty (parentId.map p.parent) := by
  obtain ⟨rfl, hne⟩ := Option.filter_eq_some_iff.mp h
  have hne : id ≠ "" := by simpa using hne
  refine Option.filter_eq_some_iff.mpr ⟨?_, by simpa using rename_ne_empty p hne⟩
  rw [Option.map_some, Padding.parent, if_neg hne]

section Records

/-- What stripping leaves to see of the padding of one record. -/
theorem node_eq_iff (n : SessionGraphNode) :
    ({ p.node n with nodeId := strip (p.node n).nodeId } : SessionGraphNode) =
        { n with nodeId := strip n.nodeId } ↔
      ∀ id ∈ nonEmpty n.parentNodeId, p.rename id = id := by
  simp only [Padding.node, p.strip_rename, SessionGraphNode.mk.injEq, map_parent_eq_iff, true_and]

theorem edge_eq_iff (e : SessionGraphEdge) :
    ({ p.edge e with edgeId := strip (p.edge e).edgeId } : SessionGraphEdge) =
        { e with edgeId := strip e.edgeId } ↔
      ∀ id ∈ [e.fromNodeId, e.toNodeId], p.rename id = id := by
  simp [Padding.edge]

theorem branch_eq_iff (b : BranchStateRecord) :
    ({ p.branch b with branchId := strip (p.branch b).branchId } : BranchStateRecord) =
        { b with branchId := strip b.branchId } ↔
      ∀ id ∈ branchReferences b, p.rename id = id := by
  simp only [Padding.branch, branchReferences, BranchStateRecord.mk.injEq, map_rename_eq_iff,
    List.cons_append, List.append_assoc, List.forall_mem_cons, List.forall_mem_append, true_and]

theorem join_eq_iff (j : JoinStateRecord) :
    ({ p.join j with joinId := strip (p.join j).joinId } : JoinStateRecord) =
        { j with joinId := strip j.joinId } ↔
      ∀ id ∈ joinReferences j, p.rename id = id := by
  simp only [Padding.join, joinReferences, JoinStateRecord.mk.injEq, map_rename_eq_iff,
    List.cons_append, List.forall_mem_cons, List.forall_mem_append, true_and]

end Records

theorem forall_references_iff {P : String → Prop} (raw : MultiAgentSessionGraph) :
    (∀ id ∈ references raw, P id) ↔
      (∀ n ∈ raw.nodes, ∀ id ∈ nonEmpty n.parentNodeId, P id) ∧
      (∀ e ∈ raw.edges, ∀ id ∈ [e.fromNodeId, e.toNodeId], P id) ∧
      (∀ b ∈ raw.branches, ∀ id ∈ branchReferences b, P id) ∧
      ∀ j ∈ raw.joins, ∀ id ∈ joinReferences j, P id := by
  simp only [references, List.forall_mem_append, List.forall_mem_flatMap, Option.mem_toList,
    Option.mem_def, and_assoc]

/-- The padding cannot be seen on the stripped payload exactly when it adds
nothing to the references that are kept as they are. -/
theorem strippedIds_graph_eq_iff (raw : MultiAgentSessionGraph) :
    strippedIds (p.graph raw) = strippedIds raw ↔ ∀ id ∈ references raw, p.rename id = id := by
  simp only [strippedIds, Padding.graph, MultiAgentSessionGraph.mk.injEq, p.strip_rename,
    List.map_map, List.map_inj_left, Function.comp_apply, node_eq_iff, edge_eq_iff,
    branch_eq_iff, join_eq_iff, forall_references_iff, true_and, and_true]

end Unpadded

section Accepted

variable (p : Padding) {raw : MultiAgentSessionGraph}

theorem nodeIds_strippedIds_graph (raw : MultiAgentSessionGraph) :
    (strippedIds (p.graph raw)).nodeIds = (strippedIds raw).nodeIds := by
  simp only [MultiAgentSessionGraph.nodeIds, strippedIds, Padding.graph, Padding.node,
    List.map_map, Function.comp_def, p.strip_rename]

/-- A padded reference that names a node was not padded at all. -/
theorem rename_eq_self_of_mem {id : String} (h : p.rename id ∈ (strippedIds raw).nodeIds) :
    p.rename id = id := by
  simp only [MultiAgentSessionGraph.nodeIds, strippedIds, List.map_map] at h
  obtain ⟨n, -, hn⟩ := List.mem_map.mp h
  have hn : strip n.nodeId = p.rename id := hn
  exact p.rename_eq_self (by rw [← hn, strip_strip])

theorem mem_of_rename_mem {id : String} (h : p.rename id ∈ (strippedIds raw).nodeIds) :
    id ∈ (strippedIds raw).nodeIds := by
  rwa [rename_eq_self_of_mem p h] at h

theorem idsValid_of_padded (h : (strippedIds (p.graph raw)).IdsValid) :
    (strippedIds raw).IdsValid := by
  obtain ⟨hnodes, hparents, hedges, hends, hbranches, hjoins, hterminal, hentry, hcps⟩ := h
  rw [nodeIds_strippedIds_graph] at hnodes hparents hends hbranches hjoins hentry
  refine ⟨hnodes, ?_, ?_, ?_, ?_, ?_, ?_, ?_, ?_⟩
  · refine List.forall_mem_map.mpr fun n hn id hid => mem_of_rename_mem p ?_
    exact hparents _ (List.mem_map_of_mem (List.mem_map_of_mem hn)) _ (rename_mem_nonEmpty p hid)
  · simpa [MultiAgentSessionGraph.edgeIds, strippedIds, Padding.graph, Padding.edge,
      Function.comp_def] using hedges
  · refine List.forall_mem_map.mpr fun e he => ?_
    obtain ⟨hfrom, hto⟩ := hends _ (List.mem_map_of_mem (List.mem_map_of_mem he))
    exact ⟨mem_of_rename_mem p hfrom, mem_of_rename_mem p hto⟩
  · refine List.forall_mem_map.mpr fun b hb => ?_
    obtain ⟨hentry, hids⟩ := hbranches _ (List.mem_map_of_mem (List.mem_map_of_mem hb))
    refine ⟨mem_of_rename_mem p hentry, fun id hid => mem_of_rename_mem p (hids _ ?_)⟩
    exact List.mem_map_of_mem hid
  · refine List.forall_mem_map.mpr fun j hj => ?_
    obtain ⟨hjoin, hids⟩ := hjoins _ (List.mem_map_of_mem (List.mem_map_of_mem hj))
    refine ⟨mem_of_rename_mem p hjoin, fun id hid => mem_of_rename_mem p (hids _ ?_)⟩
    exact List.mem_map_of_mem hid
  · obtain ⟨n, hn, htype⟩ := hterminal
    simp only [strippedIds, Padding.graph, List.map_map] at hn
    obtain ⟨m, hm, rfl⟩ := List.mem_map.mp hn
    exact ⟨_, List.mem_map_of_mem hm, htype⟩
  · simpa [strippedIds, Padding.graph] using hentry
  · exact hcps

theorem node_accepted_iff (n : SessionGraphNode) :
    (∃ a, n.validate = .ok a) ↔ ¬ IsBlank n.nodeId := by
  simp [SessionGraphNode.validate]

theorem edge_accepted_iff (e : SessionGraphEdge) :
    (∃ a, e.validate = .ok a) ↔
      ¬ IsBlank e.edgeId ∧ e.fromNodeId ≠ "" ∧ e.toNodeId ≠ "" := by
  simp [SessionGraphEdge.validate, and_assoc]

theorem branch_accepted_iff (b : BranchStateRecord) :
    (∃ a, b.validate = .ok a) ↔ ¬ IsBlank b.branchId ∧ b.entryNodeId ≠ "" := by
  simp [BranchStateRecord.validate]

theorem join_accepted_iff (j : JoinStateRecord) :
    (∃ a, j.validate = .ok a) ↔
      ¬ IsBlank j.joinId ∧ j.joinNodeId ≠ "" ∧ 1 ≤ j.incomingNodeIds.length ∧
        1 ≤ j.requiredCompletionCount ∧
        j.requiredCompletionCount ≤ j.incomingNodeIds.length := by
  simp only [JoinStateRecord.validate_eq_ok, exists_and_left, exists_eq', and_true]

theorem metadata_accepted_iff (m : SessionGraphMetadata) :
    (∃ a, m.validate = .ok a) ↔
      ¬ IsBlank m.graphId ∧ ¬ IsBlank m.sessionId ∧ ¬ IsBlank m.entryNodeId := by
  simp [SessionGraphMetadata.validate, and_assoc]

theorem ne_empty_of_padded {id : String} (h : p.rename id ∈ (strippedIds raw).nodeIds)
    (hne : p.rename id ≠ "") : id ≠ "" := by
  rwa [rename_eq_self_of_mem p h] at hne

theorem partsAccepted_of_padded (h : (p.graph raw).PartsAccepted)
    (hids : (strippedIds (p.graph raw)).IdsValid) : raw.PartsAccepted := by
  obtain ⟨hmetadata, hnodes, hedges, hbranches, hjoins, hcheckpoints⟩ := h
  have hends := hids.endpoints
  have hbranchIds := hids.branches
  have hjoinIds := hids.joins
  rw [nodeIds_strippedIds_graph] at hends hbranchIds hjoinIds
  refine ⟨?_, fun n hn => ?_, fun e he => ?_, fun b hb => ?_, fun j hj => ?_, hcheckpoints⟩
  · rw [metadata_accepted_iff] at hmetadata ⊢
    obtain ⟨hgraph, hsession, hentry⟩ := hmetadata
    exact ⟨hgraph, hsession, mt (p.isBlank_rename _).mpr hentry⟩
  · have hnode := hnodes _ (List.mem_map_of_mem hn)
    rw [node_accepted_iff] at hnode ⊢
    exact mt (p.isBlank_rename _).mpr hnode
  · have hedge := hedges _ (List.mem_map_of_mem he)
    obtain ⟨hfrom, hto⟩ := hends _ (List.mem_map_of_mem (List.mem_map_of_mem he))
    rw [edge_accepted_iff] at hedge ⊢
    obtain ⟨hedgeId, hfromNe, htoNe⟩ := hedge
    exact ⟨hedgeId, ne_empty_of_padded p hfrom hfromNe, ne_empty_of_padded p hto htoNe⟩
  · have hbranch := hbranches _ (List.mem_map_of_mem hb)
    obtain ⟨hentry, -⟩ := hbranchIds _ (List.mem_map_of_mem (List.mem_map_of_mem hb))
    rw [branch_accepted_iff] at hbranch ⊢
    exact ⟨hbranch.1, ne_empty_of_padded p hentry hbranch.2⟩
  · have hjoin := hjoins _ (List.mem_map_of_mem hj)
    obtain ⟨hnode, -⟩ := hjoinIds _ (List.mem_map_of_mem (List.mem_map_of_mem hj))
    rw [join_accepted_iff] at hjoin ⊢
    obtain ⟨hjoinId, hnodeNe, hbounds⟩ := hjoin
    refine ⟨hjoinId, ne_empty_of_padded p hnode hnodeNe, ?_⟩
    simpa [Padding.join] using hbounds

/-- Padding never makes a payload acceptable. -/
theorem exists_validate_of_padded (h : ∃ graph, (p.graph raw).validate = .ok graph) :
    ∃ graph, raw.validate = .ok graph := by
  obtain ⟨hparts, hids⟩ := exists_validate_iff.mp h
  exact exists_validate_iff.mpr
    ⟨partsAccepted_of_padded p hparts hids, idsValid_of_padded p hids⟩

/-- No record complains about padding by itself. -/
theorem partsAccepted_padded (h : raw.PartsAccepted) : (p.graph raw).PartsAccepted := by
  refine ⟨?_, List.forall_mem_map.mpr fun n hn => ?_, List.forall_mem_map.mpr fun e he => ?_,
    List.forall_mem_map.mpr fun b hb => ?_, List.forall_mem_map.mpr fun j hj => ?_,
    h.checkpoints⟩
  · obtain ⟨hgraph, hsession, hentry⟩ := (metadata_accepted_iff _).mp h.metadata
    exact (metadata_accepted_iff _).mpr
      ⟨hgraph, hsession, mt (p.isBlank_rename _).mp hentry⟩
  · have hnode := (node_accepted_iff n).mp (h.nodes n hn)
    exact (node_accepted_iff _).mpr (mt (p.isBlank_rename _).mp hnode)
  · obtain ⟨hedgeId, hfrom, hto⟩ := (edge_accepted_iff e).mp (h.edges e he)
    exact (edge_accepted_iff _).mpr ⟨hedgeId, rename_ne_empty p hfrom, rename_ne_empty p hto⟩
  · have hbranch := (branch_accepted_iff b).mp (h.branches b hb)
    exact (branch_accepted_iff _).mpr ⟨hbranch.1, rename_ne_empty p hbranch.2⟩
  · obtain ⟨hjoinId, hnode, hbounds⟩ := (join_accepted_iff j).mp (h.joins j hj)
    refine (join_accepted_iff _).mpr ⟨hjoinId, rename_ne_empty p hnode, ?_⟩
    simpa [Padding.join] using hbounds

/-- Padding goes unnoticed exactly when the payload breaks a rule that does not
see it, or it adds nothing to a reference other than the entry node. -/
theorem padding_immaterial_iff (p : Padding) (raw : MultiAgentSessionGraph) :
    Immaterial raw p ↔
      (raw.PartsAccepted → (strippedIds raw).IdsValid →
        ∀ id ∈ references raw, p.rename id = id) := by
  constructor
  · rintro ⟨hiff, hsame⟩ hparts hids
    have hraw := (validate_eq_ok_iff (strippedIds raw)).mpr ⟨hparts, hids, rfl⟩
    obtain ⟨padded, hpadded⟩ := hiff.mpr ⟨_, hraw⟩
    have heq : padded = strippedIds raw := hsame _ _ hraw hpadded
    obtain ⟨-, -, hstripped⟩ := (validate_eq_ok_iff padded).mp hpadded
    exact (strippedIds_graph_eq_iff p raw).mp (hstripped.trans heq)
  · intro h
    refine ⟨⟨exists_validate_of_padded p, ?_⟩, ?_⟩
    · intro hraw
      obtain ⟨hparts, hids⟩ := exists_validate_iff.mp hraw
      refine exists_validate_iff.mpr ⟨partsAccepted_padded p hparts, ?_⟩
      rwa [(strippedIds_graph_eq_iff p raw).mpr (h hparts hids)]
    · intro graph padded hraw hpadded
      obtain ⟨hparts, hids, rfl⟩ := (validate_eq_ok_iff graph).mp hraw
      obtain ⟨-, -, rfl⟩ := (validate_eq_ok_iff padded).mp hpadded
      exact (strippedIds_graph_eq_iff p raw).mpr (h hparts hids)

/-- A space in front of one id. -/
def startPadding : Padding where
  rename id := if id = "start" then " start" else id
  padded := by
    intro id
    by_cases hid : id = "start"
    · exact ⟨" ", "", by decide, by decide, by simp [hid]⟩
    · exact ⟨"", "", by decide, by decide, by simp [hid]⟩

def childGraph : MultiAgentSessionGraph where
  metadata := { graphId := "g-1", sessionId := "s-1", entryNodeId := "start" }
  nodes :=
    [{ nodeId := "start", nodeType := .parentRun },
      { nodeId := "end", nodeType := .terminalNode, parentNodeId := some "start" }]

theorem startPadding_not_immaterial : ¬ Immaterial childGraph startPadding := by
  rintro ⟨hiff, -⟩
  obtain ⟨graph, hpadded⟩ := hiff.mpr ⟨childGraph, by decide⟩
  have hrejected : (startPadding.graph childGraph).validate.toOption = none := by decide
  rw [hpadded] at hrejected
  exact absurd hrejected (by simp [Except.toOption])

end Accepted

end NovaHarness.IdPadding
