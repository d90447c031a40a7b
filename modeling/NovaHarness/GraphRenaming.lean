import NovaHarness.IdPadding
import NovaHarness.Revalidation

namespace NovaHarness.GraphRenaming

open NovaHarness.Text
open NovaHarness.RecordValidation
open NovaHarness.LinkWalks
open NovaHarness.SessionGraphSchema
open NovaHarness.SessionGraphSchema.MultiAgentSessionGraph
open NovaHarness.SessionGraphReferences
open NovaHarness.IdPadding
open NovaHarness.Revalidation

section Records

variable (rename : String → String)

/-- An empty `parent_node_id` stays empty. -/
def renamedParent (parentId : String) : String :=
  if parentId = "" then parentId else rename parentId

def renamedNode (n : SessionGraphNode) : SessionGraphNode :=
  { n with
    nodeId := rename n.nodeId
    parentNodeId := n.parentNodeId.map (renamedParent rename) }

def renamedEdge (e : SessionGraphEdge) : SessionGraphEdge :=
  { e with
    fromNodeId := rename e.fromNodeId
    toNodeId := rename e.toNodeId }

def renamedBranch (b : BranchStateRecord) : BranchStateRecord :=
  { b with
    entryNodeId := rename b.entryNodeId
    branchNodeIds := b.branchNodeIds.map rename
    activeNodeIds := b.activeNodeIds.map rename
    completedNodeIds := b.completedNodeIds.map rename
    failedNodeIds := b.failedNodeIds.map rename }

def renamedJoin (j : JoinStateRecord) : JoinStateRecord :=
  { j with
    joinNodeId := rename j.joinNodeId
    incomingNodeIds := j.incomingNodeIds.map rename
    completedIncomingIds := j.completedIncomingIds.map rename }

def renamedCheckpoint (cp : GraphCheckpointRecord) : GraphCheckpointRecord :=
  { cp with
    activeNodeIds := cp.activeNodeIds.map rename
    waitingNodeIds := cp.waitingNodeIds.map rename
    blockedNodeIds := cp.blockedNodeIds.map rename }

def renamed (graph : MultiAgentSessionGraph) : MultiAgentSessionGraph where
  metadata :=
    { graph.metadata with
      entryNodeId := rename graph.metadata.entryNodeId
      terminalNodeIds := graph.metadata.terminalNodeIds.map rename }
  nodes := graph.nodes.map (renamedNode rename)
  edges := graph.edges.map (renamedEdge rename)
  branches := graph.branches.map (renamedBranch rename)
  joins := graph.joins.map (renamedJoin rename)
  checkpoints := graph.checkpoints.map (renamedCheckpoint rename)

@[simp] theorem nodeIds_renamed (graph : MultiAgentSessionGraph) :
    (renamed rename graph).nodeIds = graph.nodeIds.map rename := by
  simp [nodeIds, renamed, renamedNode, Function.comp_def]

@[simp] theorem edgeIds_renamed (graph : MultiAgentSessionGraph) :
    (renamed rename graph).edgeIds = graph.edgeIds := by
  simp [edgeIds, renamed, renamedEdge, Function.comp_def]

theorem mem_nodeIds_renamed {graph : MultiAgentSessionGraph} {id : String}
    (hid : id ∈ graph.nodeIds) : rename id ∈ (renamed rename graph).nodeIds := by
  rw [nodeIds_renamed]
  exact List.mem_map_of_mem hid

theorem forall_mem_nodeIds_renamed {graph : MultiAgentSessionGraph} {ids : List String}
    (hids : ∀ id ∈ ids, id ∈ graph.nodeIds) :
    ∀ id ∈ ids.map rename, id ∈ (renamed rename graph).nodeIds :=
  List.forall_mem_map.mpr fun id hid => mem_nodeIds_renamed rename (hids id hid)

end Records

/-- The new ids of the nodes are as a validator leaves them. -/
def KeepsClean (rename : String → String) (graph : MultiAgentSessionGraph) : Prop :=
  ∀ id ∈ graph.nodeIds, ¬ IsBlank (rename id) ∧ strip (rename id) = rename id

instance (rename : String → String) (graph : MultiAgentSessionGraph) :
    Decidable (KeepsClean rename graph) :=
  inferInstanceAs (Decidable (∀ id ∈ graph.nodeIds, ¬ IsBlank (rename id) ∧
    strip (rename id) = rename id))

section Accepted

variable {rename : String → String} {graph : MultiAgentSessionGraph} (hids : graph.IdsValid)
  (hclean : KeepsClean rename graph)

include hclean

theorem KeepsClean.ne_empty {id : String} (hid : id ∈ graph.nodeIds) : rename id ≠ "" := by
  intro hempty
  apply (hclean id hid).1
  rw [hempty]
  decide

theorem KeepsClean.nonEmpty_renamed {parentId : Option String}
    (hparent : ∀ p ∈ nonEmpty parentId, p ∈ graph.nodeIds) :
    nonEmpty (parentId.map (renamedParent rename)) = (nonEmpty parentId).map rename := by
  rcases parentId with _ | id
  · rfl
  · by_cases hid : id = ""
    · subst hid
      rfl
    · have hsome : nonEmpty (some id) = some id := by simp [nonEmpty, hid]
      have hne := hclean.ne_empty (hparent id hsome)
      rw [hsome]
      simp [nonEmpty, renamedParent, hid, hne]

include hids

theorem partsAccepted_renamed (hparts : graph.PartsAccepted) :
    (renamed rename graph).PartsAccepted := by
  refine ⟨?_, List.forall_mem_map.mpr fun n hn => ?_, List.forall_mem_map.mpr fun e he => ?_,
    List.forall_mem_map.mpr fun b hb => ?_, List.forall_mem_map.mpr fun j hj => ?_,
    List.forall_mem_map.mpr fun cp hcp => ?_⟩
  · obtain ⟨hgraph, hsession, -⟩ := (metadata_accepted_iff _).mp hparts.metadata
    exact (metadata_accepted_iff _).mpr ⟨hgraph, hsession, (hclean _ hids.entry).1⟩
  · exact (node_accepted_iff _).mpr (hclean _ (List.mem_map_of_mem hn)).1
  · obtain ⟨hfrom, hto⟩ := hids.endpoints e he
    obtain ⟨hedgeId, -⟩ := (edge_accepted_iff e).mp (hparts.edges e he)
    exact (edge_accepted_iff _).mpr ⟨hedgeId, hclean.ne_empty hfrom, hclean.ne_empty hto⟩
  · obtain ⟨hbranchId, -⟩ := (branch_accepted_iff b).mp (hparts.branches b hb)
    exact (branch_accepted_iff _).mpr ⟨hbranchId, hclean.ne_empty (hids.branches b hb).1⟩
  · obtain ⟨hjoinId, -, hbounds⟩ := (join_accepted_iff j).mp (hparts.joins j hj)
    refine (join_accepted_iff _).mpr ⟨hjoinId, hclean.ne_empty (hids.joins j hj).1, ?_⟩
    simpa [renamedJoin] using hbounds
  · simpa [GraphCheckpointRecord.validate, renamedCheckpoint] using hparts.checkpoints cp hcp

/-- What the validators strip is stripped already. -/
theorem strippedIds_renamed (hstripped : strippedIds graph = graph) :
    strippedIds (renamed rename graph) = renamed rename graph := by
  have hcommutes : strippedIds (renamed rename graph) = renamed rename (strippedIds graph) := by
    have hnodeIds : ∀ n ∈ graph.nodes, strip n.nodeId = n.nodeId := by
      have hnodes := congrArg MultiAgentSessionGraph.nodeIds hstripped
      simpa [nodeIds, strippedIds, Function.comp_def] using hnodes
    have hentry : strip graph.metadata.entryNodeId = graph.metadata.entryNodeId :=
      congrArg (·.metadata.entryNodeId) hstripped
    simp only [strippedIds, renamed, List.map_map, MultiAgentSessionGraph.mk.injEq, hentry,
      (hclean _ hids.entry).2, true_and]
    refine ⟨List.map_congr_left fun n hn => ?_, List.map_congr_left fun e _ => rfl,
      List.map_congr_left fun b _ => rfl, List.map_congr_left fun j _ => rfl,
      List.map_congr_left fun cp _ => rfl⟩
    simp only [Function.comp_apply, renamedNode, hnodeIds n hn,
      (hclean _ (List.mem_map_of_mem hn)).2]
  rw [hcommutes, hstripped]

/-- References lead to the renamed nodes, so only the nodes themselves can clash. -/
theorem idsValid_renamed (hnodup : (graph.nodeIds.map rename).Nodup) :
    (renamed rename graph).IdsValid := by
  refine ⟨?_, List.forall_mem_map.mpr fun n hn => ?_, ?_, List.forall_mem_map.mpr fun e he => ?_,
    List.forall_mem_map.mpr fun b hb => ?_, List.forall_mem_map.mpr fun j hj => ?_, ?_,
    mem_nodeIds_renamed rename hids.entry, List.forall_mem_map.mpr hids.checkpoints⟩
  · rwa [nodeIds_renamed]
  · intro p hp
    change p ∈ nonEmpty (n.parentNodeId.map (renamedParent rename)) at hp
    rw [hclean.nonEmpty_renamed (hids.parents n hn)] at hp
    obtain ⟨q, hq, rfl⟩ := Option.map_eq_some_iff.mp hp
    exact mem_nodeIds_renamed rename (hids.parents n hn q hq)
  · rw [edgeIds_renamed]
    exact hids.edgeIds
  · obtain ⟨hfrom, hto⟩ := hids.endpoints e he
    exact ⟨mem_nodeIds_renamed rename hfrom, mem_nodeIds_renamed rename hto⟩
  · obtain ⟨hentry, hbranch⟩ := hids.branches b hb
    exact ⟨mem_nodeIds_renamed rename hentry, forall_mem_nodeIds_renamed rename hbranch⟩
  · obtain ⟨hjoin, hincoming⟩ := hids.joins j hj
    exact ⟨mem_nodeIds_renamed rename hjoin, forall_mem_nodeIds_renamed rename hincoming⟩
  · obtain ⟨n, hn, htype⟩ := hids.terminal
    exact ⟨renamedNode rename n, List.mem_map_of_mem hn, htype⟩

theorem idsValid_renamed_iff :
    (renamed rename graph).IdsValid ↔ Set.InjOn rename {id | id ∈ graph.nodeIds} := by
  have hnodup : (graph.nodeIds.map rename).Nodup ↔ Set.InjOn rename {id | id ∈ graph.nodeIds} :=
    List.nodup_map_iff_inj_on hids.nodeIds
  constructor
  · intro h
    apply hnodup.mp
    rw [← nodeIds_renamed]
    exact h.nodeIds
  · intro hinj
    exact idsValid_renamed hids hclean (hnodup.mpr hinj)

theorem parentOf_renamed (hinj : Set.InjOn rename {id | id ∈ graph.nodeIds}) {id : String}
    (hid : id ∈ graph.nodeIds) :
    parentOf (renamed rename graph) (rename id) = (parentOf graph id).map rename := by
  have hfind : (graph.nodes.map (renamedNode rename)).find? (fun n => n.nodeId = rename id) =
      (graph.nodes.find? fun n => n.nodeId = id).map (renamedNode rename) := by
    rw [List.find?_map]
    congr 1
    rw [← List.head?_filter, ← List.head?_filter]
    congr 1
    apply List.filter_congr
    intro n hn
    exact decide_eq_decide.mpr (hinj.eq_iff (List.mem_map_of_mem hn) hid)
  rw [parentOf, parentOf, renamed, hfind]
  rcases hnode : graph.nodes.find? (fun n => n.nodeId = id) with _ | n
  · rw [hnode]
    rfl
  · rw [hnode]
    exact hclean.nonEmpty_renamed (hids.parents n (List.mem_of_find?_eq_some hnode))

theorem isForest_renamed_iff (hinj : Set.InjOn rename {id | id ∈ graph.nodeIds}) :
    IsForest (renamed rename graph) ↔ IsForest graph := by
  have hclosed := parentOf_closed hids
  have hlink : ∀ id ∈ graph.nodeIds.toFinset,
      parentOf (renamed rename graph) (rename id) = (parentOf graph id).map rename :=
    fun id hid => parentOf_renamed hids hclean hinj (List.mem_toFinset.mp hid)
  have hapart : Set.InjOn rename graph.nodeIds.toFinset := by
    simpa only [List.coe_toFinset] using hinj
  have hstart : ∀ n ∈ graph.nodes, n.nodeId ∈ graph.nodeIds.toFinset :=
    fun n hn => List.mem_toFinset.mpr (List.mem_map_of_mem hn)
  have hlength : (renamed rename graph).nodes.length = graph.nodes.length := List.length_map _
  rw [IsForest, IsForest, hlength]
  apply and_congr
  · refine List.forall_mem_map.trans (forall₂_congr fun n hn => ?_)
    exact endsWithin_rename hclosed hlink (hstart n hn) _
  · refine List.forall_mem_map.trans (forall₂_congr fun n hn => ?_)
    exact not_congr (onCycle_rename hclosed hlink hapart (hstart n hn))

end Accepted

/-- A graph whose nodes are renamed throughout is accepted, as it is, exactly when
the new ids keep different nodes apart, and then its parent links are a forest if
they were one before. -/
theorem renaming_faithful (graph : Accepted MultiAgentSessionGraph) (rename : String → String)
    (hclean : KeepsClean rename graph.1) :
    (∀ out, (renamed rename graph.1).validate = .ok out ↔
      Set.InjOn rename {id | id ∈ graph.1.nodeIds} ∧ renamed rename graph.1 = out) ∧
    (Set.InjOn rename {id | id ∈ graph.1.nodeIds} →
      (IsForest (renamed rename graph.1) ↔ IsForest graph.1)) := by
  have hids := idsValid graph
  have hagain := stable_multiAgentSessionGraph.of_accepted (fun _ _ => by rfl) graph
  obtain ⟨hparts, -, hstripped⟩ := (validate_eq_ok_iff graph.1).mp hagain
  refine ⟨fun out => ?_, isForest_renamed_iff hids hclean⟩
  rw [validate_eq_ok_iff, strippedIds_renamed hids hclean hstripped,
    idsValid_renamed_iff hids hclean]
  constructor
  · rintro ⟨-, hinj, hout⟩
    exact ⟨hinj, hout⟩
  · rintro ⟨hinj, hout⟩
    exact ⟨partsAccepted_renamed hids hclean hparts, hinj, hout⟩

/-- Two runs, one inside the other. -/
def nestedGraph : Accepted MultiAgentSessionGraph :=
  build
    { metadata :=
        { graphId := "g-1", sessionId := "s-1", entryNodeId := "start",
          terminalNodeIds := ["end"] }
      nodes :=
        [{ nodeId := "start", nodeType := .parentRun },
          { nodeId := "end", nodeType := .terminalNode, parentNodeId := some "start" }]
      edges := [{ edgeId := "e-1", fromNodeId := "start", toNodeId := "end" }] }
    (by decide)

/-- Ids with a prefix stay apart; one new id for all nodes is refused. -/
theorem renaming_faithful_nestedGraph :
    (renamed ("sub-" ++ ·) nestedGraph.1).validate = .ok (renamed ("sub-" ++ ·) nestedGraph.1) ∧
      (IsForest (renamed ("sub-" ++ ·) nestedGraph.1) ↔ IsForest nestedGraph.1) ∧
      (renamed (fun _ => "n") nestedGraph.1).validate.toOption = none := by
  have hclean : KeepsClean ("sub-" ++ ·) nestedGraph.1 := by decide
  have hinj : Set.InjOn ("sub-" ++ ·) {id | id ∈ nestedGraph.1.nodeIds} := by
    intro a _ b _ h
    simpa using h
  obtain ⟨haccepted, hforest⟩ := renaming_faithful nestedGraph ("sub-" ++ ·) hclean
  exact ⟨(haccepted _).mpr ⟨hinj, rfl⟩, hforest hinj, by decide⟩

end NovaHarness.GraphRenaming
