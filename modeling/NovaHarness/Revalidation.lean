import NovaHarness.SessionGraphSchema
import NovaHarness.TaskScopePaths

namespace NovaHarness.Revalidation

open NovaHarness.Text
open NovaHarness.RecordValidation
open NovaHarness.TaskContractSchema
open NovaHarness.TaskScopePaths
open NovaHarness.SessionGraphSchema

section Contracts

/-- The loop keeps a list of entries that has nothing left to strip or drop. -/
theorem validateSubpaths_eq_self {seen entries : List String}
    (hentries : ∀ entry ∈ entries, IsRelativeSubpath entry) (hnodup : entries.Nodup)
    (hfresh : ∀ entry ∈ entries, entry ∉ seen) :
    TaskScope.validateSubpaths seen entries = .ok entries := by
  induction entries generalizing seen with
  | nil => rfl
  | cons entry rest ih =>
      obtain ⟨⟨hne, hstrip, hup⟩, hrelative⟩ := hentries entry List.mem_cons_self
      obtain ⟨hother, hnodup⟩ := List.nodup_cons.mp hnodup
      have hpath : ¬ (entry.toList.head? = some '/' ∨ contains entry ".." = true) := by
        rw [not_or, contains, decide_eq_true_eq]
        exact ⟨hrelative, hup⟩
      have hrest : TaskScope.validateSubpaths (entry :: seen) rest = .ok rest := by
        refine ih (fun e he => hentries e (List.mem_cons_of_mem _ he)) hnodup ?_
        intro e he hseen
        rcases List.mem_cons.mp hseen with rfl | hseen
        · exact hother he
        · exact hfresh e (List.mem_cons_of_mem _ he) hseen
      simp only [TaskScope.validateSubpaths, hstrip]
      rw [if_neg hne, if_neg hpath, if_neg (hfresh entry List.mem_cons_self), hrest]
      rfl

theorem validateSubpaths_cleanedPaths {loc : String} {items : List String}
    (h : TaskScope.subpathErrors loc items = []) :
    TaskScope.validateSubpaths [] (TaskScope.cleanedPaths items) =
      .ok (TaskScope.cleanedPaths items) := by
  obtain ⟨hstored, hentries⟩ := stored_of_subpathErrors_eq_nil h
  exact validateSubpaths_eq_self hentries hstored.nodup (by simp)

theorem cleanedPaths_cleanedPaths {loc : String} {items : List String}
    (h : TaskScope.subpathErrors loc items = []) :
    TaskScope.cleanedPaths (TaskScope.cleanedPaths items) = TaskScope.cleanedPaths items := by
  unfold TaskScope.cleanedPaths
  exact congrArg (fun v => v.toOption.getD []) (validateSubpaths_cleanedPaths h)

theorem subpathErrors_cleanedPaths {loc : String} {items : List String}
    (h : TaskScope.subpathErrors loc items = []) :
    TaskScope.subpathErrors loc (TaskScope.cleanedPaths items) = [] := by
  unfold TaskScope.subpathErrors
  rw [validateSubpaths_cleanedPaths h]

/-- The tables only serve to quote values in a complaint. -/
theorem taskScope_revalidates {tables : UnicodeTables} {raw scope : TaskScope}
    (h : raw.validate tables = .ok scope) (tables' : UnicodeTables) :
    scope.validate tables' = .ok scope := by
  obtain ⟨⟨hrepo, hallowed, hblocked⟩, hoverlap, rfl⟩ :=
    (TaskScope.validate_eq_ok tables raw scope).mp h
  refine (TaskScope.validate_eq_ok tables' _ _).mpr ⟨⟨?_, ?_, ?_⟩, hoverlap, ?_⟩
  · rwa [TaskScope.normalized, isBlank_strip]
  · exact subpathErrors_cleanedPaths hallowed
  · exact subpathErrors_cleanedPaths hblocked
  · simp only [TaskScope.normalized, strip_strip, cleanedPaths_cleanedPaths hallowed,
      cleanedPaths_cleanedPaths hblocked]

theorem stable_taskConstraints : Stable TaskConstraints.validate :=
  stable_fields (fun _ h => h) (fun _ => rfl)

theorem taskContract_revalidates {tables : UnicodeTables} {raw contract : TaskContract}
    (h : raw.validate tables = .ok contract) (tables' : UnicodeTables) :
    contract.validate tables' = .ok contract := by
  obtain ⟨⟨htitle, hgoal, ⟨scope, hscope⟩, ⟨constraints, hconstraints⟩, htools, hcriteria⟩,
    htests, hgate, rfl⟩ := (TaskContract.validate_eq_ok tables raw contract).mp h
  have hscope' := taskScope_revalidates hscope tables'
  have hconstraints' := stable_taskConstraints _ _ hconstraints
  refine (TaskContract.validate_eq_ok tables' _ _).mpr
    ⟨⟨?_, ?_, ⟨scope, ?_⟩, ⟨constraints, ?_⟩, htools, hcriteria⟩, htests, hgate, ?_⟩
  · rw [TaskContract.normalized, isBlank_strip]
    exact htitle
  · rw [TaskContract.normalized, isBlank_strip]
    exact hgoal
  · rw [TaskContract.normalized, hscope, valueD_ok]
    exact hscope'
  · rw [TaskContract.normalized, hconstraints, valueD_ok]
    exact hconstraints'
  · simp only [TaskContract.normalized, strip_strip, hscope, hconstraints, hscope',
      hconstraints', valueD_ok]

end Contracts

section Graphs

theorem stable_sessionGraphMetadata : Stable SessionGraphMetadata.validate :=
  stable_fields (by simp) (by simp [strip_strip])

theorem stable_sessionGraphNode : Stable SessionGraphNode.validate :=
  stable_fields (by simp) (by simp [strip_strip])

theorem stable_sessionGraphEdge : Stable SessionGraphEdge.validate :=
  stable_fields (by simp) (by simp [strip_strip])

theorem stable_branchStateRecord : Stable BranchStateRecord.validate :=
  stable_fields (by simp) (by simp [strip_strip])

theorem stable_graphCheckpointRecord : Stable GraphCheckpointRecord.validate :=
  stable_fields (by simp) (by simp [strip_strip])

theorem stable_joinStateRecord : Stable JoinStateRecord.validate := by
  intro raw join h
  rw [JoinStateRecord.validate_eq_ok] at h ⊢
  obtain ⟨⟨hid, hrest⟩, rfl⟩ := h
  exact ⟨⟨by rwa [isBlank_strip], hrest⟩, by rw [strip_strip]⟩

variable {raw : MultiAgentSessionGraph}

theorem partsAccepted_normalized (h : raw.PartsAccepted) : raw.normalized.PartsAccepted := by
  obtain ⟨⟨metadata, hmetadata⟩, hnodes, hedges, hbranches, hjoins, hcheckpoints⟩ := h
  have hagain := stable_sessionGraphMetadata _ _ hmetadata
  refine ⟨⟨metadata, ?_⟩, fun n hn => ⟨n, ?_⟩, fun e he => ⟨e, ?_⟩, fun b hb => ⟨b, ?_⟩,
    fun j hj => ⟨j, ?_⟩, fun cp hcp => ⟨cp, ?_⟩⟩
  · rwa [MultiAgentSessionGraph.normalized, hmetadata, valueD_ok]
  · exact stable_sessionGraphNode.mem_listValues hnodes n hn
  · exact stable_sessionGraphEdge.mem_listValues hedges e he
  · exact stable_branchStateRecord.mem_listValues hbranches b hb
  · exact stable_joinStateRecord.mem_listValues hjoins j hj
  · exact stable_graphCheckpointRecord.mem_listValues hcheckpoints cp hcp

theorem normalized_normalized (h : raw.PartsAccepted) :
    raw.normalized.normalized = raw.normalized := by
  obtain ⟨⟨metadata, hmetadata⟩, hnodes, hedges, hbranches, hjoins, hcheckpoints⟩ := h
  simp only [MultiAgentSessionGraph.normalized, hmetadata, valueD_ok,
    stable_sessionGraphMetadata _ _ hmetadata,
    stable_sessionGraphNode.listValues_listValues hnodes,
    stable_sessionGraphEdge.listValues_listValues hedges,
    stable_branchStateRecord.listValues_listValues hbranches,
    stable_joinStateRecord.listValues_listValues hjoins,
    stable_graphCheckpointRecord.listValues_listValues hcheckpoints]

theorem stable_multiAgentSessionGraph : Stable MultiAgentSessionGraph.validate := by
  intro raw graph h
  obtain ⟨hparts, hids, rfl⟩ := (MultiAgentSessionGraph.validate_eq_ok raw graph).mp h
  exact (MultiAgentSessionGraph.validate_eq_ok _ _).mpr
    ⟨partsAccepted_normalized hparts, hids, normalized_normalized hparts⟩

end Graphs

/-- Construction from the fields of an accepted contract or graph gives the same
record again. -/
theorem revalidation_is_identity (contract : Accepted TaskContract)
    (graph : Accepted MultiAgentSessionGraph) (tables : UnicodeTables) :
    contract.1.validate tables = .ok contract.1 ∧ graph.1.validate = .ok graph.1 := by
  obtain ⟨_, raw, h⟩ := contract.2
  exact ⟨taskContract_revalidates h tables,
    stable_multiAgentSessionGraph.of_accepted (fun _ _ => by rfl) graph⟩

end NovaHarness.Revalidation
