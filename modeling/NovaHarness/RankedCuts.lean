import NovaHarness.RankedLists

namespace NovaHarness.RankedCuts

open NovaHarness.RankedLists

section Order

variable {α κ : Type} [LinearOrder κ] {key : α → κ} {xs ys zs : List α}

theorem Ranks.sublist_pair (h : Ranks key xs ys) {a b : α} (hpair : [a, b].Sublist ys)
    (htie : key a = key b) : [a, b].Sublist xs := by
  have hfilter := hpair.filter fun c => key c = key b
  rw [h.ties] at hfilter
  have hboth : [a, b].filter (fun c => key c = key b) = [a, b] := by simp [htie]
  rw [hboth] at hfilter
  exact hfilter.trans List.filter_sublist

/-- Ranked by key, and by the order they came in where the keys are equal. -/
theorem Ranks.pairwise_lex (h : Ranks key xs ys) {earlier : α → α → Prop}
    (hxs : xs.Pairwise earlier) :
    ys.Pairwise fun a b => key a < key b ∨ key a = key b ∧ earlier a b := by
  rw [List.pairwise_iff_forall_sublist]
  intro a b hpair
  rcases (List.pairwise_iff_forall_sublist.mp h.ascending hpair).lt_or_eq with hlt | heq
  · exact .inl hlt
  · have hsub : [a, b].Sublist xs := Ranks.sublist_pair h hpair heq
    exact .inr ⟨heq, List.pairwise_iff_forall_sublist.mp hxs hsub⟩

theorem key_head_le {a b : α} (hys : (a :: ys).Pairwise fun a b => key a ≤ key b)
    (hb : b ∈ (a :: ys).filter fun c => key c = key b) : key a ≤ key b := by
  rcases List.mem_cons.mp (List.mem_of_mem_filter hb) with rfl | hb
  · exact le_rfl
  · exact (List.pairwise_cons.mp hys).1 b hb

/-- A list in ascending order is determined by its elements of each key. -/
theorem eq_of_filter_eq (hys : ys.Pairwise fun a b => key a ≤ key b)
    (hzs : zs.Pairwise fun a b => key a ≤ key b)
    (h : ∀ k, ys.filter (fun a => key a = k) = zs.filter fun a => key a = k) : ys = zs := by
  induction ys generalizing zs with
  | nil =>
      cases zs with
      | nil => rfl
      | cons b zs => simpa using h (key b)
  | cons a ys ih =>
      cases zs with
      | nil => simpa using h (key a)
      | cons b zs =>
          have hle : key a ≤ key b := by
            apply key_head_le hys
            rw [h]
            simp
          have hge : key b ≤ key a := by
            apply key_head_le hzs
            rw [← h]
            simp
          have hkey : key a = key b := le_antisymm hle hge
          have hhead := h (key a)
          simp only [List.filter_cons, hkey, decide_true, if_true, List.cons.injEq] at hhead
          obtain ⟨rfl, htail⟩ := hhead
          refine congrArg (a :: ·) (ih hys.of_cons hzs.of_cons fun k => ?_)
          have hk := h k
          simp only [List.filter_cons] at hk
          split at hk
          · exact (List.cons.inj hk).2
          · exact hk

theorem Ranks.eq (h : Ranks key xs ys) (h' : Ranks key xs zs) : ys = zs := by
  apply eq_of_filter_eq h.ascending h'.ascending
  intro k
  rw [h.ties, h'.ties]

theorem Ranks.filter (h : Ranks key xs ys) (p : α → Bool) :
    Ranks key (xs.filter p) (ys.filter p) where
  perm := h.perm.filter p
  ascending := h.ascending.filter p
  ties := by
    intro k
    rw [List.filter_filter, List.filter_filter]
    simp only [Bool.and_comm _ (p _)]
    rw [← List.filter_filter, ← List.filter_filter, h.ties]

theorem rank_filter (key : α → κ) (p : α → Bool) (xs : List α) :
    rank key (xs.filter p) = (rank key xs).filter p :=
  Ranks.eq (ranks_rank key _) (Ranks.filter (ranks_rank key xs) p)

end Order

section Cut

variable {α : Type} {ys : List α}

/-- Where no two elements are each ahead of the other, the front of a list is
those who have fewer than so many ahead of them. -/
theorem mem_take_iff_countP_lt {ahead : α → α → Prop} [DecidableRel ahead]
    (hasymm : ∀ a b, ahead a b → ¬ ahead b a) (hys : ys.Pairwise ahead) {a : α} (ha : a ∈ ys)
    (n : Nat) : a ∈ ys.take n ↔ ys.countP (fun b => ahead b a) < n := by
  induction ys generalizing n with
  | nil => simp at ha
  | cons b ys ih =>
      obtain ⟨hhead, htail⟩ := List.pairwise_cons.mp hys
      by_cases hab : a = b
      · subst hab
        have hnone : ys.countP (fun c => ahead c a) = 0 := by
          rw [List.countP_eq_zero]
          intro c hc
          simpa using hasymm a c (hhead c hc)
        have hself : ¬ ahead a a := fun h => hasymm a a h h
        rw [List.countP_cons_of_neg (by simpa using hself), hnone]
        cases n with
        | zero => simp
        | succ n => simp
      · have hmem : a ∈ ys := (List.mem_cons.mp ha).resolve_left hab
        rw [List.countP_cons_of_pos (by simpa using hhead a hmem)]
        cases n with
        | zero => simp
        | succ n =>
            rw [List.take_succ_cons, List.mem_cons, ih htail hmem]
            simp only [hab, false_or]
            omega

/-- Leaving out elements from behind the cut only. -/
theorem take_filter {p : α → Bool} {n : Nat} (h : ∀ a ∈ ys.take n, p a = true) :
    (ys.filter p).take n = ys.take n := by
  induction ys generalizing n with
  | nil => rfl
  | cons a ys ih =>
      cases n with
      | zero => rfl
      | succ n =>
          rw [List.take_succ_cons] at h ⊢
          rw [List.filter_cons_of_pos (h a (by simp)), List.take_succ_cons,
            ih fun b hb => h b (by simp [hb])]

theorem drop_filter {p : α → Bool} {n : Nat} (h : ∀ a ∈ ys.take n, p a = true) :
    (ys.filter p).drop n = (ys.drop n).filter p := by
  induction ys generalizing n with
  | nil => simp
  | cons a ys ih =>
      cases n with
      | zero => rfl
      | succ n =>
          rw [List.take_succ_cons] at h
          rw [List.filter_cons_of_pos (h a (by simp)), List.drop_succ_cons, List.drop_succ_cons,
            ih fun b hb => h b (by simp [hb])]

end Cut

section Exchange

variable {α κ : Type} [LinearOrder κ] {key : α → κ} {xs xs' ys ys' : List α}

/-- The keys of a ranking do not depend on the order in which its elements came. -/
theorem Ranks.map_key_eq (h : Ranks key xs ys) (h' : Ranks key xs' ys') (hperm : xs.Perm xs') :
    ys.map key = ys'.map key := by
  refine List.Perm.eq_of_pairwise (fun a b _ _ => le_antisymm) ?_ ?_ ?_
  · exact List.pairwise_map.mpr h.ascending
  · exact List.pairwise_map.mpr h'.ascending
  · exact ((h.perm.trans hperm).trans h'.perm.symm).map key

/-- What only one of two rankings of the same elements has in front of a cut is tied
with something that only the other has there. -/
theorem Ranks.exists_tie (h : Ranks key xs ys) (h' : Ranks key xs' ys') (hperm : xs.Perm xs')
    (hnodup : xs.Nodup) {n : Nat} {a : α} (ha : a ∈ ys.take n) (ha' : a ∈ ys'.drop n) :
    ∃ b ∈ ys'.take n, b ∈ ys.drop n ∧ key b = key a := by
  have hys : ys.Nodup := h.perm.nodup_iff.mpr hnodup
  have hys' : ys'.Nodup := h'.perm.nodup_iff.mpr (hperm.nodup_iff.mp hnodup)
  have hsame : ys'.Perm ys := (h'.perm.trans hperm.symm).trans h.perm.symm
  have hout : a ∉ ys'.take n := by
    rw [← List.take_append_drop n ys', List.nodup_append] at hys'
    exact fun hmem => hys'.2.2 a hmem a ha' rfl
  -- The fronts are of one length, so neither is a proper part of the other.
  have hnew : ∃ b ∈ ys'.take n, b ∉ ys.take n := by
    by_contra hnone
    push Not at hnone
    have hsub : (ys'.take n).Subperm (ys.take n) :=
      List.subperm_of_subset (hys'.sublist (List.take_sublist n ys')) hnone
    have hlength : (ys.take n).length ≤ (ys'.take n).length := by
      rw [List.length_take, List.length_take, hsame.length_eq]
    exact hout ((hsub.perm_of_length_le hlength).mem_iff.mpr ha)
  obtain ⟨b, hb, hbout⟩ := hnew
  have hmem : b ∈ ys.take n ++ ys.drop n := by
    rw [List.take_append_drop]
    exact hsame.mem_iff.mp (List.mem_of_mem_take hb)
  have hbehind : b ∈ ys.drop n := (List.mem_append.mp hmem).resolve_left hbout
  refine ⟨b, hb, hbehind, le_antisymm ?_ ?_⟩
  · exact h'.le_of_mem_take_drop hb ha'
  · exact h.le_of_mem_take_drop ha hbehind

end Exchange

section Insertion

variable {α : Type} [DecidableEq α]

/-- What comes in front of the first occurrence of an element that is put into
a list was in front of it before. -/
theorem idxOf_lt_of_insert {before after : List α} {a b : α}
    (h : (before ++ a :: after).idxOf b < (before ++ a :: after).idxOf a) :
    (before ++ after).idxOf b < (before ++ after).idxOf a := by
  by_cases ha : a ∈ before
  · rw [List.idxOf_append_of_mem ha] at h ⊢
    have hb : b ∈ before := by
      by_contra hb
      rw [List.idxOf_append_of_notMem hb] at h
      have hlt := List.idxOf_lt_length_of_mem ha
      omega
    rwa [List.idxOf_append_of_mem hb] at h ⊢
  · rw [List.idxOf_append_of_notMem ha, List.idxOf_cons_self] at h
    have hb : b ∈ before := by
      by_contra hb
      rw [List.idxOf_append_of_notMem hb] at h
      omega
    rw [List.idxOf_append_of_mem hb] at h ⊢
    rw [List.idxOf_append_of_notMem ha]
    have hlt := List.idxOf_lt_length_of_mem hb
    omega

end Insertion

end NovaHarness.RankedCuts
