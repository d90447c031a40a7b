import Mathlib.Data.List.Sort

namespace NovaHarness.RankedLists

variable {α κ : Type} [LinearOrder κ] (key : α → κ)

/-- `xs.sort(key=key)`, which is stable. -/
def rank (xs : List α) : List α :=
  xs.insertionSort fun a b => key a ≤ key b

/-- `ys` is `xs` in ascending order of the key, ties in the order of `xs`. -/
structure Ranks (xs ys : List α) : Prop where
  perm : ys.Perm xs
  ascending : ys.Pairwise fun a b => key a ≤ key b
  ties : ∀ k, ys.filter (fun a => key a = k) = xs.filter (fun a => key a = k)

section Ranking

local instance isTrans_key : IsTrans α fun a b => key a ≤ key b := ⟨fun _ _ _ => le_trans⟩

local instance total_key : Std.Total fun a b : α => key a ≤ key b :=
  ⟨fun a b => le_total (key a) (key b)⟩

theorem filter_rank (xs : List α) (k : κ) :
    (rank key xs).filter (fun a => key a = k) = xs.filter (fun a => key a = k) := by
  have htie : (xs.filter (fun a => key a = k)).Pairwise fun a b => key a ≤ key b := by
    refine List.pairwise_of_forall_mem_list fun a ha b hb => ?_
    have hka : key a = k := by simpa using (List.mem_filter.mp ha).2
    have hkb : key b = k := by simpa using (List.mem_filter.mp hb).2
    rw [hka, hkb]
  have hsub : (xs.filter (fun a => key a = k)).Sublist (rank key xs) :=
    List.sublist_insertionSort htie List.filter_sublist
  have hfilter := hsub.filter (fun a => key a = k)
  rw [List.filter_filter] at hfilter
  simp only [Bool.and_self] at hfilter
  have hlen : ((rank key xs).filter (fun a => key a = k)).length =
      (xs.filter (fun a => key a = k)).length :=
    ((List.perm_insertionSort _ xs).filter _).length_eq
  exact (hfilter.eq_of_length hlen.symm).symm

theorem ranks_rank (xs : List α) : Ranks key xs (rank key xs) where
  perm := List.perm_insertionSort _ xs
  ascending := List.pairwise_insertionSort _ xs
  ties := filter_rank key xs

theorem mem_rank {a : α} {xs : List α} : a ∈ rank key xs ↔ a ∈ xs :=
  (ranks_rank key xs).perm.mem_iff

end Ranking

section Cutting

variable {key}

/-- Wherever a ranked list is cut, what is in front does not come after what is
behind. -/
theorem Ranks.le_of_mem_take_drop {xs ys : List α} (h : Ranks key xs ys) {n : Nat} {a b : α}
    (ha : a ∈ ys.take n) (hb : b ∈ ys.drop n) : key a ≤ key b := by
  have hpair := h.ascending
  rw [← List.take_append_drop n ys, List.pairwise_append] at hpair
  exact hpair.2.2 a ha b hb

/-- Elements of equal key are cut apart only in the order they came. -/
theorem Ranks.sublist_of_tie {xs ys : List α} (h : Ranks key xs ys) {n : Nat} {a b : α}
    (ha : a ∈ ys.take n) (hb : b ∈ ys.drop n) (htie : key a = key b) :
    [a, b].Sublist xs := by
  have hsplit : [a, b].Sublist (ys.take n ++ ys.drop n) :=
    (List.singleton_sublist.mpr ha).append (List.singleton_sublist.mpr hb)
  rw [List.take_append_drop] at hsplit
  have hfilter := hsplit.filter fun c => key c = key b
  rw [h.ties] at hfilter
  have hboth : [a, b].filter (fun c => key c = key b) = [a, b] := by simp [htie]
  rw [hboth] at hfilter
  exact hfilter.trans List.filter_sublist

theorem Ranks.length_eq {xs ys : List α} (h : Ranks key xs ys) : ys.length = xs.length :=
  h.perm.length_eq

end Cutting

end NovaHarness.RankedLists
