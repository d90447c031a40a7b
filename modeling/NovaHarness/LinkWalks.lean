import Mathlib.Algebra.Order.Group.Nat
import Mathlib.Data.Finset.Card

namespace NovaHarness.LinkWalks

variable {α : Type} (link : α → Option α)

/-- Where the walk from an element stands after some steps, unless it ended
before. -/
def climb : Nat → α → Option α
  | 0, a => some a
  | n + 1, a => (link a).bind (climb n)

/-- The walk ends, at an element without a link, in at most `n` steps. -/
def EndsWithin (n : Nat) (a : α) : Prop :=
  ∃ k ≤ n, ∃ r ∈ climb link k a, link r = none

/-- Some steps lead back to where the walk started. -/
def OnCycle (a : α) : Prop :=
  ∃ k, 0 < k ∧ climb link k a = some a

/-- The walk visits nothing twice. -/
def NeverReturns (a : α) : Prop :=
  ∀ i j, i < j → ∀ b ∈ climb link i a, b ∉ climb link j a

section Steps

variable {link}

theorem climb_add (i j : Nat) (a : α) :
    climb link (i + j) a = (climb link i a).bind (climb link j) := by
  induction i generalizing a with
  | zero => rw [Nat.zero_add]; rfl
  | succ i ih =>
      rw [Nat.succ_add]
      show (link a).bind (climb link (i + j)) = ((link a).bind (climb link i)).bind (climb link j)
      rw [Option.bind_assoc]
      congr 1
      funext b
      exact ih b

theorem climb_succ (n : Nat) (a : α) :
    climb link (n + 1) a = (climb link n a).bind link := by
  rw [climb_add]
  congr 1
  funext b
  show (link b).bind some = link b
  exact Option.bind_fun_some (link b)

theorem climb_mul_of_cycle {k : Nat} {a : α} (h : climb link k a = some a) (n : Nat) :
    climb link (n * k) a = some a := by
  induction n with
  | zero => rw [Nat.zero_mul]; rfl
  | succ n ih => rw [Nat.succ_mul, climb_add, ih, Option.bind_some, h]

theorem climb_eq_none_of_le {i j : Nat} {a : α} (hij : i ≤ j) (h : climb link i a = none) :
    climb link j a = none := by
  obtain ⟨d, rfl⟩ := Nat.exists_eq_add_of_le hij
  rw [climb_add, h, Option.bind_none]

/-- What a walk visits twice is on a cycle. -/
theorem onCycle_of_revisit {i j : Nat} {a b : α} (hij : i < j) (hi : climb link i a = some b)
    (hj : climb link j a = some b) : OnCycle link b := by
  refine ⟨j - i, by omega, ?_⟩
  rw [show j = i + (j - i) by omega, climb_add, hi] at hj
  exact hj

theorem neverReturns_iff (a : α) :
    NeverReturns link a ↔ ∀ k, ∀ m ∈ climb link k a, ¬ OnCycle link m := by
  constructor
  · rintro h k m hm ⟨j, hj, hcycle⟩
    refine h k (k + j) (by omega) m hm ?_
    rw [climb_add, hm, Option.bind_some]
    exact hcycle
  · exact fun h i j hij b hi hj => h i b hi (onCycle_of_revisit hij hi hj)

theorem mem_of_climb {S : Finset α} (hS : ∀ a ∈ S, ∀ b ∈ link a, b ∈ S) {n : Nat} {a b : α}
    (ha : a ∈ S) (hb : climb link n a = some b) : b ∈ S := by
  induction n generalizing a with
  | zero => exact Option.some.inj hb ▸ ha
  | succ n ih =>
      obtain ⟨c, hc, hcb⟩ := Option.bind_eq_some_iff.mp hb
      exact ih (hS a ha c hc) hcb

end Steps

section Finite

variable {link} {S : Finset α}

/-- A walk that goes on for more steps than there are elements comes back. -/
theorem exists_cycle_of_long (hS : ∀ a ∈ S, ∀ b ∈ link a, b ∈ S) {a : α} (ha : a ∈ S)
    (hlong : climb link S.card a ≠ none) :
    ∃ k ≤ S.card, ∃ m ∈ climb link k a, OnCycle link m := by
  have hdefined : ∀ k ∈ Finset.range (S.card + 1), climb link k a ≠ none := by
    intro k hk hnone
    apply hlong
    apply climb_eq_none_of_le _ hnone
    have := Finset.mem_range.mp hk
    omega
  have hmaps : ∀ k ∈ Finset.range (S.card + 1), (climb link k a).getD a ∈ S := by
    intro k hk
    obtain ⟨b, hb⟩ := Option.ne_none_iff_exists'.mp (hdefined k hk)
    rw [hb]
    exact mem_of_climb hS ha hb
  obtain ⟨i, hi, j, hj, hne, heq⟩ := Finset.exists_ne_map_eq_of_card_lt_of_maps_to
    (by rw [Finset.card_range]; omega) hmaps
  obtain ⟨b, hb⟩ := Option.ne_none_iff_exists'.mp (hdefined i hi)
  obtain ⟨c, hc⟩ := Option.ne_none_iff_exists'.mp (hdefined j hj)
  obtain rfl : b = c := by simpa [hb, hc] using heq
  have hbound : i ≤ S.card := by
    have := Finset.mem_range.mp hi
    omega
  rcases Nat.lt_or_gt_of_ne hne with hij | hij
  · exact ⟨i, hbound, b, hb, onCycle_of_revisit hij hb hc⟩
  · exact ⟨i, hbound, b, hb, onCycle_of_revisit hij hc hb⟩

/-- Inside a finite set the walk from an element ends or comes back. -/
theorem endsWithin_or_cycle (hS : ∀ a ∈ S, ∀ b ∈ link a, b ∈ S) {a : α} (ha : a ∈ S) :
    EndsWithin link S.card a ∨ ∃ k ≤ S.card, ∃ m ∈ climb link k a, OnCycle link m := by
  by_cases hends : EndsWithin link S.card a
  · exact Or.inl hends
  · have hgoes : ∀ k ≤ S.card, climb link k a ≠ none := by
      intro k hk
      induction k with
      | zero => exact Option.some_ne_none a
      | succ k ih =>
          obtain ⟨b, hb⟩ := Option.ne_none_iff_exists'.mp (ih (by omega))
          rw [climb_succ, hb, Option.bind_some]
          intro hnone
          exact hends ⟨k, by omega, b, hb, hnone⟩
    exact Or.inr (exists_cycle_of_long hS ha (hgoes S.card (le_refl _)))

/-- It ends exactly when nothing on it is on a cycle. -/
theorem endsWithin_iff (hS : ∀ a ∈ S, ∀ b ∈ link a, b ∈ S) {a : α} (ha : a ∈ S) :
    EndsWithin link S.card a ↔ ∀ k, ∀ m ∈ climb link k a, ¬ OnCycle link m := by
  constructor
  · rintro ⟨k, -, r, hr, hend⟩ i m hm ⟨j, hj, hcycle⟩
    have hstop : climb link (k + 1) a = none := by
      rw [climb_succ, hr, Option.bind_some, hend]
    have hround : climb link (i + (k + 1) * j) a = some m := by
      rw [climb_add, hm, Option.bind_some, climb_mul_of_cycle hcycle]
    have hle : k + 1 ≤ i + (k + 1) * j := by
      have := Nat.le_mul_of_pos_right (k + 1) hj
      omega
    rw [climb_eq_none_of_le hle hstop] at hround
    exact absurd hround (by simp)
  · intro hacyclic
    rcases endsWithin_or_cycle hS ha with hends | ⟨k, -, m, hm, hcycle⟩
    · exact hends
    · exact absurd hcycle (hacyclic k m hm)

end Finite

section Renamed

variable {β : Type} {link : α → Option α} {link' : β → Option β} {rename : α → β} {S : Finset α}

theorem climb_rename (hS : ∀ a ∈ S, ∀ b ∈ link a, b ∈ S)
    (hlink : ∀ a ∈ S, link' (rename a) = (link a).map rename) {a : α} (ha : a ∈ S) (n : Nat) :
    climb link' n (rename a) = (climb link n a).map rename := by
  induction n generalizing a with
  | zero => rfl
  | succ n ih =>
      rw [climb, climb, hlink a ha]
      rcases hb : link a with _ | b
      · rfl
      · exact ih (hS a ha b hb)

theorem endsWithin_rename (hS : ∀ a ∈ S, ∀ b ∈ link a, b ∈ S)
    (hlink : ∀ a ∈ S, link' (rename a) = (link a).map rename) {a : α} (ha : a ∈ S) (n : Nat) :
    EndsWithin link' n (rename a) ↔ EndsWithin link n a := by
  constructor
  · rintro ⟨k, hk, r, hr, hend⟩
    rw [climb_rename hS hlink ha] at hr
    obtain ⟨b, hb, rfl⟩ := Option.map_eq_some_iff.mp hr
    rw [hlink b (mem_of_climb hS ha hb)] at hend
    exact ⟨k, hk, b, hb, Option.map_eq_none_iff.mp hend⟩
  · rintro ⟨k, hk, r, hr, hend⟩
    refine ⟨k, hk, rename r, ?_, ?_⟩
    · rw [climb_rename hS hlink ha, hr]
      rfl
    · rw [hlink r (mem_of_climb hS ha hr), hend]
      rfl

/-- Elements that keep apart are on cycles together. -/
theorem onCycle_rename (hS : ∀ a ∈ S, ∀ b ∈ link a, b ∈ S)
    (hlink : ∀ a ∈ S, link' (rename a) = (link a).map rename) (hinj : Set.InjOn rename S) {a : α}
    (ha : a ∈ S) : OnCycle link' (rename a) ↔ OnCycle link a := by
  constructor
  · rintro ⟨k, hk, hcycle⟩
    rw [climb_rename hS hlink ha] at hcycle
    obtain ⟨b, hb, hrename⟩ := Option.map_eq_some_iff.mp hcycle
    obtain rfl := hinj (mem_of_climb hS ha hb) ha hrename
    exact ⟨k, hk, hb⟩
  · rintro ⟨k, hk, hcycle⟩
    refine ⟨k, hk, ?_⟩
    rw [climb_rename hS hlink ha, hcycle]
    rfl

end Renamed

end NovaHarness.LinkWalks
