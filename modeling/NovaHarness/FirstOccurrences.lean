import Mathlib.Data.List.Find

namespace NovaHarness.FirstOccurrences

variable {α : Type} [DecidableEq α]

theorem find?_filter_ne {p : α → Bool} {a : α} (ha : p a = false) (xs : List α) :
    (xs.filter fun b => !b == a).find? p = xs.find? p := by
  rw [List.find?_filter]
  apply List.find?_congr
  intro b _
  by_cases hb : b = a
  · simp [hb, ha]
  · simp [hb]

theorem find?_eraseDups (p : α → Bool) (xs : List α) : xs.eraseDups.find? p = xs.find? p := by
  -- The tail of `xs.eraseDups` starts from a shorter list than the tail of `xs`.
  induction hn : xs.length using Nat.strong_induction_on generalizing xs with
  | _ n ih =>
      cases xs with
      | nil => rfl
      | cons a xs =>
          rw [List.eraseDups_cons]
          cases hp : p a with
          | true => rw [List.find?_cons_of_pos hp, List.find?_cons_of_pos hp]
          | false =>
              have hshorter : (xs.filter fun b => !b == a).length < n := by
                have hle := List.length_filter_le (fun b => !b == a) xs
                rw [← hn, List.length_cons]
                omega
              rw [List.find?_cons_of_neg (by simp [hp]), List.find?_cons_of_neg (by simp [hp]),
                ih _ hshorter _ rfl, find?_filter_ne hp]

theorem eraseDups_eq_of_find? {xs ys : List α}
    (h : ∀ p : α → Bool, xs.find? p = ys.find? p) : xs.eraseDups = ys.eraseDups := by
  induction hn : xs.length using Nat.strong_induction_on generalizing xs ys with
  | _ n ih =>
      have hfirst := h fun _ => true
      cases xs with
      | nil =>
          cases ys with
          | nil => rfl
          | cons b ys => simp at hfirst
      | cons a xs =>
          cases ys with
          | nil => simp at hfirst
          | cons b ys =>
              obtain rfl : a = b := by simpa using hfirst
              have hshorter : (xs.filter fun b => !b == a).length < n := by
                have hle := List.length_filter_le (fun b => !b == a) xs
                rw [← hn, List.length_cons]
                omega
              rw [List.eraseDups_cons, List.eraseDups_cons]
              refine congrArg (a :: ·) (ih _ hshorter (fun p => ?_) rfl)
              have hrest : ((a :: xs).filter fun b => !b == a).find? p =
                  ((a :: ys).filter fun b => !b == a).find? p := by
                rw [List.find?_filter, List.find?_filter, h]
              simpa using hrest

/-- Two lists have the same first occurrences in the same order exactly when
looking for any of some elements finds the same in both. -/
theorem eraseDups_eq_iff {xs ys : List α} :
    xs.eraseDups = ys.eraseDups ↔
      ∀ zs : List α, xs.find? (fun a => decide (a ∈ zs)) = ys.find? fun a => decide (a ∈ zs) := by
  constructor
  · intro h zs
    rw [← find?_eraseDups, h, find?_eraseDups]
  · intro h
    refine eraseDups_eq_of_find? fun p => ?_
    have hp := h ((xs ++ ys).filter p)
    have hxs : xs.find? (fun a => decide (a ∈ (xs ++ ys).filter p)) = xs.find? p := by
      apply List.find?_congr
      intro a ha
      simp [ha]
    have hys : ys.find? (fun a => decide (a ∈ (xs ++ ys).filter p)) = ys.find? p := by
      apply List.find?_congr
      intro a ha
      simp [ha]
    rw [← hxs, hp, hys]

end NovaHarness.FirstOccurrences
