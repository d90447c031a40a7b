import Mathlib.Data.List.Basic

namespace NovaHarness.DelimitedCodes

variable {α β γ : Type}

/-- Texts that are the same begin with the same word. -/
def SelfDelimiting (code : α → List β) : Prop :=
  ∀ ⦃a b : α⦄ ⦃x y : List β⦄, code a ++ x = code b ++ y → a = b

namespace SelfDelimiting

section Words

variable {code : α → List β} (h : SelfDelimiting code)

include h

theorem append_inj {a b : α} {x y : List β} (heq : code a ++ x = code b ++ y) :
    a = b ∧ x = y := by
  obtain rfl := h heq
  exact ⟨rfl, List.append_cancel_left heq⟩

theorem injective : Function.Injective code := by
  intro a b heq
  exact h (congrArg (· ++ []) heq)

theorem behind (w : List β) : SelfDelimiting fun a => w ++ code a := by
  intro a b x y heq
  simp only [List.append_assoc] at heq
  exact h (List.append_cancel_left heq)

theorem before (w : List β) : SelfDelimiting fun a => code a ++ w := by
  intro a b x y heq
  simp only [List.append_assoc] at heq
  exact h heq

theorem pair {code' : γ → List β} (h' : SelfDelimiting code') :
    SelfDelimiting fun p : α × γ => code p.1 ++ code' p.2 := by
  rintro ⟨a, c⟩ ⟨b, d⟩ x y heq
  simp only [List.append_assoc] at heq
  obtain ⟨rfl, hrest⟩ := h.append_inj heq
  obtain rfl := h' hrest
  rfl

/-- Words up to a stop that no word begins with. -/
theorem flatMap_stop {stop : List β} (hstop : ∀ a x y, code a ++ x ≠ stop ++ y) :
    SelfDelimiting fun as : List α => as.flatMap code ++ stop := by
  intro as
  induction as with
  | nil =>
      intro bs x y heq
      cases bs with
      | nil => rfl
      | cons b bs =>
          simp only [List.flatMap_nil, List.nil_append, List.flatMap_cons,
            List.append_assoc] at heq
          exact absurd heq.symm (hstop b _ x)
  | cons a as ih =>
      intro bs x y heq
      cases bs with
      | nil =>
          simp only [List.flatMap_nil, List.nil_append, List.flatMap_cons,
            List.append_assoc] at heq
          exact absurd heq (hstop a _ y)
      | cons b bs =>
          simp only [List.flatMap_cons, List.append_assoc] at heq
          obtain ⟨rfl, hrest⟩ := h.append_inj heq
          simp only [← List.append_assoc] at hrest
          rw [ih hrest]

end Words

theorem intercalate_cons (sep a : List β) (as : List (List β)) :
    sep.intercalate (a :: as) = a ++ as.flatMap (sep ++ ·) := by
  induction as generalizing a with
  | nil => simp
  | cons b bs ih =>
      rw [List.intercalate_cons_cons, ih, List.flatMap_cons]
      simp only [List.append_assoc]

/-- Words with separators between them, up to a stop. -/
theorem separated {code : α → List β} (h : SelfDelimiting code) {sep stop : List β}
    (hstop : ∀ a x y, code a ++ x ≠ stop ++ y) (hsep : ∀ x y, sep ++ x ≠ stop ++ y) :
    SelfDelimiting fun as : List α => sep.intercalate (as.map code) ++ stop := by
  -- Behind the first word it is words with a separator before each.
  have hrest : SelfDelimiting fun as : List α => as.flatMap (fun a => sep ++ code a) ++ stop := by
    apply (h.behind sep).flatMap_stop
    intro a x y heq
    rw [List.append_assoc] at heq
    exact hsep _ y heq
  intro as bs x y heq
  cases as with
  | nil =>
      cases bs with
      | nil => rfl
      | cons b bs =>
          simp only [List.map_cons, intercalate_cons, List.append_assoc] at heq
          exact absurd heq.symm (hstop b _ x)
  | cons a as =>
      cases bs with
      | nil =>
          simp only [List.map_cons, intercalate_cons, List.append_assoc] at heq
          exact absurd heq (hstop a _ y)
      | cons b bs =>
          simp only [List.map_cons, intercalate_cons, List.flatMap_map, List.append_assoc] at heq
          obtain ⟨rfl, htail⟩ := h.append_inj heq
          simp only [← List.append_assoc] at htail
          rw [hrest htail]

end SelfDelimiting

end NovaHarness.DelimitedCodes
