import NovaHarness.RecordValidation

/-!
Records that are built again from their own fields.  Each field is settled by the
first construction: the second finds nothing to complain about and nothing to
change, in nested records and lists of them as in texts.
-/

namespace NovaHarness.SettledFields

open NovaHarness.Text
open NovaHarness.RecordValidation

section Settled

variable {α β : Type}

/-- What a field is normalized to passes again, unchanged. -/
structure Settles (errors : β → List FieldError) (normalize : β → β) : Prop where
  passes : ∀ b, errors b = [] → errors (normalize b) = []
  again : ∀ b, errors b = [] → normalize (normalize b) = normalize b

section Records

variable {errors : α → List FieldError} {normalized : α → α} (h : Settles errors normalized)

include h

theorem Settles.stable_fields : Stable fun a => fields (errors a) (normalized a) := by
  intro raw a ha
  obtain ⟨hraw, rfl⟩ := (fields_eq_ok _ _ _).mp ha
  exact (fields_eq_ok _ _ _).mpr ⟨h.passes raw hraw, h.again raw hraw⟩

theorem Settles.stable_twoLayers {rules : α → Validated Unit} :
    Stable fun a => twoLayers (errors a) (normalized a) rules :=
  RecordValidation.stable_twoLayers h.passes h.again

/-- The rules see the same record both times. -/
theorem Settles.stable_bind {rules : α → Validated α} (hrules : Unchanged rules) :
    Stable fun a => fields (errors a) (normalized a) >>= rules := by
  intro raw a ha
  obtain ⟨b, hfields, hb⟩ := (bind_eq_ok _ _ _).mp ha
  obtain rfl := hrules _ _ hb
  exact (bind_eq_ok _ _ _).mpr ⟨b, h.stable_fields raw b hfields, hb⟩

end Records

variable {validate : α → Validated α} (h : Stable validate) (loc : String)

include h

theorem settles_record :
    Settles (fun a => errorsUnder loc (validate a)) (fun a => valueD (validate a) a) where
  passes a ha := by
    rw [errorsUnder_eq_nil] at ha ⊢
    exact ⟨_, h.validate_valueD ha⟩
  again a ha := by
    rw [errorsUnder_eq_nil] at ha
    rw [h.validate_valueD ha, valueD_ok]

theorem settles_list : Settles (listErrors loc validate) (listValues validate) where
  passes xs hxs := by
    rw [listErrors_eq_nil] at hxs ⊢
    exact fun x hx => ⟨x, h.mem_listValues hxs x hx⟩
  again xs hxs := by
    rw [listErrors_eq_nil] at hxs
    exact h.listValues_listValues hxs

theorem settles_option : Settles (optionErrors loc validate) (optionValue validate) where
  passes o ho := by
    rw [optionErrors_eq_nil] at ho ⊢
    exact fun a ha => ⟨a, h.mem_optionValue ho a ha⟩
  again o ho := by
    rw [optionErrors_eq_nil] at ho
    exact optionValue_eq_self (h.mem_optionValue ho)

end Settled

end NovaHarness.SettledFields
