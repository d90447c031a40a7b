import Mathlib.Data.Char
import Mathlib.Data.List.Lex
import Mathlib.Order.Fin.Basic
import Mathlib.Tactic.Ring

namespace NovaHarness.DecimalTexts

section Order

variable {α : Type} [LinearOrder α]

/-- Texts that begin with equally long pieces are compared by these first. -/
theorem append_lt_append_iff {a b : List α} (hlength : a.length = b.length) (s t : List α) :
    a ++ s < b ++ t ↔ a < b ∨ a = b ∧ s < t := by
  induction a generalizing b with
  | nil =>
      obtain rfl := List.length_eq_zero_iff.mp hlength.symm
      simp
  | cons x a ih =>
      cases b with
      | nil => simp at hlength
      | cons y b =>
          simp only [List.cons_append, List.cons_lt_cons_iff, ih (Nat.succ.inj hlength),
            List.cons.injEq]
          tauto

theorem prefix_append_lt_iff (a s t : List α) : a ++ s < a ++ t ↔ s < t := by
  rw [append_lt_append_iff rfl]
  simp

/-- What goes on after a piece starts below everything in it. -/
def StopsBelow (rest piece : List α) : Prop :=
  ∀ d ∈ rest.head?, ∀ c ∈ piece, d < c

theorem append_lt_append_iff_of_stopsBelow {a b s t : List α} (hs : StopsBelow s b)
    (ht : StopsBelow t a) : a ++ s < b ++ t ↔ a < b ∨ a = b ∧ s < t := by
  induction a generalizing b with
  | nil =>
      cases b with
      | nil => simp
      | cons y b =>
          cases s with
          | nil => simp
          | cons d s =>
              have hd : d < y := hs d rfl y List.mem_cons_self
              simp [List.cons_lt_cons_iff, hd]
  | cons x a ih =>
      cases b with
      | nil =>
          cases t with
          | nil => simp
          | cons d t =>
              have hd : d < x := ht d rfl x List.mem_cons_self
              simp [List.cons_lt_cons_iff, hd.le, hd.ne']
      | cons y b =>
          have hs' : StopsBelow s b := fun d hd c hc => hs d hd c (List.mem_cons_of_mem _ hc)
          have ht' : StopsBelow t a := fun d hd c hc => ht d hd c (List.mem_cons_of_mem _ hc)
          simp only [List.cons_append, List.cons_lt_cons_iff, ih hs' ht', List.cons.injEq]
          tauto

end Order

section Digits

/-- Decimal digits, the most significant one first. -/
abbrev Digits := List (Fin 10)

def value : Digits → Nat
  | [] => 0
  | d :: ds => d * 10 ^ ds.length + value ds

theorem value_lt (ds : Digits) : value ds < 10 ^ ds.length := by
  induction ds with
  | nil => exact Nat.one_pos
  | cons d ds ih =>
      have hd : (d : Nat) + 1 ≤ 10 := d.isLt
      calc value (d :: ds) = d * 10 ^ ds.length + value ds := rfl
        _ < d * 10 ^ ds.length + 10 ^ ds.length := by omega
        _ = (d + 1) * 10 ^ ds.length := by ring
        _ ≤ 10 * 10 ^ ds.length := Nat.mul_le_mul_right _ hd
        _ = 10 ^ (d :: ds).length := by rw [List.length_cons, pow_succ']

/-- Among equally many digits the first difference decides. -/
theorem lt_iff_value_lt {ds es : Digits} (hlength : ds.length = es.length) :
    ds < es ↔ value ds < value es := by
  induction ds generalizing es with
  | nil =>
      obtain rfl := List.length_eq_zero_iff.mp hlength.symm
      simp
  | cons d ds ih =>
      cases es with
      | nil => simp at hlength
      | cons e es =>
          have hlength := Nat.succ.inj hlength
          have hds := value_lt ds
          have hes := value_lt es
          rw [← hlength] at hes
          rw [List.cons_lt_cons_iff, ih hlength, value, value, ← hlength]
          rcases lt_trichotomy d e with hlt | rfl | hlt
          · have hmul := Nat.mul_le_mul_right (10 ^ ds.length) (Nat.succ_le_of_lt hlt)
            rw [Nat.succ_mul] at hmul
            simp only [hlt, true_or, true_iff]
            omega
          · simp
          · have hmul := Nat.mul_le_mul_right (10 ^ ds.length) (Nat.succ_le_of_lt hlt)
            rw [Nat.succ_mul] at hmul
            simp only [hlt.not_gt, hlt.ne', false_and, or_self, false_iff]
            omega

theorem eq_of_value_eq {ds es : Digits} (hlength : ds.length = es.length)
    (hvalue : value ds = value es) : ds = es := by
  rcases lt_trichotomy ds es with h | h | h
  · exact absurd ((lt_iff_value_lt hlength).mp h) (by omega)
  · exact h
  · exact absurd ((lt_iff_value_lt hlength.symm).mp h) (by omega)

/-- The last digits of a number, as many as asked for. -/
def fixed : (width n : Nat) → Digits
  | 0, _ => []
  | width + 1, n => ⟨n / 10 ^ width % 10, Nat.mod_lt _ (by decide)⟩ :: fixed width n

@[simp] theorem length_fixed (width n : Nat) : (fixed width n).length = width := by
  induction width with
  | zero => rfl
  | succ width ih => rw [fixed, List.length_cons, ih]

theorem value_fixed (width n : Nat) : value (fixed width n) = n % 10 ^ width := by
  induction width with
  | zero => rw [pow_zero, Nat.mod_one]; rfl
  | succ width ih =>
      rw [fixed, value, ih, length_fixed, pow_succ, Nat.mod_mul]
      ring

end Digits

section Characters

def digitChar (d : Fin 10) : Char :=
  Char.ofNat (48 + d)

def chars (ds : Digits) : List Char :=
  ds.map digitChar

theorem digitChar_lt_iff : ∀ d e : Fin 10, digitChar d < digitChar e ↔ d < e := by
  decide

theorem digitChar_inj : ∀ d e : Fin 10, digitChar d = digitChar e ↔ d = e := by
  decide

theorem chars_lt_iff (ds es : Digits) : chars ds < chars es ↔ ds < es := by
  induction ds generalizing es with
  | nil => cases es <;> simp [chars]
  | cons d ds ih =>
      cases es with
      | nil => simp [chars]
      | cons e es =>
          simp only [chars, List.map_cons, List.cons_lt_cons_iff, digitChar_lt_iff, digitChar_inj]
          exact or_congr_right (and_congr_right fun _ => ih es)

theorem chars_inj (ds es : Digits) : chars ds = chars es ↔ ds = es :=
  List.map_inj_right fun d e => (digitChar_inj d e).mp

@[simp] theorem length_chars (ds : Digits) : (chars ds).length = ds.length :=
  List.length_map _

/-- A number of fixed width at the front is compared as a number. -/
theorem fixed_append_lt_iff {width m n : Nat} (hm : m < 10 ^ width) (hn : n < 10 ^ width)
    (s t : List Char) :
    chars (fixed width m) ++ s < chars (fixed width n) ++ t ↔ m < n ∨ m = n ∧ s < t := by
  have hlength : (fixed width m).length = (fixed width n).length := by simp
  rw [append_lt_append_iff (by simp), chars_lt_iff, chars_inj, lt_iff_value_lt hlength,
    value_fixed, value_fixed, Nat.mod_eq_of_lt hm, Nat.mod_eq_of_lt hn]
  have heq : fixed width m = fixed width n ↔ m = n := by
    refine ⟨fun h => ?_, fun h => by rw [h]⟩
    have hvalue := congrArg value h
    rwa [value_fixed, value_fixed, Nat.mod_eq_of_lt hm, Nat.mod_eq_of_lt hn] at hvalue
  rw [heq]

end Characters

end NovaHarness.DecimalTexts
