import Mathlib.Data.List.Chain
import Mathlib.Logic.Relation

/-!
Paths in a graph whose edges carry data: a list of edges, each starting where
the one before it ends.  A log that records every move of a machine is such a
list, so facts about runs of any length reduce to facts about single edges.
-/

namespace NovaHarness.LabelledPaths

variable {σ ε : Type*} (src tgt : ε → σ)

/-- `IsPath src tgt a es b`: the edges `es` lead from `a` to `b`. -/
def IsPath : σ → List ε → σ → Prop
  | a, [], b => a = b
  | a, e :: es, b => src e = a ∧ IsPath (tgt e) es b

variable {src tgt}

@[simp] theorem isPath_nil {a b : σ} : IsPath src tgt a [] b ↔ a = b := Iff.rfl

@[simp] theorem isPath_cons {a b : σ} {e : ε} {es : List ε} :
    IsPath src tgt a (e :: es) b ↔ src e = a ∧ IsPath src tgt (tgt e) es b := Iff.rfl

theorem isPath_append {a c : σ} {es fs : List ε} :
    IsPath src tgt a (es ++ fs) c ↔
      ∃ b, IsPath src tgt a es b ∧ IsPath src tgt b fs c := by
  induction es generalizing a with
  | nil => simp
  | cons e es ih => simp [ih, and_assoc]

theorem IsPath.append {a b c : σ} {es fs : List ε}
    (h₁ : IsPath src tgt a es b) (h₂ : IsPath src tgt b fs c) :
    IsPath src tgt a (es ++ fs) c :=
  isPath_append.mpr ⟨b, h₁, h₂⟩

instance decidableIsPath [DecidableEq σ] : ∀ (a : σ) (es : List ε) (b : σ), Decidable (IsPath src tgt a es b)
  | a, [], b => inferInstanceAs (Decidable (a = b))
  | a, e :: es, b =>
      have := decidableIsPath (tgt e) es b
      inferInstanceAs (Decidable (src e = a ∧ IsPath src tgt (tgt e) es b))

/-- A cycle can be run through any number of times. -/
theorem IsPath.replicate {a : σ} {es : List ε} (h : IsPath src tgt a es a) (k : Nat) :
    IsPath src tgt a (List.replicate k es).flatten a := by
  induction k with
  | zero => exact isPath_nil.mpr rfl
  | succ k ih =>
      rw [List.replicate_succ, List.flatten_cons]
      exact h.append ih

theorem IsPath.src_head {a b : σ} {es : List ε} (h : IsPath src tgt a es b) :
    ∀ e, es.head? = some e → src e = a := by
  cases es with
  | nil => simp
  | cons e es => simpa using h.1

theorem IsPath.chain {a b : σ} {es : List ε} (h : IsPath src tgt a es b) :
    es.IsChain fun e f => src f = tgt e := by
  induction es generalizing a with
  | nil => exact .nil
  | cons e es ih =>
      cases es with
      | nil => exact .singleton e
      | cons f es => exact .cons_cons h.2.1 (ih h.2)

theorem IsPath.eq_getLast {a b : σ} {es : List ε} (h : IsPath src tgt a es b) :
    b = (es.getLast?.map tgt).getD a := by
  induction es generalizing a with
  | nil => exact h.symm
  | cons e es ih =>
      rw [ih h.2]
      cases es with
      | nil => rfl
      | cons f es =>
          rw [List.getLast?_cons_cons, List.getLast?_eq_some_getLast (by simp)]
          rfl

/-- Edges that lead nowhere can be left out of a path. -/
theorem IsPath.filter {a b : σ} {es : List ε} (h : IsPath src tgt a es b)
    (p : ε → Bool) (hloop : ∀ e ∈ es, p e = false → tgt e = src e) :
    IsPath src tgt a (es.filter p) b := by
  induction es generalizing a with
  | nil => exact h
  | cons e es ih =>
      have htail := ih h.2 fun f hf => hloop f (by simp [hf])
      cases hp : p e with
      | true => simpa [hp] using ⟨h.1, htail⟩
      | false =>
          have hback : tgt e = a := (hloop e (by simp) hp).trans h.1
          simpa [hp, hback] using htail

/-- The end of a path is reachable from its start by any relation that holds
along its edges. -/
theorem IsPath.reflTransGen {R : σ → σ → Prop} {a b : σ} {es : List ε}
    (h : IsPath src tgt a es b) (hR : ∀ e ∈ es, R (src e) (tgt e)) :
    Relation.ReflTransGen R a b := by
  induction es generalizing a with
  | nil => exact h ▸ .refl
  | cons e es ih =>
      refine .head ?_ (ih h.2 fun f hf => hR f (by simp [hf]))
      simpa [h.1] using hR e (by simp)

/-- What can be reached along the edges of a kind can be reached by a path of them. -/
theorem exists_isPath {P : ε → Prop} {a b : σ}
    (h : Relation.ReflTransGen (fun s t => ∃ e, P e ∧ src e = s ∧ tgt e = t) a b) :
    ∃ es, (∀ e ∈ es, P e) ∧ IsPath src tgt a es b := by
  induction h with
  | refl => exact ⟨[], by simp, isPath_nil.mpr rfl⟩
  | tail _ hstep ih =>
      obtain ⟨es, hes, hpath⟩ := ih
      obtain ⟨e, he, hsrc, htgt⟩ := hstep
      refine ⟨es ++ [e], ?_, hpath.append ⟨hsrc, htgt⟩⟩
      intro f hf
      rcases List.mem_append.mp hf with hf | hf
      · exact hes f hf
      · exact List.mem_singleton.mp hf ▸ he

/-- What every edge passes on from its source to its target, a path passes on. -/
theorem IsPath.invariant {P : σ → Prop} {a b : σ} {es : List ε} (h : IsPath src tgt a es b)
    (ha : P a) (hstep : ∀ e ∈ es, P (src e) → P (tgt e)) : P b := by
  induction es generalizing a with
  | nil => exact isPath_nil.mp h ▸ ha
  | cons e es ih =>
      have htarget : P (tgt e) := hstep e (by simp) (h.1.symm ▸ ha)
      exact ih h.2 htarget fun f hf => hstep f (by simp [hf])

/-- A weight on the nodes that an edge can raise only by paying for it bounds
one kind of edges along a path by another. -/
theorem IsPath.countP_le {a b : σ} {es : List ε} (h : IsPath src tgt a es b)
    (gain pay : ε → Bool) (weight : σ → Nat)
    (hstep : ∀ e ∈ es, (gain e).toNat + weight (src e) ≤ (pay e).toNat + weight (tgt e)) :
    es.countP gain + weight a ≤ es.countP pay + weight b := by
  induction es generalizing a with
  | nil => simp [isPath_nil.mp h]
  | cons e es ih =>
      have hhead := hstep e (by simp)
      have htail := ih h.2 fun f hf => hstep f (by simp [hf])
      rw [h.1] at hhead
      rw [List.countP_cons, List.countP_cons]
      cases hgain : gain e <;> cases hpay : pay e <;> simp [hgain, hpay] at hhead ⊢ <;> omega

/-- Where every edge climbs, unless it is one of a kind that may fall by so much,
a path is no longer than the climb and its falls together. -/
theorem IsPath.length_le {a b : σ} {es : List ε} (h : IsPath src tgt a es b) (rank : σ → Nat)
    (falls : ε → Bool) (depth : Nat)
    (hstep : ∀ e ∈ es, rank (src e) + 1 ≤ rank (tgt e) + depth * (falls e).toNat) :
    es.length + rank a ≤ depth * es.countP falls + rank b := by
  induction es generalizing a with
  | nil => simp [isPath_nil.mp h]
  | cons e es ih =>
      have hhead := hstep e (by simp)
      have htail := ih h.2 fun f hf => hstep f (by simp [hf])
      rw [h.1] at hhead
      rw [List.length_cons, List.countP_cons]
      cases hfalls : falls e
      · simp [hfalls] at hhead ⊢
        omega
      · simp [hfalls, Nat.mul_add] at hhead ⊢
        omega

/-- If every node demands a sequence of labels, and every edge meets the demand
of its target by the demand of its source and its own label, then the labels
along the path meet the demand of its end. -/
theorem IsPath.demand_sublist {Λ : Type*} {a b : σ} {es : List ε}
    (h : IsPath src tgt a es b) (label : ε → Λ) (demand : σ → List Λ)
    (hstep : ∀ e ∈ es, (demand (tgt e)).Sublist (demand (src e) ++ [label e]))
    {before : List Λ} (ha : (demand a).Sublist before) :
    (demand b).Sublist (before ++ es.map label) := by
  induction es generalizing a before with
  | nil => simpa [← isPath_nil.mp h] using ha
  | cons e es ih =>
      have hmet : (demand (tgt e)).Sublist (before ++ [label e]) := by
        have hsrc : (demand (src e)).Sublist before := h.1.symm ▸ ha
        exact (hstep e (by simp)).trans (hsrc.append (List.Sublist.refl _))
      simpa using ih h.2 (fun f hf => hstep f (by simp [hf])) hmet

end NovaHarness.LabelledPaths
