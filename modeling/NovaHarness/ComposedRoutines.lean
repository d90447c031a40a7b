import NovaHarness.EarlyExit

/-!
Routines put together from a few kinds of statement.  What every statement
respects, every routine respects that is put together from them, however it is
nested and wherever it is left.
-/

namespace NovaHarness.ComposedRoutines

open NovaHarness.EarlyExit

variable {ε σ : Type}

/-- The routines put together from given statements by sequencing, by leaving
early and by taking over an exit. -/
inductive Composed (Statement : EStateM ε σ Unit → Prop) :
    {α : Type} → EStateM ε σ α → Prop
  | statement {x : EStateM ε σ Unit} (hx : Statement x) : Composed Statement x
  | pure {α : Type} (a : α) : Composed Statement (pure a : EStateM ε σ α)
  | exit {α : Type} (e : ε) : Composed Statement (exit e : EStateM ε σ α)
  | bind {α β : Type} {x : EStateM ε σ α} {f : α → EStateM ε σ β}
      (hx : Composed Statement x) (hf : ∀ a, Composed Statement (f a)) :
      Composed Statement (x >>= f)
  | rescue {α : Type} {handler : ε → Option (EStateM ε σ α)} {x : EStateM ε σ α}
      (hx : Composed Statement x) (hhandler : ∀ e h, handler e = some h → Composed Statement h) :
      Composed Statement (rescue handler x)

variable {Statement : EStateM ε σ Unit → Prop} {α : Type}

theorem Composed.ofExcept {δ : Type} (f : δ → ε) (v : Except δ α) :
    Composed Statement (ofExcept f v : EStateM ε σ α) := by
  cases v with
  | ok a => exact .pure a
  | error d => exact .exit (f d)

/-- The rule for whole routines: a preorder that every statement respects is
respected by what is put together from them. -/
theorem Composed.frames {R : σ → σ → Prop} [Std.Refl R] [IsTrans σ R]
    (hstatement : ∀ x, Statement x → Frames R x) {x : EStateM ε σ α}
    (h : Composed Statement x) : Frames R x := by
  induction h with
  | statement hx => exact hstatement _ hx
  | pure a => exact Frames.pure a
  | exit e => exact Frames.exit e
  | bind _ _ ihx ihf => exact Frames.bind ihx ihf
  | rescue _ _ ihx ihhandler => exact Frames.rescue ihx ihhandler

end NovaHarness.ComposedRoutines
