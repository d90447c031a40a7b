import Mathlib.Order.Defs.Unbundled

/-!
Stateful routines that can be left before their last line.  A routine either
falls through with a value or exits, and in both cases leaves a state behind.
The inversion rules peel a sequential routine apart one statement at a time;
the frame rules carry a relation between the first and the last state across
every way of ending it.
-/

namespace NovaHarness.EarlyExit

variable {ε σ α β : Type}

def update (f : σ → σ) : EStateM ε σ Unit := fun s => .ok () (f s)

def exit (e : ε) : EStateM ε σ α := fun s => .error e s

/-- A computation without state: its error, passed through `f`, leaves the routine. -/
def ofExcept {δ : Type} (f : δ → ε) : Except δ α → EStateM ε σ α
  | .ok a => pure a
  | .error e => exit (f e)

/-- Run a routine and let a handler take over the exits it claims. -/
def rescue (handler : ε → Option (EStateM ε σ α)) (x : EStateM ε σ α) :
    EStateM ε σ α := fun s =>
  match x.run s with
  | .ok a t => .ok a t
  | .error e t =>
      match handler e with
      | some h => h.run t
      | none => .error e t

section Inversion

@[simp] theorem run_pure_eq_ok (a b : α) (s t : σ) :
    (pure a : EStateM ε σ α).run s = .ok b t ↔ a = b ∧ s = t := by
  change EStateM.Result.ok a s = .ok b t ↔ _
  simp

@[simp] theorem run_pure_ne_error (a : α) (s t : σ) (e : ε) :
    ¬ (pure a : EStateM ε σ α).run s = .error e t := by
  change ¬ EStateM.Result.ok a s = .error e t
  simp

@[simp] theorem run_update_eq_ok (f : σ → σ) (s t : σ) (u : Unit) :
    (update f : EStateM ε σ Unit).run s = .ok u t ↔ f s = t := by
  change EStateM.Result.ok () (f s) = .ok u t ↔ _
  simp

@[simp] theorem run_update_ne_error (f : σ → σ) (s t : σ) (e : ε) :
    ¬ (update f : EStateM ε σ Unit).run s = .error e t := by
  change ¬ EStateM.Result.ok () (f s) = .error e t
  simp

@[simp] theorem run_exit_ne_ok (e : ε) (a : α) (s t : σ) :
    ¬ (exit e : EStateM ε σ α).run s = .ok a t := by
  change ¬ EStateM.Result.error e s = .ok a t
  simp

@[simp] theorem run_exit_eq_error (e e' : ε) (s t : σ) :
    (exit e : EStateM ε σ α).run s = .error e' t ↔ e = e' ∧ s = t := by
  change EStateM.Result.error e s = .error e' t ↔ _
  simp

@[simp] theorem run_ofExcept_eq_ok {δ : Type} (f : δ → ε) (x : Except δ α) (a : α) (s t : σ) :
    (ofExcept f x : EStateM ε σ α).run s = .ok a t ↔ x = .ok a ∧ s = t := by
  cases x with
  | ok b => simp [ofExcept]
  | error e => simp [ofExcept]

@[simp] theorem run_ofExcept_eq_error {δ : Type} (f : δ → ε) (x : Except δ α) (e : ε) (s t : σ) :
    (ofExcept f x : EStateM ε σ α).run s = .error e t ↔
      ∃ d, x = .error d ∧ f d = e ∧ s = t := by
  cases x with
  | ok b => simp [ofExcept]
  | error d => simp [ofExcept]

theorem run_bind_eq_ok (x : EStateM ε σ α) (f : α → EStateM ε σ β) (b : β) (s t : σ) :
    (x >>= f).run s = .ok b t ↔
      ∃ a m, x.run s = .ok a m ∧ (f a).run m = .ok b t := by
  rw [EStateM.run_bind]
  cases x.run s <;> simp [and_assoc]

theorem run_ofExcept_ok_bind {δ : Type} (f : δ → ε) (a : α) (g : α → EStateM ε σ β) (s : σ) :
    (ofExcept f (.ok a) >>= g).run s = (g a).run s := rfl

theorem run_update_bind (f : σ → σ) (g : Unit → EStateM ε σ β) (s : σ) :
    (update f >>= g).run s = (g ()).run (f s) := rfl

theorem run_bind_eq_error (x : EStateM ε σ α) (f : α → EStateM ε σ β) (e : ε) (s t : σ) :
    (x >>= f).run s = .error e t ↔
      x.run s = .error e t ∨ ∃ a m, x.run s = .ok a m ∧ (f a).run m = .error e t := by
  rw [EStateM.run_bind]
  cases x.run s <;> simp [and_assoc]

theorem run_rescue (handler : ε → Option (EStateM ε σ α)) (x : EStateM ε σ α) (s : σ) :
    (rescue handler x).run s =
      match x.run s with
      | .ok a t => .ok a t
      | .error e t =>
          match handler e with
          | some h => h.run t
          | none => .error e t := rfl

end Inversion

section Exits

variable {Q : ε → Prop}

def Exits (Q : ε → Prop) (x : EStateM ε σ α) : Prop :=
  ∀ s e t, x.run s = .error e t → Q e

theorem Exits.pure (a : α) : Exits Q (pure a : EStateM ε σ α) := by
  intro s e t h
  exact absurd h (run_pure_ne_error a s t e)

theorem Exits.update (f : σ → σ) : Exits Q (update f : EStateM ε σ Unit) := by
  intro s e t h
  exact absurd h (run_update_ne_error f s t e)

theorem Exits.exit {e : ε} (he : Q e) : Exits Q (exit e : EStateM ε σ α) := by
  intro s e' t h
  exact ((run_exit_eq_error e e' s t).mp h).1 ▸ he

theorem Exits.ofExcept {δ : Type} {f : δ → ε} (hf : ∀ d, Q (f d)) (x : Except δ α) :
    Exits Q (ofExcept f x : EStateM ε σ α) := by
  cases x with
  | ok a => exact Exits.pure a
  | error d => exact Exits.exit (hf d)

theorem Exits.bind {x : EStateM ε σ α} {f : α → EStateM ε σ β} (hx : Exits Q x)
    (hf : ∀ a, Exits Q (f a)) : Exits Q (x >>= f) := by
  intro s e t h
  rcases (run_bind_eq_error x f e s t).mp h with hrun | ⟨a, m, -, hrest⟩
  · exact hx s e t hrun
  · exact hf a m e t hrest

/-- Exits that the handler does not claim have to satisfy `Q` by themselves. -/
theorem Exits.rescue {handler : ε → Option (EStateM ε σ α)} {x : EStateM ε σ α}
    {P : ε → Prop} (hx : Exits P x) (hunclaimed : ∀ e, P e → handler e = none → Q e)
    (hhandler : ∀ e h, P e → handler e = some h → Exits Q h) :
    Exits Q (rescue handler x) := by
  intro s e' t h
  rw [run_rescue] at h
  cases hrun : x.run s with
  | ok b m => simp [hrun] at h
  | error e m =>
      simp only [hrun] at h
      cases hhandled : handler e with
      | none =>
          simp only [hhandled] at h
          obtain ⟨rfl, rfl⟩ := EStateM.Result.error.inj h
          exact hunclaimed e (hx s e m hrun) hhandled
      | some k =>
          rw [hhandled] at h
          exact hhandler e k (hx s e m hrun) hhandled m e' t h

end Exits

section Frames

variable (R : σ → σ → Prop)

/-- However the routine ends, its last state is related to its first. -/
def Frames (x : EStateM ε σ α) : Prop :=
  (∀ s a t, x.run s = .ok a t → R s t) ∧ ∀ s e t, x.run s = .error e t → R s t

def lastState : EStateM.Result ε σ α → σ
  | .ok _ t => t
  | .error _ t => t

variable {R}

theorem Frames.lastState {x : EStateM ε σ α} (hx : Frames R x) (s : σ) :
    R s (EarlyExit.lastState (x.run s)) := by
  rcases hrun : x.run s with ⟨a, t⟩ | ⟨e, t⟩
  · exact hx.1 s a t hrun
  · exact hx.2 s e t hrun

theorem Frames.pure [Std.Refl R] (a : α) : Frames R (pure a : EStateM ε σ α) := by
  constructor
  · intro s b t h
    obtain ⟨-, rfl⟩ := (run_pure_eq_ok a b s t).mp h
    exact Std.Refl.refl s
  · intro s e t h
    exact absurd h (run_pure_ne_error a s t e)

theorem Frames.update {f : σ → σ} (h : ∀ s, R s (f s)) :
    Frames R (update f : EStateM ε σ Unit) := by
  constructor
  · intro s u t hrun
    exact (run_update_eq_ok f s t u).mp hrun ▸ h s
  · intro s e t hrun
    exact absurd hrun (run_update_ne_error f s t e)

theorem Frames.exit [Std.Refl R] (e : ε) : Frames R (exit e : EStateM ε σ α) := by
  constructor
  · intro s a t h
    exact absurd h (run_exit_ne_ok e a s t)
  · intro s e' t h
    obtain ⟨-, rfl⟩ := (run_exit_eq_error e e' s t).mp h
    exact Std.Refl.refl s

theorem Frames.ofExcept [Std.Refl R] {δ : Type} (f : δ → ε) (x : Except δ α) :
    Frames R (ofExcept f x : EStateM ε σ α) := by
  cases x with
  | ok a => exact Frames.pure a
  | error e => exact Frames.exit (f e)

/-- What the rest respects takes nothing away from what the first part has done. -/
theorem Frames.bind_of {S T : σ → σ → Prop} {x : EStateM ε σ α} {f : α → EStateM ε σ β}
    (hx : Frames R x) (hf : ∀ a, Frames S (f a)) (hstop : ∀ s t, R s t → T s t)
    (hcomp : ∀ s m t, R s m → S m t → T s t) : Frames T (x >>= f) := by
  constructor
  · intro s b t h
    obtain ⟨a, m, hrun, hrest⟩ := (run_bind_eq_ok x f b s t).mp h
    exact hcomp s m t (hx.1 s a m hrun) ((hf a).1 m b t hrest)
  · intro s e t h
    rcases (run_bind_eq_error x f e s t).mp h with hrun | ⟨a, m, hrun, hrest⟩
    · exact hstop s t (hx.2 s e t hrun)
    · exact hcomp s m t (hx.1 s a m hrun) ((hf a).2 m e t hrest)

theorem Frames.bind [IsTrans σ R] {x : EStateM ε σ α} {f : α → EStateM ε σ β}
    (hx : Frames R x) (hf : ∀ a, Frames R (f a)) : Frames R (x >>= f) :=
  Frames.bind_of hx hf (fun _ _ h => h) IsTrans.trans

/-- Where a routine whose first part keeps `P` can have stopped. -/
theorem Frames.error_bind {P : σ → Prop} {Q : Prop} {x : EStateM ε σ α}
    {f : α → EStateM ε σ β} {s t : σ} {e : ε} (hx : Frames (fun s t => P s → P t) x) (hs : P s)
    (h : (x >>= f).run s = .error e t) (hstop : P t → Q)
    (hrest : ∀ a m, x.run s = .ok a m → P m → (f a).run m = .error e t → Q) : Q := by
  rcases (run_bind_eq_error x f e s t).mp h with hrun | ⟨a, m, hrun, htail⟩
  · exact hstop (hx.2 s e t hrun hs)
  · exact hrest a m hrun (hx.1 s a m hrun hs) htail

/-- Only the value that came out of the computation without state is carried on. -/
theorem Frames.ofExcept_bind [Std.Refl R] {δ : Type} {f : δ → ε} {x : Except δ α}
    {g : α → EStateM ε σ β} (hg : ∀ a, x = .ok a → Frames R (g a)) :
    Frames R (EarlyExit.ofExcept f x >>= g) := by
  cases x with
  | ok a => exact hg a rfl
  | error e => exact Frames.exit (f e)

theorem Frames.rescue [IsTrans σ R] {handler : ε → Option (EStateM ε σ α)}
    {x : EStateM ε σ α} (hx : Frames R x)
    (hhandler : ∀ e h, handler e = some h → Frames R h) :
    Frames R (rescue handler x) := by
  constructor
  · intro s a t h
    rw [run_rescue] at h
    cases hrun : x.run s with
    | ok b m =>
        rw [hrun] at h
        obtain ⟨rfl, rfl⟩ := EStateM.Result.ok.inj h
        exact hx.1 s b m hrun
    | error e m =>
        simp only [hrun] at h
        cases hhandled : handler e with
        | none => simp [hhandled] at h
        | some k =>
            rw [hhandled] at h
            exact IsTrans.trans s m t (hx.2 s e m hrun) ((hhandler e k hhandled).1 m a t h)
  · intro s e' t h
    rw [run_rescue] at h
    cases hrun : x.run s with
    | ok b m => simp [hrun] at h
    | error e m =>
        simp only [hrun] at h
        cases hhandled : handler e with
        | none =>
            simp only [hhandled] at h
            obtain ⟨rfl, rfl⟩ := EStateM.Result.error.inj h
            exact hx.2 s e m hrun
        | some k =>
            rw [hhandled] at h
            exact IsTrans.trans s m t (hx.2 s e m hrun) ((hhandler e k hhandled).2 m e' t h)

end Frames

section Growth

variable {μ : σ → Nat} {m n total : Nat}

/-- However the routine ends, it has added at most `n` to the measure. -/
def Adds (μ : σ → Nat) (n : Nat) (x : EStateM ε σ α) : Prop :=
  Frames (fun s t => μ t ≤ μ s + n) x

theorem Adds.of_frames {x : EStateM ε σ α} (hx : Frames (fun s t => μ t = μ s) x) :
    Adds μ n x := by
  constructor
  · intro s a t h
    have heq := hx.1 s a t h
    omega
  · intro s e t h
    have heq := hx.2 s e t h
    omega

theorem Adds.pure (a : α) : Adds μ n (pure a : EStateM ε σ α) :=
  have : Std.Refl fun s t : σ => μ t ≤ μ s + n := ⟨fun _ => Nat.le_add_right _ _⟩
  Frames.pure a

theorem Adds.exit (e : ε) : Adds μ n (exit e : EStateM ε σ α) :=
  have : Std.Refl fun s t : σ => μ t ≤ μ s + n := ⟨fun _ => Nat.le_add_right _ _⟩
  Frames.exit e

theorem Adds.ofExcept {δ : Type} (f : δ → ε) (x : Except δ α) :
    Adds μ n (ofExcept f x : EStateM ε σ α) :=
  have : Std.Refl fun s t : σ => μ t ≤ μ s + n := ⟨fun _ => Nat.le_add_right _ _⟩
  Frames.ofExcept f x

theorem Adds.update {f : σ → σ} (h : ∀ s, μ (f s) ≤ μ s + n) :
    Adds μ n (update f : EStateM ε σ Unit) :=
  Frames.update h

theorem Adds.bind {x : EStateM ε σ α} {f : α → EStateM ε σ β} (hx : Adds μ m x)
    (hf : ∀ a, Adds μ n (f a)) (htotal : m + n ≤ total) : Adds μ total (x >>= f) := by
  refine Frames.bind_of hx hf ?_ ?_
  · intro s t hst
    omega
  · intro s r t hsr hrt
    omega

theorem Adds.silent_bind {x : EStateM ε σ α} {f : α → EStateM ε σ β} (hx : Adds μ 0 x)
    (hf : ∀ a, Adds μ n (f a)) : Adds μ n (x >>= f) :=
  Adds.bind hx hf (Nat.le_of_eq (Nat.zero_add n))

theorem Adds.bind_silent {x : EStateM ε σ α} {f : α → EStateM ε σ β} (hx : Adds μ n x)
    (hf : ∀ a, Adds μ 0 (f a)) : Adds μ n (x >>= f) :=
  Adds.bind hx hf (Nat.le_refl n)

/-- The handlers add nothing, as those that only leave the routine. -/
theorem Adds.rescue {handler : ε → Option (EStateM ε σ α)} {x : EStateM ε σ α}
    (hx : Adds μ n x) (hhandler : ∀ e h, handler e = some h → Adds μ 0 h) :
    Adds μ n (rescue handler x) := by
  constructor
  · intro s a t h
    rw [run_rescue] at h
    cases hrun : x.run s with
    | ok b r =>
        rw [hrun] at h
        obtain ⟨rfl, rfl⟩ := EStateM.Result.ok.inj h
        exact hx.1 s b r hrun
    | error e r =>
        simp only [hrun] at h
        cases hhandled : handler e with
        | none => simp [hhandled] at h
        | some k =>
            rw [hhandled] at h
            have hfirst := hx.2 s e r hrun
            have hsecond := (hhandler e k hhandled).1 r a t h
            omega
  · intro s e' t h
    rw [run_rescue] at h
    cases hrun : x.run s with
    | ok b r => simp [hrun] at h
    | error e r =>
        simp only [hrun] at h
        have hfirst := hx.2 s e r hrun
        cases hhandled : handler e with
        | none =>
            simp only [hhandled] at h
            obtain ⟨rfl, rfl⟩ := EStateM.Result.error.inj h
            exact hfirst
        | some k =>
            rw [hhandled] at h
            have hsecond := (hhandler e k hhandled).2 r e' t h
            omega

end Growth

end NovaHarness.EarlyExit
