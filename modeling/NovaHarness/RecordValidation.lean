import Mathlib.Algebra.Order.Ring.Rat
import Mathlib.Data.List.Nodup
import NovaHarness.Text

/-!
Validation of records in two layers, the way pydantic runs it: every field
validator runs and all their complaints are collected; only when there is none
do the whole-record validators run, one after another, and the first complaint
ends the validation.
-/

namespace NovaHarness.RecordValidation

open NovaHarness.Text

/-- One complaint: the path of the field it is about (empty for the record as a
whole) and the text of the error. -/
structure FieldError where
  loc : String
  msg : String
  deriving DecidableEq, Repr

/-- What a rejected record is reported with; there is always something. -/
structure Complaints where
  errors : List FieldError
  ne_nil : errors ≠ []
  deriving DecidableEq, Repr

abbrev Validated (α : Type) := Except Complaints α

theorem bind_eq_ok {ε α β : Type} (x : Except ε α) (f : α → Except ε β) (b : β) :
    x >>= f = .ok b ↔ ∃ a, x = .ok a ∧ f a = .ok b := by
  rcases x with e | a
  · simp [bind, Except.bind]
  · simp [bind, Except.bind]

theorem unit_bind_eq_ok {ε β : Type} (x : Except ε Unit) (f : Unit → Except ε β) (b : β) :
    x >>= f = .ok b ↔ x = .ok () ∧ f () = .ok b := by
  rw [bind_eq_ok]
  exact ⟨fun ⟨_, hx, hf⟩ => ⟨hx, hf⟩, fun ⟨hx, hf⟩ => ⟨(), hx, hf⟩⟩

@[simp] theorem pure_eq_ok {ε α : Type} (a b : α) :
    (pure a : Except ε α) = .ok b ↔ a = b := by
  change Except.ok a = Except.ok b ↔ a = b
  exact Except.ok.injEq a b ▸ Iff.rfl

theorem exists_of_map_toOption {ε α β : Type} {x : Except ε α} {f : α → β} {b : β}
    (h : x.toOption.map f = some b) : ∃ a, x = .ok a ∧ f a = b := by
  rcases x with e | a
  · simp [Except.toOption] at h
  · exact ⟨a, rfl, by simpa [Except.toOption] using h⟩

theorem exists_mapM_eq_ok {ε α β : Type} (f : α → Except ε β) (as : List α) :
    (∃ bs, as.mapM f = .ok bs) ↔ ∀ a ∈ as, ∃ b, f a = .ok b := by
  induction as with
  | nil => simp [pure_eq_ok]
  | cons a as ih =>
      simp only [List.mapM_cons, bind_eq_ok, pure_eq_ok, List.forall_mem_cons, ← ih]
      constructor
      · rintro ⟨_, b, hb, bs, hbs, -⟩
        exact ⟨⟨b, hb⟩, bs, hbs⟩
      · rintro ⟨⟨b, hb⟩, bs, hbs⟩
        exact ⟨b :: bs, b, hb, bs, hbs, rfl⟩

section Layers

variable {α : Type}

/-- The first layer: the record with its normalized fields, unless some field
was complained about. -/
def fields (errors : List FieldError) (a : α) : Validated α :=
  if h : errors = [] then .ok a else .error ⟨errors, h⟩

@[simp] theorem fields_eq_ok (errors : List FieldError) (a b : α) :
    fields errors a = .ok b ↔ errors = [] ∧ a = b := by
  unfold fields
  split <;> simp_all

def require (ok : Prop) [Decidable ok] (msg : String) : Validated Unit :=
  if ok then .ok () else .error ⟨[⟨"", msg⟩], by simp⟩

@[simp] theorem require_eq_ok (ok : Prop) [Decidable ok] (msg : String) (u : Unit) :
    require ok msg = .ok u ↔ ok := by
  unfold require
  split <;> simp_all

/-- A check made under a condition. -/
def whenever (c : Prop) [Decidable c] (v : Validated Unit) : Validated Unit :=
  if c then v else .ok ()

@[simp] theorem whenever_eq_ok (c : Prop) [Decidable c] (v : Validated Unit) (u : Unit) :
    whenever c v = .ok u ↔ (c → v = .ok u) := by
  unfold whenever
  split <;> simp_all

/-- Both layers: the whole-record validators see the normalized record. -/
def twoLayers (errors : List FieldError) (a : α) (rules : α → Validated Unit) : Validated α := do
  let checked ← fields errors a
  rules checked
  return checked

@[simp] theorem twoLayers_eq_ok (errors : List FieldError) (a b : α)
    (rules : α → Validated Unit) :
    twoLayers errors a rules = .ok b ↔ (errors = [] ∧ rules b = .ok ()) ∧ a = b := by
  simp only [twoLayers, bind_eq_ok, fields_eq_ok, pure_eq_ok]
  constructor
  · rintro ⟨_, ⟨herrors, rfl⟩, _, hrules, rfl⟩
    exact ⟨⟨herrors, hrules⟩, rfl⟩
  · rintro ⟨⟨herrors, hrules⟩, rfl⟩
    exact ⟨_, ⟨herrors, rfl⟩, (), hrules, rfl⟩

/-- The whole-record validators did not complain about what was accepted. -/
theorem rules_of_twoLayers {errors : List FieldError} {a b : α} {rules : α → Validated Unit}
    (h : twoLayers errors a rules = .ok b) : rules b = .ok () :=
  ((twoLayers_eq_ok errors a b rules).mp h).1.2

/-- `if not text` raises. -/
def requireText (text : Option String) (msg : String) : Validated Unit :=
  require ((nonEmpty text).isSome = true) msg

@[simp] theorem requireText_eq_ok (text : Option String) (msg : String) (u : Unit) :
    requireText text msg = .ok u ↔ ∃ s, text = some s ∧ s ≠ "" := by
  rw [requireText, require_eq_ok]
  rcases text with _ | s
  · simp [nonEmpty]
  · simp [nonEmpty, Option.filter]

end Layers

section Fields

def check (loc msg : String) (ok : Prop) [Decidable ok] : List FieldError :=
  if ok then [] else [⟨loc, msg⟩]

@[simp] theorem check_eq_nil (loc msg : String) (ok : Prop) [Decidable ok] :
    check loc msg ok = [] ↔ ok := by
  unfold check
  split <;> simp_all

/-- The field validator found on most text fields: the stripped value must not
be empty. -/
def nonBlank (loc msg value : String) : List FieldError :=
  check loc msg (¬ IsBlank value)

@[simp] theorem nonBlank_eq_nil (loc msg value : String) :
    nonBlank loc msg value = [] ↔ ¬ IsBlank value :=
  check_eq_nil loc msg _

/-- The validator `non_blank` that the text fields of a contract share. -/
def filled (loc value : String) : List FieldError :=
  nonBlank loc "must not be blank" value

@[simp] theorem filled_eq_nil (loc value : String) :
    filled loc value = [] ↔ ¬ IsBlank value :=
  nonBlank_eq_nil loc _ value

/-- A text field declared with `min_length=1`. -/
def minLength (loc value : String) : List FieldError :=
  check loc "String should have at least 1 character" (value ≠ "")

@[simp] theorem minLength_eq_nil (loc value : String) :
    minLength loc value = [] ↔ value ≠ "" :=
  check_eq_nil loc _ _

/-- Checks of one field that are made one after the other. -/
def andThen (first second : List FieldError) : List FieldError :=
  if first = [] then second else first

@[simp] theorem andThen_eq_nil (first second : List FieldError) :
    andThen first second = [] ↔ first = [] ∧ second = [] := by
  unfold andThen
  split <;> simp_all

/-- A field validator that raises: the complaint is about the field. -/
def fieldCheck (loc : String) : Validated Unit → List FieldError
  | .ok _ => []
  | .error complaints => complaints.errors.map fun e => { e with loc := loc }

@[simp] theorem fieldCheck_eq_nil (loc : String) (v : Validated Unit) :
    fieldCheck loc v = [] ↔ v = .ok () := by
  rcases v with complaints | _
  · simp [fieldCheck, complaints.ne_nil]
  · simp [fieldCheck]

/-- A text field declared with `min_length=1` that also has that validator. -/
def idField (loc msg value : String) : List FieldError :=
  andThen (minLength loc value) (nonBlank loc msg value)

@[simp] theorem idField_eq_nil (loc msg value : String) :
    idField loc msg value = [] ↔ ¬ IsBlank value := by
  rw [idField, andThen_eq_nil, minLength_eq_nil, nonBlank_eq_nil, and_iff_right_iff_imp]
  intro hblank hempty
  exact hblank (by simp [hempty, isBlank_iff])

section Bounds

variable {κ : Type} [LE κ] [DecidableLE κ]

/-- `Field(ge=least)` of a number. -/
def atLeast (loc bound : String) (least value : κ) : List FieldError :=
  check loc ("Input should be greater than or equal to " ++ bound) (least ≤ value)

@[simp] theorem atLeast_eq_nil (loc bound : String) (least value : κ) :
    atLeast loc bound least value = [] ↔ least ≤ value :=
  check_eq_nil loc _ _

def atMost (loc bound : String) (greatest value : κ) : List FieldError :=
  check loc ("Input should be less than or equal to " ++ bound) (value ≤ greatest)

def optionAtLeast (loc bound : String) (least : κ) : Option κ → List FieldError
  | none => []
  | some value => atLeast loc bound least value

def optionAtMost (loc bound : String) (greatest : κ) : Option κ → List FieldError
  | none => []
  | some value => atMost loc bound greatest value

end Bounds

/-- The validator of scores and confidences. -/
def inRange (loc what : String) (value : ℚ) : List FieldError :=
  check loc (what ++ " must be between 0.0 and 1.0") (0 ≤ value ∧ value ≤ 1)

variable {α : Type}

/-- What a field validator sees of an earlier field: its value, if there was
nothing wrong with it. -/
def ifValid (errors : List FieldError) (a : α) : Option α :=
  if errors = [] then some a else none

theorem ifValid_eq_some {errors : List FieldError} (h : errors = []) (a : α) :
    ifValid errors a = some a :=
  if_pos h

/-- A list field declared with `min_length=least`. -/
def minItems (loc : String) (least : Nat) (xs : List α) : List FieldError :=
  check loc
    ("List should have at least " ++ toString least ++ (if least = 1 then " item" else " items") ++
      " after validation, not " ++ toString xs.length)
    (least ≤ xs.length)

@[simp] theorem minItems_eq_nil (loc : String) (least : Nat) (xs : List α) :
    minItems loc least xs = [] ↔ least ≤ xs.length :=
  check_eq_nil loc _ _

/-- The complaints of a nested record, located below the field that holds it. -/
def errorsUnder (loc : String) : Validated α → List FieldError
  | .ok _ => []
  | .error complaints =>
      complaints.errors.map fun e => { e with loc := loc ++ "." ++ e.loc }

@[simp] theorem errorsUnder_eq_nil (loc : String) (v : Validated α) :
    errorsUnder loc v = [] ↔ ∃ a, v = .ok a := by
  rcases v with complaints | a
  · simp [errorsUnder, complaints.ne_nil]
  · simp [errorsUnder]

def valueD (v : Validated α) (default : α) : α :=
  match v with
  | .ok a => a
  | .error _ => default

@[simp] theorem valueD_ok (a default : α) : valueD (.ok a) default = a := rfl

/-- The complaints of a list of nested records, each under its position. -/
def listErrors (loc : String) (validate : α → Validated α) (xs : List α) : List FieldError :=
  xs.zipIdx.flatMap fun p => errorsUnder (loc ++ "." ++ toString p.2) (validate p.1)

@[simp] theorem listErrors_eq_nil (loc : String) (validate : α → Validated α) (xs : List α) :
    listErrors loc validate xs = [] ↔ ∀ x ∈ xs, ∃ a, validate x = .ok a := by
  rw [listErrors, List.flatMap_eq_nil_iff]
  simp only [errorsUnder_eq_nil]
  constructor
  · intro h x hx
    obtain ⟨i, hi, rfl⟩ := List.mem_iff_getElem.mp hx
    exact h (xs[i], i) (List.mem_zipIdx_iff_getElem?.mpr (by simp [hi]))
  · intro h p hp
    exact h p.1 (List.fst_mem_of_mem_zipIdx hp)

def listValues (validate : α → Validated α) (xs : List α) : List α :=
  xs.map fun x => valueD (validate x) x

theorem exists_of_mem_listValues {validate : α → Validated α} {xs : List α} {y : α}
    (hxs : ∀ x ∈ xs, ∃ a, validate x = .ok a) (hy : y ∈ listValues validate xs) :
    ∃ x ∈ xs, validate x = .ok y := by
  obtain ⟨x, hx, rfl⟩ := List.mem_map.mp hy
  obtain ⟨a, ha⟩ := hxs x hx
  exact ⟨x, hx, by rw [ha, valueD_ok]⟩

/-- When acceptance only rewrites fields, so does that of a list. -/
theorem listValues_eq_map {validate : α → Validated α} {normalized : α → α} {xs : List α}
    (hxs : ∀ x ∈ xs, ∃ a, validate x = .ok a)
    (h : ∀ x a, validate x = .ok a → normalized x = a) :
    listValues validate xs = xs.map normalized := by
  refine List.map_congr_left fun x hx => ?_
  obtain ⟨a, ha⟩ := hxs x hx
  rw [ha, valueD_ok, h x a ha]

/-- A nested record that may be missing. -/
def optionErrors (loc : String) (validate : α → Validated α) : Option α → List FieldError
  | none => []
  | some a => errorsUnder loc (validate a)

@[simp] theorem optionErrors_eq_nil (loc : String) (validate : α → Validated α) (o : Option α) :
    optionErrors loc validate o = [] ↔ ∀ a ∈ o, ∃ b, validate a = .ok b := by
  rcases o with _ | a
  · simp [optionErrors]
  · simp [optionErrors]

def optionValue (validate : α → Validated α) (o : Option α) : Option α :=
  o.map fun a => valueD (validate a) a

theorem exists_of_mem_optionValue {validate : α → Validated α} {o : Option α} {b : α}
    (ho : ∀ a ∈ o, ∃ b, validate a = .ok b) (hb : b ∈ optionValue validate o) :
    ∃ a ∈ o, validate a = .ok b := by
  rcases o with _ | a
  · simp [optionValue] at hb
  · obtain ⟨c, hc⟩ := ho a rfl
    obtain rfl : c = b := by simpa [optionValue, hc] using hb
    exact ⟨a, rfl, hc⟩

end Fields

section Again

variable {α : Type} {validate : α → Validated α}

/-- What a validation returned passes it again, unchanged. -/
def Stable (validate : α → Validated α) : Prop :=
  ∀ raw a, validate raw = .ok a → validate a = .ok a

/-- Acceptance returns the record as it was given. -/
def Unchanged (validate : α → Validated α) : Prop :=
  ∀ raw a, validate raw = .ok a → raw = a

theorem Unchanged.validate_eq_self (h : Unchanged validate) {raw : α}
    (hraw : ∃ a, validate raw = .ok a) : validate raw = .ok raw := by
  obtain ⟨a, ha⟩ := hraw
  rw [ha, h raw a ha]

theorem Unchanged.stable (h : Unchanged validate) : Stable validate := by
  intro raw a ha
  obtain rfl := h raw a ha
  exact ha

/-- Without fields to normalize there is nothing to change. -/
theorem unchanged_twoLayers (rules : α → Validated Unit) :
    Unchanged fun a => twoLayers [] a rules := by
  intro raw a h
  exact ((twoLayers_eq_ok [] raw a rules).mp h).2

theorem unchanged_return : Unchanged fun a : α => (return a) := by
  intro raw a h
  exact (pure_eq_ok raw a).mp h

/-- A check in front of what returns the record as it was given. -/
theorem Unchanged.after {rule : α → Validated Unit} (h : Unchanged validate) :
    Unchanged fun a => rule a >>= fun _ => validate a := by
  intro raw a hraw
  obtain ⟨_, -, hvalid⟩ := (bind_eq_ok _ _ _).mp hraw
  exact h raw a hvalid

theorem stable_fields {errors : α → List FieldError} {normalized : α → α}
    (herrors : ∀ a, errors a = [] → errors (normalized a) = [])
    (hnormalized : ∀ a, normalized (normalized a) = normalized a) :
    Stable fun a => fields (errors a) (normalized a) := by
  intro raw a h
  obtain ⟨hraw, rfl⟩ := (fields_eq_ok _ _ _).mp h
  exact (fields_eq_ok _ _ _).mpr ⟨herrors raw hraw, hnormalized raw⟩

theorem stable_twoLayers {errors : α → List FieldError} {normalized : α → α}
    {rules : α → Validated Unit}
    (herrors : ∀ a, errors a = [] → errors (normalized a) = [])
    (hnormalized : ∀ a, errors a = [] → normalized (normalized a) = normalized a) :
    Stable fun a => twoLayers (errors a) (normalized a) rules := by
  intro raw a h
  obtain ⟨⟨hraw, hrules⟩, rfl⟩ := (twoLayers_eq_ok _ _ _ _).mp h
  exact (twoLayers_eq_ok _ _ _ _).mpr ⟨⟨herrors raw hraw, hrules⟩, hnormalized raw hraw⟩

theorem listValues_eq_self {xs : List α} (h : ∀ x ∈ xs, validate x = .ok x) :
    listValues validate xs = xs := by
  rw [listValues]
  refine (List.map_congr_left fun x hx => ?_).trans (List.map_id' xs)
  rw [h x hx, valueD_ok]

theorem optionValue_eq_self {o : Option α} (h : ∀ a ∈ o, validate a = .ok a) :
    optionValue validate o = o := by
  cases o with
  | none => rfl
  | some a => rw [optionValue, Option.map_some, h a rfl, valueD_ok]

/-- The values of a list of nested records are each returned again. -/
theorem Stable.mem_listValues (hstable : Stable validate) {xs : List α}
    (hxs : ∀ x ∈ xs, ∃ a, validate x = .ok a) :
    ∀ y ∈ listValues validate xs, validate y = .ok y := by
  intro y hy
  obtain ⟨x, -, hx⟩ := exists_of_mem_listValues hxs hy
  exact hstable x y hx

theorem Stable.mem_optionValue (hstable : Stable validate) {o : Option α}
    (ho : ∀ a ∈ o, ∃ b, validate a = .ok b) :
    ∀ b ∈ optionValue validate o, validate b = .ok b := by
  intro b hb
  obtain ⟨a, -, ha⟩ := exists_of_mem_optionValue ho hb
  exact hstable a b ha

/-- Records that were returned before are returned again. -/
theorem Stable.validate_eq_self (hstable : Stable validate) {p : α → Prop}
    (h : ∀ a, p a → ∃ raw, validate raw = .ok a) : ∀ a, p a → validate a = .ok a := by
  intro a ha
  obtain ⟨raw, hraw⟩ := h a ha
  exact hstable raw a hraw

theorem Stable.validate_valueD (hstable : Stable validate) {raw : α}
    (h : ∃ a, validate raw = .ok a) :
    validate (valueD (validate raw) raw) = .ok (valueD (validate raw) raw) := by
  obtain ⟨a, ha⟩ := h
  rw [ha, valueD_ok]
  exact hstable raw a ha

theorem Stable.listValues_listValues (hstable : Stable validate) {xs : List α}
    (hxs : ∀ x ∈ xs, ∃ a, validate x = .ok a) :
    listValues validate (listValues validate xs) = listValues validate xs :=
  listValues_eq_self (hstable.mem_listValues hxs)

end Again

section Repeats

variable {κ : Type} [DecidableEq κ]

/-- The first key that already occurred: the loop that fills a set `seen` and
complains about a key it finds there. -/
def firstRepeat (seen : List κ) : List κ → Option κ
  | [] => none
  | k :: ks => if k ∈ seen then some k else firstRepeat (k :: seen) ks

theorem firstRepeat_eq_none_iff (seen keys : List κ) :
    firstRepeat seen keys = none ↔ keys.Nodup ∧ ∀ k ∈ keys, k ∉ seen := by
  induction keys generalizing seen with
  | nil => simp [firstRepeat]
  | cons k ks ih =>
      simp only [firstRepeat]
      split
      · rename_i hk
        simp only [reduceCtorEq, false_iff, not_and]
        intro _ hall
        exact hall k (by simp) hk
      · rename_i hk
        rw [ih, List.nodup_cons]
        constructor
        · rintro ⟨hnodup, hfresh⟩
          refine ⟨⟨fun hmem => hfresh k hmem (by simp), hnodup⟩, ?_⟩
          intro k' hk'
          rcases List.mem_cons.mp hk' with rfl | hk'
          · exact hk
          · exact fun hseen => hfresh k' hk' (by simp [hseen])
        · rintro ⟨⟨hnotMem, hnodup⟩, hfresh⟩
          refine ⟨hnodup, fun k' hk' hseen => ?_⟩
          rcases List.mem_cons.mp hseen with rfl | hseen
          · exact hnotMem hk'
          · exact hfresh k' (by simp [hk']) hseen

/-- When no key occurs twice, a key that occurs belongs to one entry only. -/
theorem countP_eq_one_iff {α : Type} {key : α → κ} {xs : List α}
    (hnodup : (xs.map key).Nodup) (k : κ) :
    xs.countP (fun x => key x = k) = 1 ↔ k ∈ xs.map key := by
  have hcount : xs.countP (fun x => key x = k) = (xs.map key).count k := by
    rw [List.count, List.countP_map]
    apply List.countP_congr
    intro x _
    simp
  rw [hcount]
  constructor
  · intro h
    apply List.count_pos_iff.mp
    omega
  · exact List.count_eq_one_of_mem hnodup

end Repeats

section Loops

variable {α κ : Type} [DecidableEq κ]

/-- A loop whose body may raise. -/
def forEach (body : α → Validated Unit) : List α → Validated Unit
  | [] => .ok ()
  | x :: xs => do
      body x
      forEach body xs

@[simp] theorem forEach_eq_ok (body : α → Validated Unit) (xs : List α) (u : Unit) :
    forEach body xs = .ok u ↔ ∀ x ∈ xs, body x = .ok () := by
  induction xs with
  | nil => simp [forEach]
  | cons x xs ih =>
      rw [forEach, bind_eq_ok, List.forall_mem_cons, ← ih]
      constructor
      · rintro ⟨_, hx, hxs⟩
        exact ⟨hx, hxs⟩
      · rintro ⟨hx, hxs⟩
        exact ⟨(), hx, hxs⟩

/-- Such a loop that first raises on a key it has seen before. -/
def forEachNew (key : α → κ) (repeated : α → String) (body : α → Validated Unit)
    (seen : List κ) : List α → Validated Unit
  | [] => .ok ()
  | x :: xs => do
      require (key x ∉ seen) (repeated x)
      body x
      forEachNew key repeated body (key x :: seen) xs

theorem forEachNew_eq_ok (key : α → κ) (repeated : α → String) (body : α → Validated Unit)
    (seen : List κ) (xs : List α) (u : Unit) :
    forEachNew key repeated body seen xs = .ok u ↔
      ((xs.map key).Nodup ∧ ∀ x ∈ xs, key x ∉ seen) ∧ ∀ x ∈ xs, body x = .ok () := by
  induction xs generalizing seen with
  | nil => simp [forEachNew]
  | cons x xs ih =>
      simp only [forEachNew, bind_eq_ok, require_eq_ok, ih, List.map_cons, List.nodup_cons,
        List.forall_mem_cons]
      constructor
      · rintro ⟨_, hnew, _, hx, ⟨hnodup, hfresh⟩, hxs⟩
        refine ⟨⟨⟨?_, hnodup⟩, hnew, ?_⟩, hx, hxs⟩
        · intro hmem
          obtain ⟨y, hy, heq⟩ := List.mem_map.mp hmem
          exact hfresh y hy (heq ▸ List.mem_cons_self)
        · exact fun y hy hseen => hfresh y hy (List.mem_cons_of_mem _ hseen)
      · rintro ⟨⟨⟨hother, hnodup⟩, hnew, hfresh⟩, hx, hxs⟩
        refine ⟨(), hnew, (), hx, ⟨hnodup, ?_⟩, hxs⟩
        intro y hy hseen
        rcases List.mem_cons.mp hseen with heq | hseen
        · exact hother (heq ▸ List.mem_map_of_mem hy)
        · exact hfresh y hy hseen

end Loops

/-- A record type with its validation.  The texts of complaints may quote
values, which is where the tables come in. -/
class Schema (α : Type) where
  validate : UnicodeTables → α → Validated α

/-- The values that construction can return.  A value of this type is a record
that some raw input was turned into, so what the validators guarantee can be
read off it. -/
def Accepted (α : Type) [Schema α] : Type :=
  { a : α // ∃ tables raw, Schema.validate tables raw = .ok a }

theorem Stable.of_accepted {α : Type} [Schema α] {validate : α → Validated α}
    (hstable : Stable validate) (hschema : ∀ tables raw, Schema.validate tables raw = validate raw)
    (a : Accepted α) : validate a.1 = .ok a.1 := by
  obtain ⟨tables, raw, h⟩ := a.2
  rw [hschema] at h
  exact hstable raw a.1 h

def build {α : Type} [Schema α] (raw : α)
    (h : (Schema.validate asciiTables raw).toOption.isSome = true) : Accepted α :=
  match hv : Schema.validate asciiTables raw with
  | .ok a => ⟨a, asciiTables, raw, hv⟩
  | .error _ => absurd h (by simp [hv, Except.toOption])

end NovaHarness.RecordValidation
