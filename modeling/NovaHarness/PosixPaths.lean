import Mathlib.Data.List.Basic

namespace NovaHarness.PosixPaths

def separator : Char := '/'

def here : List Char := ['.']

def up : List Char := ['.', '.']

/-- A component that names an entry of a directory. -/
def IsName (c : List Char) : Prop :=
  c ≠ [] ∧ c ≠ here ∧ c ≠ up

instance (c : List Char) : Decidable (IsName c) :=
  inferInstanceAs (Decidable (_ ∧ _))

/-- What is left of a path when all its components are resolved: steps up, which
only a relative path can keep, and then names. -/
structure NormalPath where
  absolute : Bool
  ups : Nat
  names : List (List Char)
  ups_eq_zero : absolute = true → ups = 0
  isName : ∀ c ∈ names, IsName c

namespace NormalPath

variable (p : NormalPath)

def start (absolute : Bool) : NormalPath where
  absolute := absolute
  ups := 0
  names := []
  ups_eq_zero := fun _ => rfl
  isName := by simp

/-- Above the root there is the root. -/
def parent : NormalPath :=
  if p.names = [] then
    if habsolute : p.absolute = true then p
    else { p with
      ups := p.ups + 1
      ups_eq_zero := fun h => absurd h habsolute }
  else { p with
    names := p.names.dropLast
    isName := fun c hc => p.isName c (List.dropLast_subset _ hc) }

/-- The path that goes on with some names. -/
def descend (cs : List (List Char)) (hcs : ∀ c ∈ cs, IsName c) : NormalPath :=
  { p with
    names := p.names ++ cs
    isName := by
      intro c hc
      rcases List.mem_append.mp hc with hc | hc
      · exact p.isName c hc
      · exact hcs c hc }

def resolve (c : List Char) : NormalPath :=
  if hc : IsName c then p.descend [c] (by simpa using hc)
  else if c = up then p.parent
  else p

def components : List (List Char) :=
  List.replicate p.ups up ++ p.names

/-- `q` lies below `p`, component by component. -/
def IsProperPrefix (q : NormalPath) : Prop :=
  p.absolute = q.absolute ∧ p.components <+: q.components ∧ p.components ≠ q.components

theorem ext {p q : NormalPath} (habsolute : p.absolute = q.absolute) (hups : p.ups = q.ups)
    (hnames : p.names = q.names) : p = q := by
  cases p
  cases q
  simp_all

@[simp] theorem descend_nil (hcs : ∀ c ∈ [], IsName c) : p.descend [] hcs = p :=
  ext rfl rfl (List.append_nil _)

@[simp] theorem components_descend (cs : List (List Char)) (hcs : ∀ c ∈ cs, IsName c) :
    (p.descend cs hcs).components = p.components ++ cs := by
  simp [components, descend]

theorem eq_or_isProperPrefix_descend (cs : List (List Char)) (hcs : ∀ c ∈ cs, IsName c) :
    p.descend cs hcs = p ∨ p.IsProperPrefix (p.descend cs hcs) := by
  by_cases hnil : cs = []
  · subst hnil
    exact .inl (p.descend_nil hcs)
  · refine .inr ⟨rfl, ?_, ?_⟩
    · rw [components_descend]
      exact List.prefix_append _ _
    · rw [components_descend]
      intro h
      exact hnil (List.self_eq_append_right.mp h)

/-- Components that never go up only add the names among them. -/
theorem foldl_resolve (cs : List (List Char)) (hup : up ∉ cs) :
    cs.foldl resolve p = p.descend (cs.filter fun c => IsName c) (by simp) := by
  induction cs generalizing p with
  | nil => exact (p.descend_nil _).symm
  | cons c cs ih =>
      rw [List.mem_cons, not_or] at hup
      rw [List.foldl_cons, ih _ hup.2]
      by_cases hc : IsName c
      · refine ext ?_ ?_ ?_ <;> simp [resolve, descend, hc]
      · have hne : ¬ c = up := fun h => hup.1 h.symm
        refine ext ?_ ?_ ?_ <;> simp [resolve, descend, hc, hne]

end NormalPath

def splitPath (path : List Char) : List (List Char) :=
  path.splitOn separator

/-- A path that starts with separators is absolute, however many they are. -/
def normalize (path : List Char) : NormalPath :=
  (splitPath path).foldl NormalPath.resolve (.start (path.head? == some separator))

theorem isInfix_intercalate_of_mem {α : Type} (sep : List α) {ls : List (List α)} {l : List α}
    (h : l ∈ ls) : l <:+: sep.intercalate ls := by
  induction ls with
  | nil => simp at h
  | cons l' ls ih =>
      rcases List.mem_cons.mp h with rfl | h
      · cases ls with
        | nil => simp
        | cons l'' ls =>
            rw [List.intercalate_cons_cons, List.append_assoc]
            exact (List.prefix_append _ _).isInfix
      · rw [List.intercalate_cons_of_ne_nil (List.ne_nil_of_mem h)]
        exact (ih h).trans (List.suffix_append _ _).isInfix

theorem isInfix_of_mem_splitPath {path c : List Char} (h : c ∈ splitPath path) : c <:+: path := by
  have hinfix := isInfix_intercalate_of_mem [separator] h
  rwa [splitPath, List.intercalate_splitOn] at hinfix

theorem normalize_append {path : List Char} (hpath : path ≠ []) (rest : List Char) :
    normalize (path ++ separator :: rest) =
      (splitPath rest).foldl NormalPath.resolve (normalize path) := by
  have hhead : (path ++ separator :: rest).head? = path.head? := by
    rw [List.head?_append_of_ne_nil _ hpath]
  rw [normalize, normalize, hhead, splitPath, List.splitOn_append_cons_self, List.foldl_append]
  rfl

/-- The names among the components of a path: what is neither empty nor a dot nor
a step up. -/
def nameComponents (path : List Char) : List (List Char) :=
  (splitPath path).filter fun c => IsName c

theorem normalize_of_no_up {path : List Char} (hup : ¬ up <:+: path) :
    normalize path =
      (NormalPath.start (path.head? == some separator)).descend (nameComponents path)
        (by simp [nameComponents]) :=
  NormalPath.foldl_resolve _ _ fun hmem => hup (isInfix_of_mem_splitPath hmem)

/-- Relative paths without `..` lead to the same place exactly when they go
through the same names. -/
theorem normalize_eq_iff {p q : List Char} (hp : ¬ up <:+: p) (hq : ¬ up <:+: q)
    (hprel : p.head? ≠ some separator) (hqrel : q.head? ≠ some separator) :
    normalize p = normalize q ↔ nameComponents p = nameComponents q := by
  rw [normalize_of_no_up hp, normalize_of_no_up hq, beq_eq_false_iff_ne.mpr hprel,
    beq_eq_false_iff_ne.mpr hqrel]
  constructor
  · intro h
    have hnames : [] ++ nameComponents p = [] ++ nameComponents q := congrArg NormalPath.names h
    exact List.append_cancel_left hnames
  · exact fun h => NormalPath.ext rfl rfl (congrArg ([] ++ ·) h)

/-- A path continued by a text without `..` stays where it is or goes down. -/
theorem normalize_append_of_no_up {path rest : List Char} (hpath : path ≠ [])
    (hrest : ¬ up <:+: rest) :
    normalize (path ++ separator :: rest) = normalize path ∨
      (normalize path).IsProperPrefix (normalize (path ++ separator :: rest)) := by
  have hup : up ∉ splitPath rest := fun hmem => hrest (isInfix_of_mem_splitPath hmem)
  rw [normalize_append hpath, NormalPath.foldl_resolve _ _ hup]
  exact NormalPath.eq_or_isProperPrefix_descend _ _ _

end NovaHarness.PosixPaths
