import Mathlib.Data.List.DropRight
import Mathlib.Data.List.Infix

/-!
The text operations of Python that the harness relies on: `str.strip`, the
substring test `in`, `str.join` and `repr`.  Strings are sequences of Unicode
scalar values, which is what pydantic accepts for a field of type `str`.
-/

namespace NovaHarness.Text

/-- The characters that `str.isspace` holds of, hence those `str.strip`
removes. -/
def isSpace (c : Char) : Bool :=
  let n := c.toNat
  (9 ≤ n && n ≤ 13) || (28 ≤ n && n ≤ 32) || n == 0x85 || n == 0xa0 ||
    n == 0x1680 || (0x2000 ≤ n && n ≤ 0x200a) || n == 0x2028 || n == 0x2029 ||
    n == 0x202f || n == 0x205f || n == 0x3000

/-- `s.strip()`. -/
def strip (s : String) : String :=
  String.ofList ((s.toList.dropWhile isSpace).rdropWhile isSpace)

/-- `not s.strip()`. -/
def IsBlank (s : String) : Prop :=
  strip s = ""

instance (s : String) : Decidable (IsBlank s) :=
  inferInstanceAs (Decidable (strip s = ""))

theorem isBlank_iff (s : String) :
    IsBlank s ↔ ∀ c ∈ s.toList, isSpace c = true := by
  rw [IsBlank, strip, String.ofList_eq_empty_iff, List.rdropWhile_eq_nil_iff]
  constructor
  · intro h c hc
    by_contra hspace
    have hne : s.toList.dropWhile isSpace ≠ [] := by
      intro hnil
      exact hspace (List.dropWhile_eq_nil_iff.mp hnil c hc)
    have hhead := List.head_dropWhile_not isSpace hne
    exact absurd (h _ (List.head_mem hne)) (by simp [hhead])
  · intro h
    rw [List.dropWhile_eq_nil_iff.mpr h]
    simp

/-- Text in front of a string cannot make it blank. -/
theorem not_isBlank_append {p s : String} (hp : ¬ IsBlank p) :
    ¬ IsBlank (p ++ s) := by
  rw [isBlank_iff] at hp ⊢
  intro h
  exact hp fun c hc => h c (by simp [hc])

theorem append_ne_empty {p s : String} (hp : p ≠ "") : p ++ s ≠ "" := by
  intro h
  apply hp
  have hlist := congrArg String.toList h
  rw [String.toList_append] at hlist
  exact String.toList_inj.mp (List.append_eq_nil_iff.mp hlist).1

theorem dropWhile_rdropWhile_dropWhile (l : List Char) :
    ((l.dropWhile isSpace).rdropWhile isSpace).dropWhile isSpace =
      (l.dropWhile isSpace).rdropWhile isSpace := by
  rw [List.dropWhile_eq_self_iff]
  intro hlen
  have hpre : (l.dropWhile isSpace).rdropWhile isSpace <+: l.dropWhile isSpace :=
    List.rdropWhile_prefix isSpace _
  have hpos : 0 < (l.dropWhile isSpace).length :=
    lt_of_lt_of_le hlen hpre.length_le
  have hhead := List.dropWhile_get_zero_not isSpace l hpos
  rw [hpre.getElem hlen]
  exact hhead

theorem strip_strip (s : String) : strip (strip s) = strip s := by
  simp only [strip, String.toList_ofList]
  rw [dropWhile_rdropWhile_dropWhile, List.rdropWhile_idempotent]

@[simp] theorem isBlank_strip (s : String) : IsBlank (strip s) ↔ IsBlank s := by
  rw [IsBlank, strip_strip, IsBlank]

theorem length_strip_le (s : String) : (strip s).length ≤ s.length := by
  rw [strip, String.length_ofList, ← String.length_toList]
  exact ((List.rdropWhile_prefix isSpace _).length_le).trans (List.length_dropWhile_le isSpace _)

theorem rdropWhile_append_of_forall {α : Type} {p : α → Bool} (l : List α) {l' : List α}
    (h : ∀ a ∈ l', p a = true) : (l ++ l').rdropWhile p = l.rdropWhile p := by
  rw [List.rdropWhile, List.reverse_append, List.dropWhile_append_of_pos, List.rdropWhile]
  exact fun a ha => h a (List.mem_reverse.mp ha)

/-- `strip` does not see the white space put around a text. -/
theorem strip_padded {before after : String} (hbefore : IsBlank before) (hafter : IsBlank after)
    (s : String) : strip (before ++ s ++ after) = strip s := by
  rw [isBlank_iff] at hbefore hafter
  have hfront : (before ++ s ++ after).toList.dropWhile isSpace =
      (s.toList ++ after.toList).dropWhile isSpace := by
    rw [String.toList_append, String.toList_append, List.append_assoc,
      List.dropWhile_append_of_pos hbefore]
  rw [strip, strip, hfront, List.dropWhile_append]
  split
  · rename_i hnil
    rw [List.isEmpty_iff.mp hnil, List.dropWhile_eq_nil_iff.mpr hafter]
  · rw [rdropWhile_append_of_forall _ hafter]

/-- `p in s` for two strings. -/
def contains (s p : String) : Bool :=
  decide (p.toList <:+: s.toList)

/-- A pattern without the separator lies on one side of it. -/
theorem isInfix_separated_iff {α : Type} {p a b : List α} {c : α} (hc : c ∉ p) :
    p <:+: a ++ c :: b ↔ p <:+: a ∨ p <:+: b := by
  rw [List.infix_append_iff, List.infix_cons_iff]
  constructor
  · rintro (h | (hstart | h) | ⟨l₁, l₂, rfl, hsuffix, hstart⟩)
    · exact .inl h
    · rcases List.prefix_cons_iff.mp hstart with rfl | ⟨t, rfl, -⟩
      · exact .inl (List.nil_infix)
      · simp at hc
    · exact .inr h
    · rcases List.prefix_cons_iff.mp hstart with rfl | ⟨t, rfl, -⟩
      · exact .inl (by simpa using hsuffix.isInfix)
      · simp at hc
  · rintro (h | h)
    · exact .inl h
    · exact .inr (.inl (.inr h))

theorem contains_comma_iff {p : String} (hp : ',' ∉ p.toList) (s t : String) :
    contains (s ++ ", " ++ t) p = true ↔
      contains s p = true ∨ contains (" " ++ t) p = true := by
  have hsplit : (s ++ ", " ++ t).toList = s.toList ++ ',' :: (" " ++ t).toList := by
    simp
  simp only [contains, decide_eq_true_eq, hsplit]
  exact isInfix_separated_iff hp

/-- The loop of `str.split`: `piece` is what was read since the last separator,
`skip` the number of its characters still to be passed over. -/
def splitFrom (sep piece : List Char) : (skip : Nat) → List Char → List (List Char)
  | _, [] => [piece]
  | skip + 1, _ :: cs => splitFrom sep piece skip cs
  | 0, c :: cs =>
      if sep <+: c :: cs then piece :: splitFrom sep [] (sep.length - 1) cs
      else splitFrom sep (piece ++ [c]) 0 cs

/-- `s.split(sep)` for a separator that is not empty. -/
def splitOn (s sep : String) : List String :=
  (splitFrom sep.toList [] 0 s.toList).map String.ofList

/-- `s.replace(old, new)` for single characters. -/
def replaceChar (s : String) (old new : Char) : String :=
  String.ofList (s.toList.map fun c => if c = old then new else c)

def endsWith (s suffix : String) : Bool :=
  decide (suffix.toList <:+ s.toList)

/-- What `if s:` lets through of an optional string. -/
def nonEmpty (s : Option String) : Option String :=
  s.filter (· ≠ "")

/-- `', '.join(parts)`. -/
def joinComma (parts : List String) : String :=
  String.intercalate ", " parts

/-- `str` of a list of words that `repr` writes between plain quotes, such as
the values of an enumeration. -/
def wordListStr (words : List String) : String :=
  "[" ++ joinComma (words.map fun w => "'" ++ w ++ "'") ++ "]"

/-- What depends on the Unicode version the interpreter ships: which characters
`str.isprintable` holds of, and the lower-case mapping.  Both are fixed on
ASCII. -/
structure UnicodeTables where
  isPrintable : Char → Bool
  lower : String → String
  isPrintable_ascii : ∀ c : Char, c.toNat < 128 →
    isPrintable c = (32 ≤ c.toNat && c.toNat < 127)
  lower_ascii : ∀ s : String, (∀ c ∈ s.toList, c.toNat < 128) →
    lower s = String.ofList (s.toList.map Char.toLower)

def asciiTables : UnicodeTables where
  isPrintable c := 32 ≤ c.toNat && c.toNat < 127
  lower s := String.ofList (s.toList.map Char.toLower)
  isPrintable_ascii _ _ := rfl
  lower_ascii _ _ := rfl

theorem UnicodeTables.lower_of_all (tables : UnicodeTables) {s : String}
    (h : s.toList.all (·.toNat < 128) = true) :
    tables.lower s = String.ofList (s.toList.map Char.toLower) := by
  apply tables.lower_ascii
  intro c hc
  simpa using List.all_eq_true.mp h c hc

def hexDigits : (width n : Nat) → List Char
  | 0, _ => []
  | width + 1, n => hexDigits width (n / 16) ++ [Nat.digitChar (n % 16)]

section Repr

variable (tables : UnicodeTables)

/-- One character inside the `repr` of a string delimited by `quote`. -/
def escapeChar (quote c : Char) : List Char :=
  if c = quote ∨ c = '\\' then ['\\', c]
  else if c = '\t' then ['\\', 't']
  else if c = '\n' then ['\\', 'n']
  else if c = '\r' then ['\\', 'r']
  else if tables.isPrintable c then [c]
  else if c.toNat < 0x100 then '\\' :: 'x' :: hexDigits 2 c.toNat
  else if c.toNat < 0x10000 then '\\' :: 'u' :: hexDigits 4 c.toNat
  else '\\' :: 'U' :: hexDigits 8 c.toNat

/-- `repr(s)`: single quotes, unless the string holds a single quote and no
double quote. -/
def reprStr (s : String) : String :=
  let quote := if '\'' ∈ s.toList ∧ '"' ∉ s.toList then '"' else '\''
  String.ofList (quote :: s.toList.flatMap (escapeChar tables quote) ++ [quote])

def listStr (words : List String) : String :=
  "[" ++ joinComma (words.map (reprStr tables)) ++ "]"

/-- An exception a back end raises: its text, and whether it is an `Exception`,
as `KeyboardInterrupt` and `SystemExit` are not. -/
structure BackendError where
  text : String
  isException : Bool := true
  deriving DecidableEq, Repr

/-- A value held under the annotation `Any`.  Only its `repr` is ever looked
at, so anything but a string is kept as that text, or as what `repr` raises: an
integer of more than 4300 digits, say, or an object with a `__repr__` that fails. -/
inductive Value where
  | str (s : String)
  | object (repr : String)
  | raising (e : BackendError)
  deriving DecidableEq, Repr

def Value.repr : Value → Except BackendError String
  | .str s => .ok (reprStr tables s)
  | .object r => .ok r
  | .raising e => .error e

abbrev Dict := List (String × Value)

def entryStr (entry : String × Value) : Except BackendError String := do
  let value ← entry.2.repr tables
  return reprStr tables entry.1 ++ ": " ++ value

/-- `str(d)` of a dictionary: what the first of its values raises, if one does. -/
def dictStr (d : Dict) : Except BackendError String := do
  let entries ← d.mapM (entryStr tables)
  return "\x7b" ++ joinComma entries ++ "\x7d"

/-- `repr` of the value returns. -/
def Value.Prints : Value → Prop
  | .str _ => True
  | .object _ => True
  | .raising _ => False

instance : (value : Value) → Decidable value.Prints
  | .str _ => inferInstanceAs (Decidable True)
  | .object _ => inferInstanceAs (Decidable True)
  | .raising _ => inferInstanceAs (Decidable False)

theorem Value.exists_repr (value : Value) :
    (∃ s, value.repr tables = .ok s) ↔ value.Prints := by
  cases value with
  | str s => simp [Value.repr, Value.Prints]
  | object r => simp [Value.repr, Value.Prints]
  | raising e => simp [Value.repr, Value.Prints]

/-- A printable ASCII character that is neither a quote nor a backslash. -/
def isPlain (c : Char) : Bool :=
  32 ≤ c.toNat && c.toNat < 127 && c ≠ '\'' && c ≠ '"' && c ≠ '\\'

theorem escapeChar_of_isPlain {c : Char} (h : isPlain c = true) :
    escapeChar tables '\'' c = [c] := by
  simp only [isPlain, Bool.and_eq_true, decide_eq_true_eq, ne_eq] at h
  obtain ⟨⟨⟨⟨hlow, hhigh⟩, hquote⟩, -⟩, hbackslash⟩ := h
  have hprintable : tables.isPrintable c = true := by
    rw [tables.isPrintable_ascii c (by omega)]
    simp [hlow, hhigh]
  have hcontrol : ∀ d : Char, d.toNat < 32 → c ≠ d := by
    rintro d hd rfl
    omega
  simp [escapeChar, hquote, hbackslash, hprintable, hcontrol '\t' (by decide),
    hcontrol '\n' (by decide), hcontrol '\r' (by decide)]

theorem reprStr_of_isPlain {s : String} (h : s.toList.all isPlain = true) :
    reprStr tables s = "'" ++ s ++ "'" := by
  have hplain : ∀ c ∈ s.toList, isPlain c = true := List.all_eq_true.mp h
  have hquote : '\'' ∉ s.toList := fun hmem => absurd (hplain _ hmem) (by decide)
  have hbody : s.toList.flatMap (escapeChar tables '\'') = s.toList := by
    rw [List.flatMap_congr fun c hc => escapeChar_of_isPlain tables (hplain c hc)]
    exact List.flatMap_singleton' _
  apply String.toList_inj.mp
  simp [reprStr, hquote, hbody]

theorem strip_braced (s : String) : strip ("\x7b" ++ s ++ "\x7d") = "\x7b" ++ s ++ "\x7d" := by
  have hlist : ("\x7b" ++ s ++ "\x7d").toList = '\x7b' :: s.toList ++ ['\x7d'] := by
    simp
  rw [strip, hlist, List.cons_append, List.dropWhile_cons_of_neg (by decide), ← List.cons_append,
    List.rdropWhile_concat_neg _ _ _ (by decide), ← hlist, String.ofList_toList]

end Repr

example : strip " \tdef f():\n\n" = "def f():" := by decide

example : splitOn "tests/test_a.py::::f" "::" = ["tests/test_a.py", "", "f"] := by decide

example : dictStr asciiTables [("content", .str "it's\n"), ("mock", .object "True")] =
    .ok "\x7b'content': \"it's\\n\", 'mock': True\x7d" := by decide

end NovaHarness.Text
