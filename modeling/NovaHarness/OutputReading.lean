import NovaHarness.DelimitedCodes
import NovaHarness.OutputRendering

namespace NovaHarness.OutputReading

open NovaHarness.Text
open NovaHarness.DelimitedCodes
open NovaHarness.Pipeline
open NovaHarness.OutputRendering

section Digits

@[simp] theorem length_hexDigits (width n : Nat) : (hexDigits width n).length = width := by
  induction width generalizing n with
  | zero => rfl
  | succ width ih => simp [hexDigits, ih]

theorem digitChar_inj : ∀ m n : Fin 16, Nat.digitChar m = Nat.digitChar n → m = n := by
  decide

theorem hexDigits_inj {width m n : Nat} (hm : m < 16 ^ width) (hn : n < 16 ^ width)
    (h : hexDigits width m = hexDigits width n) : m = n := by
  induction width generalizing m n with
  | zero => omega
  | succ width ih =>
      rw [Nat.pow_succ] at hm hn
      obtain ⟨hhigh, hlow⟩ := List.append_inj' h rfl
      have hquotient : m / 16 = n / 16 := by
        apply ih _ _ hhigh
        · omega
        · omega
      have hremainder : m % 16 = n % 16 := by
        have hdigit := digitChar_inj ⟨m % 16, Nat.mod_lt _ (by decide)⟩
          ⟨n % 16, Nat.mod_lt _ (by decide)⟩ (List.singleton_inj.mp hlow)
        exact Fin.mk.inj hdigit
      omega

end Digits

section Characters

variable (tables : UnicodeTables)

/-- How many hexadecimal digits follow a letter behind a backslash. -/
def digitsAfter : Char → Nat
  | 'x' => 2
  | 'u' => 4
  | 'U' => 8
  | _ => 0

/-- The character a backslash and a letter stand for, if no digits follow. -/
def named : Char → Char
  | 't' => '\t'
  | 'n' => '\n'
  | 'r' => '\r'
  | c => c

/-- The forms a character takes between two quotes. -/
inductive Escaped (quote c : Char) : List Char → Prop
  | plain (hquote : c ≠ quote) (hbackslash : c ≠ '\\') : Escaped quote c [c]
  | named (letter : Char) (hletter : digitsAfter letter = 0) (hnamed : named letter = c) :
      Escaped quote c ['\\', letter]
  | coded (letter : Char) (hletter : digitsAfter letter ≠ 0)
      (hsmall : c.toNat < 16 ^ digitsAfter letter) :
      Escaped quote c ('\\' :: letter :: hexDigits (digitsAfter letter) c.toNat)

theorem escaped_escapeChar {quote : Char} (hquote : quote = '\'' ∨ quote = '"') (c : Char) :
    Escaped quote c (escapeChar tables quote c) := by
  unfold escapeChar
  split
  · rename_i hself
    rcases hself with rfl | rfl
    · rcases hquote with rfl | rfl <;> exact .named _ rfl rfl
    · exact .named _ rfl rfl
  · rename_i hother
    obtain ⟨hne, hbackslash⟩ := not_or.mp hother
    split
    · rename_i htab
      exact .named 't' rfl htab.symm
    split
    · rename_i hnewline
      exact .named 'n' rfl hnewline.symm
    split
    · rename_i hreturn
      exact .named 'r' rfl hreturn.symm
    split
    · exact .plain hne hbackslash
    split
    · rename_i hbyte
      exact .coded 'x' (by decide) hbyte
    split
    · rename_i hshort
      exact .coded 'u' (by decide) hshort
    · exact .coded 'U' (by decide) c.val.toNat_lt

theorem Escaped.eq_of_append {quote c d : Char} {w w' x y : List Char} (hc : Escaped quote c w)
    (hd : Escaped quote d w') (h : w ++ x = w' ++ y) : c = d := by
  cases hc with
  | plain _ hbackslash =>
      cases hd with
      | plain => exact (List.cons.inj h).1
      | named | coded => exact absurd (List.cons.inj h).1 hbackslash
  | named letter hletter hnamed =>
      cases hd with
      | plain _ hbackslash => exact absurd (List.cons.inj h).1.symm hbackslash
      | named letter' _ hnamed' =>
          obtain rfl : letter = letter' := (List.cons.inj (List.cons.inj h).2).1
          exact hnamed.symm.trans hnamed'
      | coded letter' hletter' =>
          obtain rfl : letter = letter' := (List.cons.inj (List.cons.inj h).2).1
          exact absurd hletter hletter'
  | coded letter hletter hsmall =>
      cases hd with
      | plain _ hbackslash => exact absurd (List.cons.inj h).1.symm hbackslash
      | named letter' hletter' =>
          obtain rfl : letter = letter' := (List.cons.inj (List.cons.inj h).2).1
          exact absurd hletter' hletter
      | coded letter' _ hsmall' =>
          obtain ⟨hletters, hdigits⟩ := List.cons.inj (List.cons.inj h).2
          obtain rfl := hletters
          have hcodes := (List.append_inj hdigits (by simp)).1
          exact Char.toNat_inj.mp (hexDigits_inj hsmall hsmall' hcodes)

theorem Escaped.append_ne_quote {quote c : Char} {w : List Char} (h : Escaped quote c w)
    (hquote : quote ≠ '\\') (x y : List Char) : w ++ x ≠ [quote] ++ y := by
  intro heq
  cases h with
  | plain hne => exact hne (List.cons.inj heq).1
  | named | coded => exact hquote (List.cons.inj heq).1.symm

end Characters

section Strings

variable (tables : UnicodeTables)

def quoteOf (s : String) : Char :=
  if '\'' ∈ s.toList ∧ '"' ∉ s.toList then '"' else '\''

theorem quoteOf_cases (s : String) : quoteOf s = '\'' ∨ quoteOf s = '"' := by
  unfold quoteOf
  split
  · exact Or.inr rfl
  · exact Or.inl rfl

theorem toList_reprStr (s : String) :
    (reprStr tables s).toList =
      quoteOf s :: (s.toList.flatMap (escapeChar tables (quoteOf s)) ++ [quoteOf s]) := by
  simp [Text.reprStr, quoteOf]

/-- Characters up to the quote that closes them. -/
theorem selfDelimiting_quoted {quote : Char} (hquote : quote = '\'' ∨ quote = '"') :
    SelfDelimiting fun cs : List Char => cs.flatMap (escapeChar tables quote) ++ [quote] := by
  have hcharacter : SelfDelimiting (escapeChar tables quote) := by
    intro c d x y h
    exact (escaped_escapeChar tables hquote c).eq_of_append (escaped_escapeChar tables hquote d) h
  apply hcharacter.flatMap_stop
  intro c
  apply (escaped_escapeChar tables hquote c).append_ne_quote
  rcases hquote with rfl | rfl <;> decide

theorem selfDelimiting_reprStr : SelfDelimiting fun s => (reprStr tables s).toList := by
  intro s t x y h
  simp only [toList_reprStr, List.cons_append] at h
  obtain ⟨hquote, hbody⟩ := List.cons.inj h
  rw [← hquote] at hbody
  exact String.toList_inj.mp (selfDelimiting_quoted tables (quoteOf_cases s) hbody)

end Strings

section Dictionaries

variable (tables : UnicodeTables)

def entryChars (entry : String × String) : List Char :=
  (reprStr tables entry.1).toList ++ [':', ' '] ++ (reprStr tables entry.2).toList

theorem selfDelimiting_entryChars : SelfDelimiting (entryChars tables) := by
  have hkey := (selfDelimiting_reprStr tables).before [':', ' ']
  have hentry := hkey.pair (selfDelimiting_reprStr tables)
  exact hentry

def bodyChars (entries : List (String × String)) : List Char :=
  [',', ' '].intercalate (entries.map (entryChars tables)) ++ ['\x7d']

theorem toList_stringDictStr (entries : List (String × String)) :
    (stringDictStr tables entries).toList = '\x7b' :: bodyChars tables entries := by
  have hentries : entries.map (fun entry => reprStr tables entry.1 ++ ": " ++
      reprStr tables entry.2) = entries.map fun entry => String.ofList (entryChars tables entry) := by
    refine List.map_congr_left fun entry _ => ?_
    apply String.toList_inj.mp
    simp [entryChars]
  rw [stringDictStr, joinComma, hentries, bodyChars]
  simp [String.toList_intercalate, Function.comp_def]

theorem selfDelimiting_bodyChars : SelfDelimiting (bodyChars tables) := by
  apply (selfDelimiting_entryChars tables).separated
  · intro entry x y heq
    simp only [entryChars, toList_reprStr, List.cons_append] at heq
    have hbrace : quoteOf entry.1 = '\x7d' := (List.cons.inj heq).1
    rcases quoteOf_cases entry.1 with hquote | hquote
    · exact absurd (hquote.symm.trans hbrace) (by decide)
    · exact absurd (hquote.symm.trans hbrace) (by decide)
  · intro x y heq
    exact absurd (List.cons.inj heq).1 (by decide)

/-- The text of a dictionary of strings determines it, whatever characters are in it. -/
theorem stringDictStr_inj {entries entries' : List (String × String)}
    (h : stringDictStr tables entries = stringDictStr tables entries') : entries = entries' := by
  have hlist := congrArg String.toList h
  rw [toList_stringDictStr, toList_stringDictStr] at hlist
  exact (selfDelimiting_bodyChars tables).injective (List.cons.inj hlist).2

end Dictionaries

section Responses

/-- What verification reads of a response tells it from all others: no two of them
are rendered alike, whatever characters they hold. -/
theorem rendering_injective (tables : UnicodeTables) : Function.Injective (rendering tables) := by
  intro response response' h
  have hentries := stringDictStr_inj tables h
  simp only [responseEntries, List.cons.injEq, Prod.mk.injEq, true_and, and_true] at hentries
  obtain ⟨hcontent, hmodel, hfinish⟩ := hentries
  cases response
  cases response'
  rw [ModelResponse.mk.injEq]
  exact ⟨hcontent, hfinish, hmodel⟩

end Responses

end NovaHarness.OutputReading
