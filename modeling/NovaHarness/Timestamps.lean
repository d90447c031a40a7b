import Mathlib.Algebra.Order.Field.Basic
import Mathlib.Algebra.Order.Ring.Rat
import Mathlib.Tactic.FieldSimp
import Mathlib.Tactic.Linarith
import Mathlib.Tactic.Positivity
import NovaHarness.DecimalTexts

namespace NovaHarness.Timestamps

open NovaHarness.DecimalTexts

section Calendar

def IsLeap (year : Nat) : Prop :=
  year % 4 = 0 ∧ (year % 100 ≠ 0 ∨ year % 400 = 0)

instance (year : Nat) : Decidable (IsLeap year) :=
  inferInstanceAs (Decidable (_ ∧ _))

def yearLength (year : Nat) : Nat :=
  if IsLeap year then 366 else 365

def daysInMonth (year : Nat) : Nat → Nat
  | 2 => if IsLeap year then 29 else 28
  | 4 | 6 | 9 | 11 => 30
  | 1 | 3 | 5 | 7 | 8 | 10 | 12 => 31
  | _ => 0

/-- The days of the year that lie before a month. -/
def daysBeforeMonth (year : Nat) : Nat → Nat
  | 0 => 0
  | month + 1 => daysBeforeMonth year month + daysInMonth year month

/-- The days from the start of year 0; every fourth year is a leap year, but not
the hundredths that are not four hundredths. -/
def daysBeforeYear (year : Nat) : Nat :=
  365 * year + (year + 3) / 4 + (year + 399) / 400 - (year + 99) / 100

/-- The multiples of `k` below `n + 1` are those below `n`, and perhaps `n`. -/
theorem multiples_succ {k : Nat} (hk : 0 < k) (n : Nat) :
    (n + 1 + (k - 1)) / k = (n + (k - 1)) / k + if n % k = 0 then 1 else 0 := by
  rw [Nat.add_right_comm, Nat.succ_div, show n + (k - 1) + 1 = n + k by omega]
  simp only [Nat.dvd_iff_mod_eq_zero, Nat.add_mod_right]

theorem yearLength_eq (year : Nat) :
    yearLength year + (if year % 100 = 0 then 1 else 0) =
      365 + (if year % 4 = 0 then 1 else 0) + if year % 400 = 0 then 1 else 0 := by
  have hfour : year % 100 = 0 → year % 4 = 0 := by omega
  have hhundred : year % 400 = 0 → year % 100 = 0 := by omega
  unfold yearLength
  by_cases h4 : year % 4 = 0 <;> by_cases h100 : year % 100 = 0 <;>
    by_cases h400 : year % 400 = 0 <;> simp_all [IsLeap]

theorem daysBeforeYear_succ (year : Nat) :
    daysBeforeYear (year + 1) = daysBeforeYear year + yearLength year := by
  have h4 := multiples_succ (by decide : 0 < 4) year
  have h100 := multiples_succ (by decide : 0 < 100) year
  have h400 := multiples_succ (by decide : 0 < 400) year
  have hlength := yearLength_eq year
  have hle : (year + 99) / 100 ≤ year + 1 := by omega
  simp only [Nat.reduceSub] at h4 h100 h400
  unfold daysBeforeYear
  rw [h4, h100, h400]
  omega

theorem daysBeforeYear_mono {y z : Nat} (h : y ≤ z) : daysBeforeYear y ≤ daysBeforeYear z := by
  refine monotone_nat_of_le_succ (fun year => ?_) h
  rw [daysBeforeYear_succ]
  omega

theorem daysBeforeMonth_mono (year : Nat) {m n : Nat} (h : m ≤ n) :
    daysBeforeMonth year m ≤ daysBeforeMonth year n :=
  monotone_nat_of_le_succ (fun _ => Nat.le_add_right _ _) h

theorem daysBeforeMonth_thirteen (year : Nat) : daysBeforeMonth year 13 = yearLength year := by
  simp only [daysBeforeMonth, daysInMonth, yearLength]
  split <;> rfl

end Calendar

theorem lex_trichotomy (m n : Nat) {before same after : Prop} (h : before ∨ same ∨ after) :
    (m < n ∨ m = n ∧ before) ∨ (m = n ∧ same) ∨ (n < m ∨ n = m ∧ after) := by
  rcases lt_trichotomy m n with hlt | heq | hgt
  · exact .inl (.inl hlt)
  · rcases h with h | h | h
    · exact .inl (.inr ⟨heq, h⟩)
    · exact .inr (.inl ⟨heq, h⟩)
    · exact .inr (.inr (.inr ⟨heq.symm, h⟩))
  · exact .inr (.inr (.inl hgt))

/-- A date and a time of day as a clock shows them. -/
structure LocalTime where
  year : Nat
  month : Nat
  day : Nat
  hour : Nat
  minute : Nat
  second : Nat
  year_lt : year < 10000
  month_pos : 1 ≤ month
  month_le : month ≤ 12
  day_pos : 1 ≤ day
  day_le : day ≤ daysInMonth year month
  hour_lt : hour < 24
  minute_lt : minute < 60
  second_lt : second < 60
  deriving DecidableEq

namespace LocalTime

variable (t u : LocalTime)

/-- The day, counted from the start of year 0. -/
def dayNumber : Nat :=
  daysBeforeYear t.year + daysBeforeMonth t.year t.month + t.day

def seconds : Nat :=
  86400 * t.dayNumber + 3600 * t.hour + 60 * t.minute + t.second

/-- The first field that differs is smaller. -/
def Before : Prop :=
  t.year < u.year ∨ t.year = u.year ∧ (t.month < u.month ∨ t.month = u.month ∧
    (t.day < u.day ∨ t.day = u.day ∧ (t.hour < u.hour ∨ t.hour = u.hour ∧
      (t.minute < u.minute ∨ t.minute = u.minute ∧ t.second < u.second))))

theorem eq_iff : t = u ↔ t.year = u.year ∧ t.month = u.month ∧ t.day = u.day ∧
    t.hour = u.hour ∧ t.minute = u.minute ∧ t.second = u.second := by
  cases t
  cases u
  simp

theorem before_or_eq_or_before : t.Before u ∨ t = u ∨ u.Before t := by
  rw [eq_iff]
  -- field after field: one of them is smaller, or the next fields decide
  exact lex_trichotomy _ _ <| lex_trichotomy _ _ <| lex_trichotomy _ _ <|
    lex_trichotomy _ _ <| lex_trichotomy _ _ <| lt_trichotomy _ _

variable {t u}

/-- A day of the year does not reach into the next one. -/
theorem dayNumber_le : t.dayNumber ≤ daysBeforeYear t.year + yearLength t.year := by
  have hmonth := daysBeforeMonth_mono t.year (Nat.succ_le_succ t.month_le)
  rw [daysBeforeMonth_thirteen, daysBeforeMonth] at hmonth
  have hday := t.day_le
  unfold dayNumber
  omega

theorem dayNumber_lt_of_year_lt (h : t.year < u.year) : t.dayNumber < u.dayNumber := by
  have hle : t.dayNumber ≤ daysBeforeYear t.year + yearLength t.year := dayNumber_le
  have hyears := daysBeforeYear_mono (Nat.succ_le_of_lt h)
  rw [Nat.succ_eq_add_one, daysBeforeYear_succ] at hyears
  have hday := u.day_pos
  have hdef : u.dayNumber = daysBeforeYear u.year + daysBeforeMonth u.year u.month + u.day := rfl
  omega

theorem dayNumber_lt_of_month_lt (hyear : t.year = u.year) (h : t.month < u.month) :
    t.dayNumber < u.dayNumber := by
  have hmonths := daysBeforeMonth_mono u.year (Nat.succ_le_of_lt h)
  rw [Nat.succ_eq_add_one, daysBeforeMonth] at hmonths
  have hday := t.day_le
  have hpos := u.day_pos
  unfold dayNumber
  rw [hyear] at hday ⊢
  omega

theorem seconds_lt_of_dayNumber_lt (h : t.dayNumber < u.dayNumber) : t.seconds < u.seconds := by
  have hhour := t.hour_lt
  have hminute := t.minute_lt
  have hsecond := t.second_lt
  unfold seconds
  omega

theorem seconds_lt_of_before (h : t.Before u) : t.seconds < u.seconds := by
  rcases h with hyear | ⟨hyear, hmonth | ⟨hmonth, hrest⟩⟩
  · exact seconds_lt_of_dayNumber_lt (dayNumber_lt_of_year_lt hyear)
  · exact seconds_lt_of_dayNumber_lt (dayNumber_lt_of_month_lt hyear hmonth)
  · have hminute := t.minute_lt
    have hsecond := t.second_lt
    have hhour := t.hour_lt
    unfold seconds dayNumber
    rw [hyear, hmonth]
    omega

/-- The fields are in the order of the time that they show. -/
theorem before_iff : t.Before u ↔ t.seconds < u.seconds := by
  refine ⟨seconds_lt_of_before, fun h => ?_⟩
  rcases before_or_eq_or_before t u with hbefore | rfl | hafter
  · exact hbefore
  · exact absurd h (lt_irrefl _)
  · exact absurd h (seconds_lt_of_before hafter).not_gt

theorem eq_iff_seconds : t = u ↔ t.seconds = u.seconds := by
  constructor
  · rintro rfl
    rfl
  · intro h
    rcases before_or_eq_or_before t u with hbefore | heq | hafter
    · exact absurd h (seconds_lt_of_before hbefore).ne
    · exact heq
    · exact absurd h (seconds_lt_of_before hafter).ne'

end LocalTime

section Texts

/-- With or without marks between the numbers. -/
inductive Format where
  | basic
  | extended
  deriving DecidableEq

def Format.dateMark : Format → List Char
  | .basic => []
  | .extended => ['-']

def Format.timeMark : Format → List Char
  | .basic => []
  | .extended => [':']

def LocalTime.text (format : Format) (t : LocalTime) : List Char :=
  chars (fixed 4 t.year) ++ format.dateMark ++ chars (fixed 2 t.month) ++ format.dateMark ++
    chars (fixed 2 t.day) ++ ['T'] ++ chars (fixed 2 t.hour) ++ format.timeMark ++
    chars (fixed 2 t.minute) ++ format.timeMark ++ chars (fixed 2 t.second)

variable {t u : LocalTime}

theorem daysInMonth_le (year month : Nat) : daysInMonth year month ≤ 31 := by
  unfold daysInMonth
  split
  · split <;> omega
  all_goals omega

/-- Every field fits into its digits. -/
theorem LocalTime.fields_lt (t : LocalTime) :
    t.year < 10 ^ 4 ∧ t.month < 10 ^ 2 ∧ t.day < 10 ^ 2 ∧ t.hour < 10 ^ 2 ∧
      t.minute < 10 ^ 2 ∧ t.second < 10 ^ 2 := by
  have hday := t.day_le.trans (daysInMonth_le _ _)
  have hmonth := t.month_le
  have hhour := t.hour_lt
  have hminute := t.minute_lt
  have hsecond := t.second_lt
  exact ⟨t.year_lt, by omega, by omega, by omega, by omega, by omega⟩

/-- In one format, texts that go on after the seconds are compared by the local
times first. -/
theorem text_append_lt_iff (format : Format) (a b : List Char) :
    t.text format ++ a < u.text format ++ b ↔ t.Before u ∨ t = u ∧ a < b := by
  obtain ⟨hyear, hmonth, hday, hhour, hminute, hsecond⟩ := t.fields_lt
  obtain ⟨hyear', hmonth', hday', hhour', hminute', hsecond'⟩ := u.fields_lt
  simp only [LocalTime.text, List.append_assoc, prefix_append_lt_iff,
    fixed_append_lt_iff hyear hyear', fixed_append_lt_iff hmonth hmonth',
    fixed_append_lt_iff hday hday', fixed_append_lt_iff hhour hhour',
    fixed_append_lt_iff hminute hminute', fixed_append_lt_iff hsecond hsecond']
  simp only [LocalTime.eq_iff, LocalTime.Before, and_or_left, or_assoc, and_assoc]

theorem hyphen_lt_digitChar : ∀ d : Fin 10, '-' < digitChar d := by
  decide

theorem hyphen_cons_lt (n : Nat) (s r : List Char) : '-' :: s < chars (fixed 2 n) ++ r :=
  List.cons_lt_cons_iff.mpr (.inl (hyphen_lt_digitChar _))

/-- Between the formats only the years are compared; the mark after an equal
year is less than a digit. -/
theorem basic_append_lt_iff (a b : List Char) :
    t.text .basic ++ a < u.text .extended ++ b ↔ t.year < u.year := by
  simp only [LocalTime.text, Format.dateMark, List.append_assoc, List.nil_append,
    List.cons_append, fixed_append_lt_iff t.fields_lt.1 u.fields_lt.1,
    (hyphen_cons_lt _ _ _).not_gt, and_false, or_false]

theorem extended_append_lt_iff (a b : List Char) :
    t.text .extended ++ a < u.text .basic ++ b ↔ t.year ≤ u.year := by
  simp only [LocalTime.text, Format.dateMark, List.append_assoc, List.nil_append,
    List.cons_append, fixed_append_lt_iff t.fields_lt.1 u.fields_lt.1, hyphen_cons_lt,
    and_true, le_iff_lt_or_eq]

end Texts

section Fractions

/-- The number that digits behind a point stand for. -/
def fractionOf (ds : Digits) : ℚ :=
  value ds / 10 ^ ds.length

theorem fractionOf_nil : fractionOf [] = 0 := by
  simp [fractionOf, value]

theorem fractionOf_cons (d : Fin 10) (ds : Digits) :
    fractionOf (d :: ds) = (((d : Nat) : Int) + fractionOf ds) / 10 := by
  have hpos : (10 : ℚ) ^ ds.length ≠ 0 := by positivity
  simp only [fractionOf, value, List.length_cons, pow_succ]
  push_cast
  field_simp

theorem fractionOf_nonneg (ds : Digits) : 0 ≤ fractionOf ds := by
  unfold fractionOf
  positivity

theorem fractionOf_lt_one (ds : Digits) : fractionOf ds < 1 := by
  have hlt : (value ds : ℚ) < 10 ^ ds.length := by
    exact_mod_cast value_lt ds
  rw [fractionOf, div_lt_one (by positivity)]
  exact hlt

/-- Whole parts are compared first, and fractions when these are equal. -/
theorem whole_add_lt_iff {m n : Int} {p q : ℚ} (hp : 0 ≤ p) (hp' : p < 1) (hq : 0 ≤ q)
    (hq' : q < 1) : (m : ℚ) + p < n + q ↔ m < n ∨ m = n ∧ p < q := by
  rcases lt_trichotomy m n with hlt | rfl | hgt
  · have hcast : (m : ℚ) + 1 ≤ n := by exact_mod_cast hlt
    simp only [hlt, true_or, iff_true]
    linarith
  · simp
  · have hcast : (n : ℚ) + 1 ≤ m := by exact_mod_cast hgt
    simp only [hgt.not_gt, hgt.ne', false_and, or_self, iff_false, not_lt]
    linarith

theorem fractionOf_cons_lt_iff (d e : Fin 10) (ds es : Digits) :
    fractionOf (d :: ds) < fractionOf (e :: es) ↔
      d < e ∨ d = e ∧ fractionOf ds < fractionOf es := by
  rw [fractionOf_cons, fractionOf_cons, div_lt_div_iff_of_pos_right (by norm_num),
    whole_add_lt_iff (fractionOf_nonneg ds) (fractionOf_lt_one ds) (fractionOf_nonneg es)
      (fractionOf_lt_one es), Nat.cast_lt, Nat.cast_inj, Fin.val_fin_lt, Fin.val_inj]

theorem fractionOf_pos_iff (ds : Digits) : 0 < fractionOf ds ↔ ∃ d ∈ ds, d.val ≠ 0 := by
  induction ds with
  | nil => simp [fractionOf_nil]
  | cons d ds ih =>
      have hnonneg := fractionOf_nonneg ds
      rw [fractionOf_cons, List.exists_mem_cons_iff, ← ih]
      by_cases hd : d.val = 0
      · simp [hd]
      · have hpos : (1 : ℚ) ≤ (((d : Nat) : Int) : ℚ) := by
          have hd' : 1 ≤ d.val := Nat.one_le_iff_ne_zero.mpr hd
          exact_mod_cast hd'
        simp only [hd, ne_eq, not_false_eq_true, true_or, iff_true]
        positivity

end Fractions

section Instants

inductive Sign where
  | plus
  | minus
  deriving DecidableEq

def Sign.char : Sign → Char
  | .plus => '+'
  | .minus => '-'

def Sign.apply : Sign → Int → Int
  | .plus, n => n
  | .minus, n => -n

/-- The offset from UTC: `Z`, hours, or hours and minutes with or without the
mark between them. -/
inductive Offset where
  | utc
  | hours (sign : Sign) (hour : Fin 24)
  | minutes (sign : Sign) (hour : Fin 24) (format : Format) (minute : Fin 60)
  deriving DecidableEq

def Offset.text : Offset → List Char
  | .utc => ['Z']
  | .hours sign hour => sign.char :: chars (fixed 2 hour)
  | .minutes sign hour format minute =>
      sign.char :: chars (fixed 2 hour) ++ format.timeMark ++ chars (fixed 2 minute)

def Offset.seconds : Offset → Int
  | .utc => 0
  | .hours sign hour => sign.apply (3600 * (hour : Nat))
  | .minutes sign hour _ minute => sign.apply (3600 * (hour : Nat) + 60 * (minute : Nat))

/-- The character that an offset begins with. -/
def Offset.mark : Offset → Char
  | .utc => 'Z'
  | .hours sign _ => sign.char
  | .minutes sign _ _ _ => sign.char

theorem Offset.exists_text (o : Offset) : ∃ rest, o.text = o.mark :: rest := by
  cases o with
  | utc => exact ⟨[], rfl⟩
  | hours sign hour => exact ⟨_, rfl⟩
  | minutes sign hour format minute => exact ⟨_, rfl⟩

theorem sign_lt_digitChar (sign : Sign) : ∀ d : Fin 10, sign.char < digitChar d := by
  cases sign <;> decide

theorem digitChar_lt_utc : ∀ d : Fin 10, digitChar d < 'Z' := by
  decide

/-- Behind digits an offset counts as less than any other digit, `Z` as more. -/
theorem Offset.mark_lt_digitChar_iff (o : Offset) (d : Fin 10) :
    o.mark < digitChar d ↔ o ≠ .utc := by
  cases o with
  | utc => simp [mark, (digitChar_lt_utc d).not_gt]
  | hours sign hour => simp [mark, sign_lt_digitChar]
  | minutes sign hour format minute => simp [mark, sign_lt_digitChar]

theorem Offset.digitChar_lt_mark_iff (o : Offset) (d : Fin 10) :
    digitChar d < o.mark ↔ o = .utc := by
  cases o with
  | utc => simp [mark, digitChar_lt_utc]
  | hours sign hour => simp [mark, (sign_lt_digitChar sign d).not_gt]
  | minutes sign hour format minute => simp [mark, (sign_lt_digitChar sign d).not_gt]

theorem Offset.mark_ne_digitChar (o : Offset) (d : Fin 10) : o.mark ≠ digitChar d := by
  by_cases h : o = .utc
  · exact ((o.digitChar_lt_mark_iff d).mpr h).ne'
  · exact ((o.mark_lt_digitChar_iff d).mpr h).ne

/-- Digits in front of an offset rank as texts as they do as fractions: where the
digits of one go on and those of the other do not, it is the offset that is compared
with a digit. -/
def DigitsRankAlike (o p : Offset) : Digits → Digits → Prop
  | [], [] => ¬ o.text < p.text
  | [], e :: es => o ≠ .utc ↔ ∃ c ∈ e :: es, c.val ≠ 0
  | _ :: _, [] => p ≠ .utc
  | d :: ds, e :: es => d = e → DigitsRankAlike o p ds es

theorem digitsRankAlike_iff (o p : Offset) (ds es : Digits) :
    (chars ds ++ o.text < chars es ++ p.text ↔ fractionOf ds < fractionOf es) ↔
      DigitsRankAlike o p ds es := by
  obtain ⟨rest, hrest⟩ := o.exists_text
  obtain ⟨rest', hrest'⟩ := p.exists_text
  induction ds generalizing es with
  | nil =>
      cases es with
      | nil => simp [chars, DigitsRankAlike]
      | cons e es =>
          rw [DigitsRankAlike, fractionOf_nil, fractionOf_pos_iff, hrest]
          simp only [chars, List.map_nil, List.nil_append, List.map_cons, List.cons_append,
            List.cons_lt_cons_iff, o.mark_lt_digitChar_iff, o.mark_ne_digitChar, false_and,
            or_false]
  | cons d ds ih =>
      cases es with
      | nil =>
          have hnot : ¬ fractionOf (d :: ds) < 0 := (fractionOf_nonneg _).not_gt
          rw [DigitsRankAlike, fractionOf_nil, hrest']
          simp only [chars, List.map_nil, List.nil_append, List.map_cons, List.cons_append,
            List.cons_lt_cons_iff, p.digitChar_lt_mark_iff, (p.mark_ne_digitChar d).symm,
            false_and, or_false, hnot, iff_false, ne_eq]
      | cons e es =>
          rw [DigitsRankAlike, fractionOf_cons_lt_iff, ← ih es]
          simp only [chars, List.map_cons, List.cons_append, List.cons_lt_cons_iff,
            digitChar_lt_iff, digitChar_inj]
          by_cases heq : d = e
          · simp [heq]
          · simp [heq]

/-- A decimal fraction of a second, behind a full stop or a comma. -/
structure Fraction where
  comma : Bool
  digits : Digits
  ne_nil : digits ≠ []
  deriving DecidableEq

def Fraction.mark (f : Fraction) : Char :=
  if f.comma = true then ',' else '.'

def Fraction.text (f : Fraction) : List Char :=
  f.mark :: chars f.digits

def Fraction.value (f : Fraction) : ℚ :=
  fractionOf f.digits

namespace Fraction

/-- A point is told from an offset at the first character. -/
theorem mark_ne_offset (f : Fraction) (o : Offset) : f.mark ≠ o.mark := by
  have hsign : ∀ sign : Sign, f.mark ≠ sign.char := by
    intro sign
    unfold mark
    cases sign <;> split <;> decide
  cases o with
  | utc =>
      unfold mark
      split <;> decide
  | hours sign hour => exact hsign sign
  | minutes sign hour format minute => exact hsign sign

theorem mark_eq_iff (f g : Fraction) : f.mark = g.mark ↔ f.comma = g.comma := by
  unfold mark
  cases f.comma <;> cases g.comma <;> decide

theorem mark_lt_iff (f g : Fraction) : f.mark < g.mark ↔ f.comma = true ∧ g.comma = false := by
  unfold mark
  cases f.comma <;> cases g.comma <;> decide

theorem text_append_lt_iff {f g : Fraction} (hcomma : f.comma = g.comma)
    (hlength : f.digits.length = g.digits.length) (rest : List Char) :
    f.text ++ rest < g.text ++ rest ↔ f.value < g.value := by
  have hpos : (0 : ℚ) < 10 ^ g.digits.length := by positivity
  simp only [text, mark, hcomma, List.cons_append, List.cons_lt_cons_self]
  rw [append_lt_append_iff (by simpa using hlength), chars_lt_iff, lt_iff_value_lt hlength,
    value, value, fractionOf, fractionOf, hlength, div_lt_div_iff_of_pos_right hpos, Nat.cast_lt]
  simp

end Fraction

structure Timestamp where
  format : Format
  localTime : LocalTime
  fraction : Option Fraction := none
  offset : Offset
  deriving DecidableEq

namespace Timestamp

variable (t u : Timestamp)

/-- What stands behind the seconds. -/
def tail : List Char :=
  (t.fraction.map Fraction.text).getD [] ++ t.offset.text

def text : String :=
  String.ofList (t.localTime.text t.format ++ t.tail)

def fractionValue : ℚ :=
  (t.fraction.map Fraction.value).getD 0

/-- The time that the clock of the place shows, in seconds. -/
def clock : ℚ :=
  t.localTime.seconds + t.fractionValue

/-- The same moment in UTC. -/
def instant : ℚ :=
  t.clock - t.offset.seconds

/-- The clock of `u` is ahead of that of `t`, to the second, by more than its offset
is; where it is ahead by as much, the fractions decide. -/
def ClockOutruns (fractions : Prop) : Prop :=
  u.offset.seconds - t.offset.seconds < (u.localTime.seconds : Int) - t.localTime.seconds ∨
    u.offset.seconds - t.offset.seconds = (u.localTime.seconds : Int) - t.localTime.seconds ∧
      fractions

/-- What the order of the texts comes down to: within a format the local times to
the second, and what stands behind them when these are equal; between the
formats the years, and in one year the extended format first. -/
def TextBefore : Prop :=
  if t.format = u.format then
    t.localTime.seconds < u.localTime.seconds ∨ t.localTime = u.localTime ∧ t.tail < u.tail
  else t.localTime.year < u.localTime.year ∨
    t.localTime.year = u.localTime.year ∧ t.format = .extended

variable {t u}

theorem text_lt_iff : t.text < u.text ↔ t.TextBefore u := by
  rw [String.lt_iff, text, text, String.toList_ofList, String.toList_ofList, TextBefore]
  split
  · rename_i hformat
    rw [hformat, text_append_lt_iff, LocalTime.before_iff]
  · rename_i hformat
    rcases ht : t.format with _ | _ <;> rcases hu : u.format with _ | _
    · exact absurd (ht.trans hu.symm) hformat
    · simp [basic_append_lt_iff]
    · simp [extended_append_lt_iff, le_iff_lt_or_eq]
    · exact absurd (ht.trans hu.symm) hformat

theorem text_ne_empty (t : Timestamp) : t.text ≠ "" := by
  rw [text, Ne, String.ofList_eq_empty_iff]
  intro h
  have hlength := congrArg List.length h
  simp [LocalTime.text] at hlength

theorem fractionValue_nonneg (t : Timestamp) : 0 ≤ t.fractionValue := by
  unfold fractionValue
  rcases t.fraction with _ | f
  · exact le_refl 0
  · exact fractionOf_nonneg f.digits

theorem fractionValue_lt_one (t : Timestamp) : t.fractionValue < 1 := by
  unfold fractionValue
  rcases t.fraction with _ | f
  · exact zero_lt_one
  · exact fractionOf_lt_one f.digits

theorem instant_eq (t : Timestamp) :
    t.instant = ((t.localTime.seconds - t.offset.seconds : Int) : ℚ) + t.fractionValue := by
  rw [instant, clock]
  push_cast
  ring

theorem instant_lt_iff :
    t.instant < u.instant ↔ ClockOutruns t u (t.fractionValue < u.fractionValue) := by
  rw [instant_eq, instant_eq, whole_add_lt_iff t.fractionValue_nonneg t.fractionValue_lt_one
    u.fractionValue_nonneg u.fractionValue_lt_one, ClockOutruns]
  apply or_congr
  · omega
  · apply and_congr_left'
    omega

theorem instant_le_iff :
    t.instant ≤ u.instant ↔ ClockOutruns t u (t.fractionValue ≤ u.fractionValue) := by
  rw [← not_lt, instant_lt_iff, ClockOutruns, ClockOutruns, ← not_lt]
  by_cases hfraction : u.fractionValue < t.fractionValue
  · simp only [hfraction, not_true_eq_false, and_true, and_false, or_false]
    omega
  · simp only [hfraction, not_false_eq_true, and_true, and_false, or_false]
    omega

/-- Two timestamps in one format, with one offset and with fractions of the same
length behind the same mark, if with any. -/
structure SameNotation (t u : Timestamp) : Prop where
  format : t.format = u.format
  offset : t.offset = u.offset
  fraction : t.fraction.map (fun f => (f.comma, f.digits.length)) =
    u.fraction.map fun f => (f.comma, f.digits.length)

theorem tail_lt_iff (h : SameNotation t u) :
    t.tail < u.tail ↔ t.fractionValue < u.fractionValue := by
  have hfraction := h.fraction
  rw [tail, tail, h.offset, fractionValue, fractionValue]
  rcases ht : t.fraction with _ | f <;> rcases hu : u.fraction with _ | g <;>
    rw [ht, hu] at hfraction
  · simp
  · simp at hfraction
  · simp at hfraction
  · obtain ⟨hcomma, hlength⟩ : f.comma = g.comma ∧ f.digits.length = g.digits.length := by
      simpa using hfraction
    simp only [Option.map_some, Option.getD_some]
    exact Fraction.text_append_lt_iff hcomma hlength _

/-- What stands behind the seconds ranks as the fractions do. -/
def TailsRankAlike (t u : Timestamp) : Prop :=
  match t.fraction, u.fraction with
  | none, none => ¬ t.offset.text < u.offset.text
  | none, some g => t.offset.mark < g.mark ↔ ∃ d ∈ g.digits, d.val ≠ 0
  | some f, none => u.offset.mark < f.mark
  | some f, some g =>
      if f.comma = g.comma then DigitsRankAlike t.offset u.offset f.digits g.digits
      else f.comma = true ↔ f.value < g.value

theorem tailsRankAlike_iff :
    (t.tail < u.tail ↔ t.fractionValue < u.fractionValue) ↔ TailsRankAlike t u := by
  obtain ⟨rest, hrest⟩ := t.offset.exists_text
  obtain ⟨rest', hrest'⟩ := u.offset.exists_text
  unfold tail fractionValue TailsRankAlike
  rcases t.fraction with _ | f <;> rcases u.fraction with _ | g <;>
    simp only [Option.map_none, Option.map_some, Option.getD_none, Option.getD_some,
      List.nil_append, Fraction.text, List.cons_append]
  · simp
  · rw [hrest, List.cons_lt_cons_iff, Fraction.value, fractionOf_pos_iff]
    simp only [(g.mark_ne_offset t.offset).symm, false_and, or_false]
  · have hnot : ¬ f.value < 0 := (fractionOf_nonneg f.digits).not_gt
    rw [hrest', List.cons_lt_cons_iff]
    simp only [f.mark_ne_offset u.offset, false_and, or_false, hnot, iff_false, not_lt]
    exact (f.mark_ne_offset u.offset).symm.le_iff_lt
  · split
    · rename_i hcomma
      rw [(Fraction.mark_eq_iff f g).mpr hcomma, List.cons_lt_cons_self]
      exact digitsRankAlike_iff t.offset u.offset f.digits g.digits
    · rename_i hcomma
      have hfirst : f.mark < g.mark ↔ f.comma = true := by
        rw [Fraction.mark_lt_iff, and_iff_left_iff_imp]
        intro htrue
        rw [htrue] at hcomma
        simpa using hcomma
      rw [List.cons_lt_cons_iff, hfirst]
      simp only [mt (Fraction.mark_eq_iff f g).mp hcomma, false_and, or_false]

/-- In one notation the order of the texts is the order in time. -/
theorem textBefore_iff_of_sameNotation (h : SameNotation t u) :
    t.TextBefore u ↔ t.instant < u.instant := by
  rw [TextBefore, if_pos h.format, tail_lt_iff h, instant_lt_iff, ClockOutruns, h.offset,
    LocalTime.eq_iff_seconds]
  apply or_congr
  · omega
  · apply and_congr_left'
    omega

end Timestamp

end Instants

end NovaHarness.Timestamps
