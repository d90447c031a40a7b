import NovaHarness.DecimalTexts
import NovaHarness.RecordValidation

namespace NovaHarness.CapabilityVersions

open NovaHarness.Text
open NovaHarness.RecordValidation
open NovaHarness.DecimalTexts

structure CapabilityRequirementRecord where
  requirementId : String
  declarationId : String
  capabilityName : String
  minimumVersion : Option String := none
  maximumVersion : Option String := none
  deriving DecidableEq, Repr

namespace CapabilityRequirementRecord

def versionConstraintsCoherent (record : CapabilityRequirementRecord) : Validated Unit :=
  match nonEmpty record.minimumVersion, nonEmpty record.maximumVersion with
  | some minimum, some maximum =>
      require (¬ minimum > maximum)
        ("minimum_version (" ++ minimum ++ ") > maximum_version (" ++ maximum ++ ")")
  | _, _ => .ok ()

def validate (raw : CapabilityRequirementRecord) : Validated CapabilityRequirementRecord :=
  twoLayers
    (idField "requirement_id" "requirement_id must not be blank" raw.requirementId ++
      idField "declaration_id" "declaration_id must not be blank" raw.declarationId ++
      idField "capability_name" "capability_name must not be blank" raw.capabilityName)
    { raw with
      requirementId := strip raw.requirementId
      declarationId := strip raw.declarationId
      capabilityName := strip raw.capabilityName }
    versionConstraintsCoherent

/-- The fields other than the version bounds are what they should be. -/
structure IdsFilled (raw : CapabilityRequirementRecord) : Prop where
  requirementId : ¬ IsBlank raw.requirementId
  declarationId : ¬ IsBlank raw.declarationId
  capabilityName : ¬ IsBlank raw.capabilityName

theorem exists_validate_iff (raw : CapabilityRequirementRecord) :
    (∃ record, raw.validate = .ok record) ↔
      raw.IdsFilled ∧ raw.versionConstraintsCoherent = .ok () := by
  simp only [validate, twoLayers_eq_ok, List.append_eq_nil_iff, idField_eq_nil]
  constructor
  · rintro ⟨_, ⟨⟨⟨hrequirement, hdeclaration⟩, hname⟩, hcoherent⟩, rfl⟩
    exact ⟨⟨hrequirement, hdeclaration, hname⟩, hcoherent⟩
  · rintro ⟨⟨hrequirement, hdeclaration, hname⟩, hcoherent⟩
    refine ⟨_, ⟨⟨⟨hrequirement, hdeclaration⟩, hname⟩, ?_⟩, rfl⟩
    exact hcoherent

end CapabilityRequirementRecord

section Dotted

/-- Decimal numbers with dots between them. -/
structure DottedVersion where
  components : List Digits
  ne_nil : components ≠ []
  filled : ∀ c ∈ components, c ≠ []

def dotted (components : List Digits) : List Char :=
  ['.'].intercalate (components.map chars)

namespace DottedVersion

def text (version : DottedVersion) : String :=
  String.ofList (dotted version.components)

def values (version : DottedVersion) : List Nat :=
  version.components.map value

end DottedVersion

/-- Component by component, `ms` is not greater than `ns`; components that are
missing count as 0. -/
def NotAbove : List Nat → List Nat → Prop
  | [], _ => True
  | m :: ms, [] => m = 0 ∧ NotAbove ms []
  | m :: ms, n :: ns => m < n ∨ m = n ∧ NotAbove ms ns

/-- Up to the first components that differ as texts, and there, the texts and
the numbers rank alike. -/
def RankedAlike : List Digits → List Digits → Prop
  | [], _ => True
  | m :: ms, [] => ∃ c ∈ m :: ms, value c ≠ 0
  | m :: ms, n :: ns =>
      if m = n then RankedAlike ms ns
      else if value m = value n then m < n ↔ NotAbove (ms.map value) (ns.map value)
      else m < n ↔ value m < value n

theorem notAbove_nil_iff (ms : List Nat) : NotAbove ms [] ↔ ∀ m ∈ ms, m = 0 := by
  induction ms with
  | nil => simp [NotAbove]
  | cons m ms ih => rw [NotAbove, ih, List.forall_mem_cons]

theorem notAbove_cons_self (m : Nat) (ms ns : List Nat) :
    NotAbove (m :: ms) (m :: ns) ↔ NotAbove ms ns := by
  simp [NotAbove]

/-- What follows the first component. -/
theorem dotted_cons (c : Digits) (cs : List Digits) :
    dotted (c :: cs) = chars c ++ cs.flatMap fun c' => '.' :: chars c' := by
  induction cs generalizing c with
  | nil => simp [dotted]
  | cons c' cs ih =>
      have hrest : dotted (c :: c' :: cs) = chars c ++ '.' :: dotted (c' :: cs) := by
        simp [dotted, List.intercalate_cons_cons]
      rw [hrest, ih, List.flatMap_cons, List.cons_append]

theorem dot_lt_digitChar : ∀ d : Fin 10, '.' < digitChar d := by
  decide

theorem stopsBelow_dot (cs : List Digits) (piece : Digits) :
    StopsBelow (cs.flatMap fun c => '.' :: chars c) (chars piece) := by
  intro d hd c hc
  obtain ⟨digit, -, rfl⟩ := List.mem_map.mp hc
  cases cs with
  | nil => simp at hd
  | cons c' cs =>
      obtain rfl : '.' = d := by simpa using hd
      exact dot_lt_digitChar digit

/-- A dot is less than a digit, so the texts are ordered like the lists of the
components' digits. -/
theorem dotted_lt_iff (m n : Digits) (ms ns : List Digits) :
    dotted (m :: ms) < dotted (n :: ns) ↔ m :: ms < n :: ns := by
  induction ms generalizing m n ns with
  | nil =>
      rw [dotted_cons, dotted_cons,
        append_lt_append_iff_of_stopsBelow (stopsBelow_dot _ _) (stopsBelow_dot _ _),
        chars_lt_iff, chars_inj, List.cons_lt_cons_iff]
      cases ns <;> simp
  | cons m' ms ih =>
      rw [dotted_cons, dotted_cons,
        append_lt_append_iff_of_stopsBelow (stopsBelow_dot _ _) (stopsBelow_dot _ _),
        chars_lt_iff, chars_inj, List.cons_lt_cons_iff]
      cases ns with
      | nil => simp
      | cons n' ns =>
          rw [List.flatMap_cons, List.flatMap_cons, List.cons_append, List.cons_append,
            ← dotted_cons, ← dotted_cons, List.cons_lt_cons_iff, ih]
          simp

/-- The order of the lists of digits against the one of the numbers. -/
theorem not_lt_iff_notAbove_iff (ms ns : List Digits) :
    ((¬ ns < ms) ↔ NotAbove (ms.map value) (ns.map value)) ↔ RankedAlike ms ns := by
  induction ms generalizing ns with
  | nil => simp [NotAbove, RankedAlike]
  | cons m ms ih =>
      cases ns with
      | nil =>
          rw [RankedAlike, List.map_nil, notAbove_nil_iff]
          simp [imp_iff_not_or]
      | cons n ns =>
          rw [RankedAlike, List.cons_lt_cons_iff]
          split
          · rename_i heq
            subst heq
            rw [← ih ns, List.map_cons, List.map_cons, notAbove_cons_self]
            simp
          · rename_i hne
            have hrank : ¬ (n < m ∨ n = m ∧ ns < ms) ↔ m < n := by
              rcases lt_trichotomy m n with h | h | h
              · simp [h, h.not_gt, h.ne']
              · exact absurd h hne
              · simp [h, h.not_gt]
            rw [hrank]
            split
            · rename_i hvalue
              rw [List.map_cons, List.map_cons, hvalue, notAbove_cons_self]
            · rename_i hvalue
              rw [List.map_cons, List.map_cons, NotAbove]
              simp only [hvalue, false_and, or_false]

/-- Versions written with the same numbers of digits always rank alike. -/
theorem rankedAlike_of_widths {ms ns : List Digits}
    (h : ms.map List.length = ns.map List.length) : RankedAlike ms ns := by
  induction ms generalizing ns with
  | nil => trivial
  | cons m ms ih =>
      cases ns with
      | nil => simp at h
      | cons n ns =>
          obtain ⟨hwidth, hrest⟩ := List.cons.inj h
          rw [RankedAlike]
          split
          · exact ih hrest
          · rename_i hne
            split
            · rename_i hvalue
              exact absurd (eq_of_value_eq hwidth hvalue) hne
            · exact lt_iff_value_lt hwidth

end Dotted

section Requirements

variable (raw : CapabilityRequirementRecord) (minimum maximum : DottedVersion)

def bounded : CapabilityRequirementRecord :=
  { raw with
    minimumVersion := some minimum.text
    maximumVersion := some maximum.text }

/-- The pair is accepted exactly when the minimum is not the greater version. -/
def OrderedAsVersions : Prop :=
  (∃ record, (bounded raw minimum maximum).validate = .ok record) ↔
    NotAbove minimum.values maximum.values

variable {raw minimum maximum}

theorem DottedVersion.text_ne_empty (version : DottedVersion) : version.text ≠ "" := by
  obtain ⟨c, cs, hcomponents⟩ := List.exists_cons_of_ne_nil version.ne_nil
  obtain ⟨d, ds, rfl⟩ := List.exists_cons_of_ne_nil
    (version.filled c (by rw [hcomponents]; exact List.mem_cons_self))
  rw [DottedVersion.text, hcomponents, dotted_cons, Ne, String.ofList_eq_empty_iff]
  simp [chars]

theorem DottedVersion.text_lt_iff (v w : DottedVersion) :
    v.text < w.text ↔ v.components < w.components := by
  obtain ⟨m, ms, hv⟩ := List.exists_cons_of_ne_nil v.ne_nil
  obtain ⟨n, ns, hw⟩ := List.exists_cons_of_ne_nil w.ne_nil
  rw [String.lt_iff, DottedVersion.text, DottedVersion.text, String.toList_ofList,
    String.toList_ofList, hv, hw, dotted_lt_iff]

theorem versionConstraintsCoherent_bounded :
    (bounded raw minimum maximum).versionConstraintsCoherent = .ok () ↔
      ¬ maximum.components < minimum.components := by
  have hminimum : nonEmpty (some minimum.text) = some minimum.text :=
    Option.filter_some_pos (by simpa using minimum.text_ne_empty)
  have hmaximum : nonEmpty (some maximum.text) = some maximum.text :=
    Option.filter_some_pos (by simpa using maximum.text_ne_empty)
  simp only [CapabilityRequirementRecord.versionConstraintsCoherent, bounded, hminimum,
    hmaximum, require_eq_ok, gt_iff_lt, DottedVersion.text_lt_iff]

/-- Text order is version order exactly on the pairs that rank alike. -/
theorem ordered_as_versions_iff (raw : CapabilityRequirementRecord) (hraw : raw.IdsFilled)
    (minimum maximum : DottedVersion) :
    OrderedAsVersions raw minimum maximum ↔
      RankedAlike minimum.components maximum.components := by
  have hids : (bounded raw minimum maximum).IdsFilled :=
    ⟨hraw.requirementId, hraw.declarationId, hraw.capabilityName⟩
  rw [OrderedAsVersions, CapabilityRequirementRecord.exists_validate_iff,
    and_iff_right hids, versionConstraintsCoherent_bounded]
  exact not_lt_iff_notAbove_iff _ _

def anyRequirement : CapabilityRequirementRecord where
  requirementId := "req-1"
  declarationId := "decl-1"
  capabilityName := "streaming"

def oneZero : DottedVersion := ⟨[[1], [0]], by decide, by decide⟩

def threeZero : DottedVersion := ⟨[[3], [0]], by decide, by decide⟩

theorem ordered_as_versions_threeZero : OrderedAsVersions anyRequirement oneZero threeZero :=
  (ordered_as_versions_iff anyRequirement ⟨by decide, by decide, by decide⟩ oneZero threeZero).mpr
    (rankedAlike_of_widths rfl)

def nine : DottedVersion := ⟨[[9]], by decide, by decide⟩

def ten : DottedVersion := ⟨[[1, 0]], by decide, by decide⟩

/-- The text of nine is greater than the text of ten. -/
theorem nine_to_ten_rejected : ¬ OrderedAsVersions anyRequirement nine ten := by
  intro h
  obtain ⟨record, haccepted⟩ := h.mpr (Or.inl (by decide))
  have hrejected : (bounded anyRequirement nine ten).validate.toOption = none := by decide
  rw [haccepted] at hrejected
  exact absurd hrejected (by simp [Except.toOption])

end Requirements

end NovaHarness.CapabilityVersions
