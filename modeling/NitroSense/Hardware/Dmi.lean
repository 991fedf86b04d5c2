import NitroSense.Config.OwnLists

/-!
# The model gate

`dmi_allowed` of `hardware/dmi.c`.  A profile without names allows every
machine, so what the gate lets through rests on how the names were read.
-/

namespace NitroSense

open Lib

def dmiAllowed (cfg : AnsConfig) (dmi : CString) : Bool :=
  cfg.allowedDmi.isEmpty || cfg.allowedDmi.any (stringContainsCase dmi)

/-! ## Containment without regard to case -/

section Containment

theorem startsWithCase_iff {needle haystack : CString} :
    startsWithCase needle haystack = true ↔ needle.map toLower <+: haystack.map toLower := by
  induction needle generalizing haystack with
  | nil => simp [startsWithCase]
  | cons n needle ih =>
      cases haystack with
      | nil => simp [startsWithCase]
      | cons h haystack =>
          rw [startsWithCase, Bool.and_eq_true, beq_iff_eq, ih, List.map_cons, List.map_cons,
            List.cons_prefix_cons, eq_comm]

theorem containsCaseFrom_iff {needle haystack : CString} (nonempty : needle ≠ []) :
    containsCaseFrom needle haystack = true ↔ needle.map toLower <:+: haystack.map toLower := by
  induction haystack with
  | nil => simp [containsCaseFrom, nonempty]
  | cons h haystack ih =>
      rw [containsCaseFrom, Bool.or_eq_true, ih, startsWithCase_iff, List.map_cons,
        List.infix_cons_iff]

theorem stringContainsCase_iff {needle haystack : CString} :
    stringContainsCase haystack needle = true ↔
      needle.map toLower <:+: haystack.map toLower := by
  cases needle with
  | nil => simp [stringContainsCase]
  | cons n needle => exact containsCaseFrom_iff (List.cons_ne_nil n needle)

theorem stringContainsCase_self (text : CString) : stringContainsCase text text = true :=
  stringContainsCase_iff.mpr List.infix_rfl

theorem stringContainsCase_trans {first second third : CString}
    (outer : stringContainsCase first second = true)
    (inner : stringContainsCase second third = true) : stringContainsCase first third = true :=
  stringContainsCase_iff.mpr
    ((stringContainsCase_iff.mp inner).trans (stringContainsCase_iff.mp outer))

/-- Nothing but the empty text is contained in the empty text. -/
theorem eq_nil_of_contains {needle : CString} (contains : stringContainsCase [] needle = true) :
    needle = [] :=
  List.map_eq_nil_iff.mp (List.infix_nil.mp (stringContainsCase_iff.mp contains))

end Containment

/-! ## The gate of a document -/

/-- The text contains a non-empty string of the array. -/
def ContainsListed (value : Json) (dmi : CString) : Prop :=
  ∃ items ∈ value.items?, ∃ item ∈ items, ∃ name ∈ item.string?,
    name ≠ [] ∧ stringContainsCase dmi name = true

/-- Unless the list of names is absent or an empty array, only listed machines are allowed. -/
def FailsClosed (root : Json) (cfg : AnsConfig) : Prop :=
  ∀ value ∈ root.value? "allowed_dmi_substrings".toList, value.items? ≠ some [] →
    ∀ dmi, dmiAllowed cfg dmi = true → ContainsListed value dmi

/-- The first array behind the quoted key has a quoted piece, and each of the first eight, cut to
what an entry holds, contains a listed name. -/
def PiecesListed (text : CString) (value : Json) : Prop :=
  ∃ array ∈ jsonFindArray text "allowed_dmi_substrings".toList, pieces '"' array ≠ [] ∧
    ∀ piece ∈ (pieces '"' array).take 8, ContainsListed value (piece.take 63)

section Gate

variable {value : Json} {first second : CString}

theorem ContainsListed.of_contains (contains : stringContainsCase first second = true)
    (listed : ContainsListed value second) : ContainsListed value first := by
  obtain ⟨items, isArray, item, inside, name, isString, nonempty, inner⟩ := listed
  exact ⟨items, isArray, item, inside, name, isString, nonempty,
    stringContainsCase_trans contains inner⟩

theorem not_containsListed_nil : ¬ ContainsListed value [] := by
  rintro ⟨_, _, _, _, name, _, nonempty, contains⟩
  exact nonempty (eq_nil_of_contains contains)

/-- The gate lets only listed machines through when it has entries and each contains a name. -/
theorem allowed_listed_iff {cfg : AnsConfig} :
    (∀ dmi, dmiAllowed cfg dmi = true → ContainsListed value dmi) ↔
      cfg.allowedDmi ≠ [] ∧ ∀ entry ∈ cfg.allowedDmi, ContainsListed value entry := by
  constructor
  · intro closed
    constructor
    · intro empty
      have open_ : dmiAllowed cfg [] = true := by rw [dmiAllowed, empty]; rfl
      exact not_containsListed_nil (closed [] open_)
    · intro entry member
      refine closed entry (Bool.or_eq_true_iff.mpr (Or.inr ?_))
      exact List.any_eq_true.mpr ⟨entry, member, stringContainsCase_self entry⟩
  · rintro ⟨nonempty, listed⟩ dmi allowed
    rcases Bool.or_eq_true_iff.mp allowed with empty | found
    · exact absurd (List.isEmpty_iff.mp empty) nonempty
    · obtain ⟨entry, member, contains⟩ := List.any_eq_true.mp found
      exact (listed entry member).of_contains contains

/-- The entries of a text are the pieces of the array it finds. -/
theorem entries_listed_iff {text : CString} :
    (configParseAllowedDmi text ≠ [] ∧
      ∀ entry ∈ configParseAllowedDmi text, ContainsListed value entry) ↔
        PiecesListed text value := by
  unfold PiecesListed configParseAllowedDmi
  cases jsonFindArray text "allowed_dmi_substrings".toList with
  | none => simp
  | some array =>
      simp only [allowedDmiEntries_eq, Option.mem_some_iff, exists_eq_left', ne_eq,
        List.map_eq_nil_iff, List.take_eq_nil_iff, List.forall_mem_map, jsonCopySlice]
      simp

end Gate

/-- The gate of a loaded document fails closed exactly when the pieces quoted behind the key are
listed names, or contain one. -/
theorem configLoad_failsClosed_iff {document : JsonDocument} {cfg : AnsConfig}
    (loaded : configLoad (some document.text) = .ok cfg) :
    FailsClosed document.root cfg ↔
      ∀ value ∈ document.root.value? "allowed_dmi_substrings".toList, value.items? ≠ some [] →
        PiecesListed (readTextFile (128 * 1024) document.text) value := by
  have loads := configLoadText_eq_ok.mp loaded
  refine forall₂_congr fun value _ => imp_congr_right fun _ => ?_
  rw [allowed_listed_iff, loads.allowedDmi, entries_listed_iff]

/-- An array of plain names that is read whole closes the gate. -/
theorem ReadsAllowedDmi.failsClosed {text : CString} {root : Json} {cfg : AnsConfig}
    (reads : ReadsAllowedDmi text root) (loads : Loads text cfg)
    (names : ∀ value ∈ root.value? "allowed_dmi_substrings".toList,
      ∀ items ∈ value.items?, ∀ item ∈ items, item.string? ≠ some []) :
    FailsClosed root cfg := by
  intro value found filled
  have list := allowedDmi_listOf reads
  rw [Option.mem_def.mp found, ← loads.allowedDmi] at list
  obtain ⟨items, isArray, all⟩ := list
  have nonempty : items ≠ [] := fun empty => filled (empty ▸ isArray)
  refine allowed_listed_iff.mpr ⟨?_, fun entry member => ?_⟩
  · intro empty
    rw [empty, List.forall₂_nil_right_iff] at all
    exact nonempty all
  · obtain ⟨item, inside, isString⟩ := exists_of_forall₂ all entry member
    refine ⟨items, isArray, item, inside, entry, isString, ?_, stringContainsCase_self entry⟩
    rintro rfl
    exact names value found items isArray item inside isString

def listedDocument : JsonDocument :=
  smallestDocument
    [(.key "allowed_dmi_substrings", .ofItems [.string (.key "AN517-51")])]

def listedConfig : AnsConfig := { smallestConfig with allowedDmi := ["AN517-51".toList] }

theorem listedDocument_loads : configLoad (some listedDocument.text) = .ok listedConfig := by
  decide +kernel

theorem listedDocument_pieces :
    (jsonFindArray (readTextFile (128 * 1024) listedDocument.text)
      "allowed_dmi_substrings".toList).map (pieces '"') = some ["AN517-51".toList] := by
  decide +kernel

theorem configLoad_failsClosed_listed : FailsClosed listedDocument.root listedConfig := by
  refine (configLoad_failsClosed_iff listedDocument_loads).mpr fun value found _ => ?_
  cases found
  obtain ⟨array, search, only⟩ := Option.map_eq_some_iff.mp listedDocument_pieces
  refine ⟨array, search, by rw [only]; exact List.cons_ne_nil _ _, ?_⟩
  rw [only]
  intro piece member
  rw [List.mem_singleton.mp member]
  exact ⟨_, rfl, _, List.mem_cons_self, "AN517-51".toList, rfl, by decide, by decide⟩

/-- A name given as a string instead of an array. -/
def bareDocument : JsonDocument :=
  smallestDocument [(.key "allowed_dmi_substrings", .string (.key "AN517-51"))]

theorem bareDocument_loads : configLoad (some bareDocument.text) = .ok smallestConfig := by
  decide +kernel

/-- The profile of that document allows every machine. -/
theorem configLoad_failsClosed_fails :
    ¬ ∀ (document : JsonDocument) (cfg : AnsConfig), configLoad (some document.text) = .ok cfg →
      FailsClosed document.root cfg := by
  intro claim
  have closed := claim bareDocument smallestConfig bareDocument_loads
  obtain ⟨items, isArray, _⟩ := closed (.string (.key "AN517-51")) rfl (by nofun) [] rfl
  cases isArray

end NitroSense
