import NitroSense.Json.Members

/-!
# Reading the items of an array

The list readers find the end of an array, and of each object in it, by
counting brackets.  Where the brackets inside are nested, the array is read to
its end, and every object in it is one item.
-/

namespace NitroSense

open Lib

/-- An array whose brackets are nested, those in its strings included. -/
def Bracketed : Json → Prop
  | .array space items => Nested '[' ']' (space.text ++ Json.itemsText items)
  | _ => False

/-- An object whose braces are nested, those in its strings included. -/
def Braced : Json → Prop
  | .object space members => Nested '\x7b' '\x7d' (space.text ++ Json.membersText members)
  | _ => False

instance : (value : Json) → Decidable (Bracketed value)
  | .array space items =>
      decidable_of_iff _
        (nested_iff (by decide : '[' ≠ ']')).symm
  | .null | .bool _ | .number _ | .string _ | .object _ _ => isFalse id

instance : (value : Json) → Decidable (Braced value)
  | .object space members =>
      decidable_of_iff _
        (nested_iff (by decide : '\x7b' ≠ '\x7d')).symm
  | .null | .bool _ | .number _ | .string _ | .array _ _ => isFalse id

/-- A text between two objects: no brace stands in it. -/
def BraceFree (gap : CString) : Prop := ∀ c ∈ gap, c ≠ '\x7b' ∧ c ≠ '\x7d'

section Gaps

theorem braceFree_space (space : Space) : BraceFree space.text := by
  intro c member
  have blank := isBlank_space space c member
  constructor
  · rintro rfl
    cases blank
  · rintro rfl
    cases blank

theorem braceFree_separator {α : Type} (rest : List α) : BraceFree (Json.separator rest) := by
  cases rest with
  | nil => exact nofun
  | cons next rest =>
      intro c member
      rw [List.mem_singleton.mp member]
      exact ⟨by decide, by decide⟩

theorem BraceFree.append {first second : CString} (left : BraceFree first)
    (right : BraceFree second) : BraceFree (first ++ second) := by
  intro c member
  rcases List.mem_append.mp member with inFirst | inSecond
  · exact left c inFirst
  · exact right c inSecond

theorem objectStart_gap {gap : CString} (free : BraceFree gap) (rest : CString) :
    objectStart 0 (gap ++ rest) = objectStart 0 rest := by
  induction gap with
  | nil => rfl
  | cons c gap ih =>
      obtain ⟨notOpen, notClosed⟩ := free c List.mem_cons_self
      rw [List.cons_append, objectStart, if_neg notOpen, if_neg notClosed]
      exact ih fun d member => free d (List.mem_cons_of_mem c member)

theorem jsonNextObject_gap {gap : CString} (free : BraceFree gap) : jsonNextObject gap = none := by
  have start := objectStart_gap free []
  rw [List.append_nil] at start
  rw [jsonNextObject, start]
  rfl

/-- Behind a gap the next object is the next one of the document. -/
theorem jsonNextObject_object {gap : CString} {value : Json} (free : BraceFree gap)
    (braced : Braced value) (rest : CString) :
    jsonNextObject (gap ++ (value.text ++ rest)) = some (value.text, rest) := by
  cases value with
  | object space members =>
      have shape : (Json.object space members).text ++ rest =
          '\x7b' :: ((space.text ++ Json.membersText members) ++ '\x7d' :: rest) := by
        simp [Json.text]
      rw [jsonNextObject, objectStart_gap free, shape, objectStart, if_pos rfl, if_pos rfl,
        Option.bind_some, untilClosed_append (by decide) braced]
      simp [Json.text]
  | _ => exact braced.elim

end Gaps

/-- The objects of an array are its items, as many as there are. -/
theorem jsonObjects_items (bufLen : Nat) {limit : Nat} {gap : CString}
    {items : List (Space × Json × Space)} (free : BraceFree gap)
    (objects : ∀ item ∈ items, Braced item.2.1) (fits : items.length ≤ limit) :
    jsonObjects bufLen limit (gap ++ Json.itemsText items) =
      items.map fun item => jsonCopySlice bufLen item.2.1.text := by
  induction items generalizing gap limit with
  | nil =>
      cases limit with
      | zero => rfl
      | succ limit =>
          rw [show Json.itemsText [] = [] from rfl, List.append_nil, jsonObjects,
            jsonNextObject_gap free]
          rfl
  | cons item items ih =>
      obtain ⟨before, value, after⟩ := item
      obtain ⟨braced, others⟩ := List.forall_mem_cons.mp objects
      cases limit with
      | zero => exact absurd fits (by simp)
      | succ limit =>
          have between := (braceFree_space after).append (braceFree_separator items)
          rw [Json.itemsText_cons, ← List.append_assoc, jsonObjects,
            jsonNextObject_object (free.append (braceFree_space before)) braced]
          dsimp only
          rw [← List.append_assoc, ih between others (Nat.le_of_succ_le_succ fits)]
          rfl

section Arrays

variable {text key : CString} {member : Json.Member}

/-- The array found for a member is its value. -/
theorem jsonFindArray_array (keyText : KeyText key) (finds : FindsMember text key member)
    {space : Space} {items : List (Space × Json × Space)}
    (isArray : Json.memberValue member = .array space items)
    (bracketed : Bracketed (Json.memberValue member)) :
    jsonFindArray text key = some (space.text ++ Json.itemsText items) := by
  obtain ⟨tail, found, _⟩ := jsonValue_member keyText finds
  rw [isArray] at found bracketed
  have shape : (Json.array space items).text ++ tail =
      '[' :: ((space.text ++ Json.itemsText items) ++ ']' :: tail) := by
    simp [Json.text]
  rw [shape] at found
  simp only [jsonFindArray, found, untilClosed_append (by decide) bracketed, Option.map_some]

/-- The search finds this member, and cuts its array into these items. -/
structure FindsList (text key : CString) (limit : Nat) (member : Json.Member)
    (items : List Json) : Prop where
  finds : FindsMember text key member
  bracketed : Bracketed (Json.memberValue member)
  braced : ∀ item ∈ items, Braced item
  fits : items.length ≤ limit

instance (text key : CString) (limit : Nat) (member : Json.Member) (items : List Json) :
    Decidable (FindsList text key limit member items) :=
  decidable_of_iff (FindsMember text key member ∧ Bracketed (Json.memberValue member) ∧
    (∀ item ∈ items, Braced item) ∧ items.length ≤ limit)
    ⟨fun ⟨finds, bracketed, braced, fits⟩ => ⟨finds, bracketed, braced, fits⟩,
      fun list => ⟨list.finds, list.bracketed, list.braced, list.fits⟩⟩

/-- The list readers see a copy of every item, in order. -/
theorem FindsList.objects {limit : Nat} {items : List Json} (keyText : KeyText key)
    (list : FindsList text key limit member items)
    (isArray : (Json.memberValue member).items? = some items) (bufLen : Nat) :
    (jsonFindArray text key).map (jsonObjects bufLen limit) =
      some (items.map fun item => jsonCopySlice bufLen item.text) := by
  obtain ⟨finds, bracketed, braced, fits⟩ := list
  cases value : Json.memberValue member with
  | array space own =>
      rw [jsonFindArray_array keyText finds value bracketed, Option.map_some]
      rw [value] at isArray
      cases isArray
      rw [jsonObjects_items bufLen (braceFree_space space)]
      · rw [List.map_map]
        rfl
      · intro item inside
        exact braced _ (List.mem_map_of_mem inside)
      · simpa using fits
  | _ =>
      rw [value] at isArray
      cases isArray

end Arrays

end NitroSense
