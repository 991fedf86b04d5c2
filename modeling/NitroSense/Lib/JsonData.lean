import NitroSense.Lib.JsonText

/-!
# What a JSON document denotes

The data of a document is what is left of it without the spelling.  Documents
laid out line by line, with the same space around every member or item, have a
text that is the lines one after the other.
-/

namespace NitroSense.Lib

/-- JSON values without their spelling; numbers are integers. -/
inductive JsonData where
  | null
  | bool (value : Bool)
  | int (value : Int)
  | string (value : List Char)
  | array (items : List JsonData)
  | object (members : List (List Char × JsonData))

namespace Json

mutual

/-- The data a value denotes, if its numbers are integers. -/
def data? : Json → Option JsonData
  | null => some .null
  | bool value => some (.bool value)
  | number token => token.int?.map .int
  | string token => some (.string token.value)
  | array _ items => (itemsData? items).map .array
  | object _ members => (membersData? members).map .object

def itemsData? : List (Space × Json × Space) → Option (List JsonData)
  | [] => some []
  | (_, value, _) :: rest => value.data?.bind fun data => (itemsData? rest).map (data :: ·)

def membersData? :
    List (Space × StringToken × Space × Space × Json × Space) → Option (List (List Char × JsonData))
  | [] => some []
  | (_, key, _, _, value, _) :: rest =>
      value.data?.bind fun data => (membersData? rest).map ((key.value, data) :: ·)

end

/-! ## Laying out members and items -/

def blank : Space := { text := [' '] }

/-- Members with the same space in front of each, and `last` behind the last one. -/
def layMembers (before last : Space) : List (StringToken × Json) → List Member
  | [] => []
  | [(key, value)] => [(before, key, .none, blank, value, last)]
  | (key, value) :: next :: rest =>
      (before, key, .none, blank, value, .none) :: layMembers before last (next :: rest)

/-- Items with the same space in front of each, and `last` behind the last one. -/
def layItems (before last : Space) : List Json → List (Space × Json × Space)
  | [] => []
  | [value] => [(before, value, last)]
  | value :: next :: rest => (before, value, .none) :: layItems before last (next :: rest)

def memberLine (before : Space) (member : StringToken × Json) : List Char :=
  before.text ++ (quotedToken member.1 ++ (':' :: ' ' :: member.2.text))

section Layout

variable {α : Type*} {before last : Space}

theorem membersText_cons (member : Member) (rest : List Member) :
    membersText (member :: rest) =
      member.1.text ++ (memberText member ++ (separator rest ++ membersText rest)) := by
  cases rest with
  | nil => simp [membersText, memberText, separator]
  | cons next rest => simp [membersText, memberText, separator]

/-- The members are their lines, with commas between them. -/
theorem membersText_lay (first : StringToken × Json) (rest : List (StringToken × Json)) :
    membersText (layMembers before last (first :: rest)) =
      memberLine before first ++
        ((rest.flatMap fun member => ',' :: memberLine before member) ++ last.text) := by
  induction rest generalizing first with
  | nil => simp [layMembers, membersText, memberLine, blank, Space.none]
  | cons next rest ih =>
      have more : separator (layMembers before last (next :: rest)) = [','] := by
        cases rest <;> rfl
      rw [layMembers, membersText_cons, more, ih]
      simp [memberText, memberLine, blank, Space.none]

theorem itemsText_lay (first : Json) (rest : List Json) :
    itemsText (layItems before last (first :: rest)) =
      before.text ++ first.text ++
        ((rest.flatMap fun value => ',' :: (before.text ++ value.text)) ++ last.text) := by
  induction rest generalizing first with
  | nil => simp [layItems, itemsText]
  | cons next rest ih =>
      have more : separator (layItems before last (next :: rest)) = [','] := by
        cases rest <;> rfl
      rw [layItems, itemsText_cons, more, ih]
      simp [Space.none]

/-- Laid out members denote what they denote one by one. -/
theorem membersData_lay {member : α → StringToken × Json} {data : α → List Char × JsonData}
    {elements : List α}
    (denotes : ∀ element ∈ elements, (member element).1.value = (data element).1 ∧
      (member element).2.data? = some (data element).2) :
    membersData? (layMembers before last (elements.map member)) = some (elements.map data) := by
  induction elements with
  | nil => rfl
  | cons element rest ih =>
      obtain ⟨⟨key, value⟩, others⟩ := List.forall_mem_cons.mp denotes
      have tail := ih others
      rw [List.map_cons]
      cases rest with
      | nil => simp [layMembers, membersData?, key, value]
      | cons next rest =>
          simp only [List.map_cons] at tail ⊢
          simp [layMembers, membersData?, tail, key, value]

theorem itemsData_lay {item : α → Json} {data : α → JsonData} {elements : List α}
    (denotes : ∀ element ∈ elements, (item element).data? = some (data element)) :
    itemsData? (layItems before last (elements.map item)) = some (elements.map data) := by
  induction elements with
  | nil => rfl
  | cons element rest ih =>
      obtain ⟨here, others⟩ := List.forall_mem_cons.mp denotes
      have tail := ih others
      rw [List.map_cons]
      cases rest with
      | nil => simp [layItems, itemsData?, here]
      | cons next rest =>
          simp only [List.map_cons] at tail ⊢
          simp [layItems, itemsData?, tail, here]

end Layout

end Json

/-- A key spelled as it is denotes itself. -/
theorem StringToken.key_value {name : String} (body : isStringBody name.toList = true)
    (plain : '\\' ∉ name.toList) : (StringToken.key name).value = name.toList := by
  rw [key, dif_pos body, value]
  rcases isStringBody_plain body with escaped | ⟨-, same⟩
  · exact absurd ((List.takeWhile_prefix _).subset escaped) plain
  · exact same

end NitroSense.Lib
