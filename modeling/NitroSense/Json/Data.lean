import NitroSense.Json.Escape
import NitroSense.Json.Scalars
import NitroSense.Lib.JsonData

/-!
# Writing documents

The texts the daemon writes are put together from formatted pieces and escaped
strings.  Named values that are printed line by line, or all on one line, are
the members of an object.
-/

namespace NitroSense

open Lib

/-! ## The appends -/

/-- One append to the status text: formatted, or as an escaped string. -/
inductive JsonPiece where
  | text (text : CString)
  | string (value : CString)

def TextBuffer.appendPiece (out : TextBuffer) : JsonPiece → TextBuffer
  | .text text => out.append text
  | .string value => out.appendJson value

/-- The appends of a writer in their order; their results are not looked at. -/
def TextBuffer.appendPieces (out : TextBuffer) (pieces : List JsonPiece) : TextBuffer :=
  pieces.foldl TextBuffer.appendPiece out

/-- A key behind the value in front of it: `,`, the layout, and the key with its colon. -/
def jsonKey (layout key : String) : CString :=
  ','  :: (layout.toList ++ ('"' :: (key.toList ++ "\": ".toList)))

/-- What an append adds to the text. -/
def JsonPiece.spelled : JsonPiece → CString
  | .text formatted => formatted
  | .string value => '"' :: (jsonEscaped value ++ ['"'])

section Append

variable {out : TextBuffer}

theorem TextBuffer.append_truncated (kept : out.truncated = true) (text : CString) :
    (out.append text).truncated = true := by
  rw [append]
  split
  · rfl
  · split
    · rfl
    · exact kept

theorem TextBuffer.append_long {text : CString} (long : ¬ out.Fits text) :
    (out.append text).truncated = true := by
  have full : out.cap ≤ out.text.length + text.length := Nat.le_of_not_lt long
  rw [append]
  split
  · rfl
  · rw [if_pos (by omega)]

theorem TextBuffer.appendWhile_truncated (kept : out.truncated = true) (texts : List CString) :
    (out.appendWhile texts).truncated = true := by
  induction texts generalizing out with
  | nil => exact kept
  | cons text texts ih =>
      rw [appendWhile]
      split
      · exact ih (append_truncated kept text)
      · exact append_truncated kept text

theorem TextBuffer.appendWhile_long {texts : List CString} (nonempty : texts ≠ [])
    (long : ¬ out.Fits texts.flatten) : (out.appendWhile texts).truncated = true := by
  induction texts generalizing out with
  | nil => exact absurd rfl nonempty
  | cons text texts ih =>
      rw [List.flatten_cons] at long
      rw [appendWhile]
      split
      case isTrue first =>
        have more : ¬ (out.append text).Fits texts.flatten := by
          rw [fits_append first]
          exact long
        refine ih ?_ more
        rintro rfl
        rw [List.flatten_nil, List.append_nil] at long
        exact long first
      case isFalse first => exact append_long first

/-- An append that fits adds its piece. -/
theorem TextBuffer.appendPiece_of_fits {piece : JsonPiece} (fits : out.Fits piece.spelled) :
    out.appendPiece piece = { out with text := out.text ++ piece.spelled } := by
  cases piece with
  | text formatted => exact append_of_fits fits
  | string value =>
      have whole := jsonPieces_flatten value
      rw [appendPiece, appendJson, appendWhile_of_fits (by rw [whole]; exact fits), whole]
      rfl

/-- Pieces that fit together are all appended. -/
theorem TextBuffer.appendPieces_of_fits {pieces : List JsonPiece}
    (fits : out.Fits (pieces.flatMap JsonPiece.spelled)) :
    out.appendPieces pieces =
      { out with text := out.text ++ pieces.flatMap JsonPiece.spelled } := by
  induction pieces generalizing out with
  | nil => simp [appendPieces]
  | cons piece pieces ih =>
      rw [List.flatMap_cons] at fits ⊢
      have room : out.text.length + (piece.spelled ++ _).length < out.cap := fits
      rw [List.length_append] at room
      have first : out.Fits piece.spelled := by
        rw [Fits]
        omega
      have rest : TextBuffer.Fits { out with text := out.text ++ piece.spelled }
          (pieces.flatMap JsonPiece.spelled) := by
        rw [Fits, List.length_append]
        dsimp only
        omega
      refine (congrArg (appendPieces · pieces) (appendPiece_of_fits first)).trans ?_
      rw [ih rest, List.append_assoc]

theorem TextBuffer.appendPieces_truncated (kept : out.truncated = true) (pieces : List JsonPiece) :
    (out.appendPieces pieces).truncated = true := by
  induction pieces generalizing out with
  | nil => exact kept
  | cons piece pieces ih =>
      refine ih ?_
      cases piece with
      | text formatted => exact append_truncated kept formatted
      | string value => exact appendWhile_truncated kept _

/-- Pieces that do not fit together leave the text truncated. -/
theorem TextBuffer.appendPieces_long {pieces : List JsonPiece} (nonempty : pieces ≠ [])
    (long : ¬ out.Fits (pieces.flatMap JsonPiece.spelled)) :
    (out.appendPieces pieces).truncated = true := by
  induction pieces generalizing out with
  | nil => exact absurd rfl nonempty
  | cons piece pieces ih =>
      rw [List.flatMap_cons] at long
      by_cases first : out.Fits piece.spelled
      · have step : out.appendPieces (piece :: pieces) =
            TextBuffer.appendPieces { out with text := out.text ++ piece.spelled } pieces :=
          congrArg (appendPieces · pieces) (appendPiece_of_fits first)
        rw [step]
        have more : ¬ TextBuffer.Fits { out with text := out.text ++ piece.spelled }
            (pieces.flatMap JsonPiece.spelled) := by
          rw [Fits, List.length_append] at long ⊢
          dsimp only
          omega
        refine ih ?_ more
        rintro rfl
        rw [List.flatMap_nil, List.append_nil] at long
        exact long first
      · refine appendPieces_truncated ?_ pieces
        cases piece with
        | text formatted => exact append_long first
        | string value =>
            refine appendWhile_long (List.cons_ne_nil _ _) ?_
            rw [jsonPieces_flatten]
            exact first

/-- The text of some appends, in a buffer of its own. -/
theorem TextBuffer.appendPieces_text {pieces : List JsonPiece} (nonempty : pieces ≠ [])
    (bufLen : Nat) :
    let after := TextBuffer.appendPieces { cap := bufLen } pieces
    (if after.truncated then none else some after.text) =
      if (pieces.flatMap JsonPiece.spelled).length < bufLen then
        some (pieces.flatMap JsonPiece.spelled)
      else none := by
  have fits : TextBuffer.Fits { cap := bufLen } (pieces.flatMap JsonPiece.spelled) ↔
      (pieces.flatMap JsonPiece.spelled).length < bufLen := by
    rw [Fits, List.length_nil, Nat.zero_add]
  dsimp only
  by_cases room : (pieces.flatMap JsonPiece.spelled).length < bufLen
  · rw [if_pos room, appendPieces_of_fits (fits.mpr room)]
    rfl
  · rw [if_neg room, if_pos (appendPieces_long nonempty fun enough => room (fits.mp enough))]

end Append

/-! ## Values -/

/-- A value that is not a list or an object. -/
inductive Scalar where
  | null
  | bool (value : Bool)
  | int (value : Int)
  | string (value : CString)

namespace Scalar

def text : Scalar → CString
  | null => "null".toList
  | bool value => boolText value
  | int value => decimal value
  | string value => '"' :: (jsonEscaped value ++ ['"'])

def data : Scalar → JsonData
  | null => .null
  | bool value => .bool value
  | int value => .int value
  | string value => .string value

end Scalar

/-! ### Their tokens -/

theorem isUnsignedNumber_digits {digits : CString} (form : JsonDigits digits) :
    isUnsignedNumber digits = true := by
  have all : digits.takeWhile Char.isDigit = digits :=
    List.takeWhile_eq_self_iff.mpr form.isDigit
  have none : digits.dropWhile Char.isDigit = [] := by
    rw [List.dropWhile_eq_nil_iff]
    exact form.isDigit
  simp only [isUnsignedNumber, splitDigits, all, none]
  cases form with
  | zero => rfl
  | run digit notZero all => simp [notZero, isFraction, isExponent]

/-- A printed integer is a JSON number. -/
theorem decimal_isNumber (value : Int) : isNumber (decimal value) = true := by
  obtain ⟨negative, digits, printed, form, -⟩ := decimal_form value
  rw [printed]
  have unsigned := isUnsignedNumber_digits form
  cases negative with
  | true => exact unsigned
  | false =>
      rw [signed, if_neg Bool.false_ne_true, isNumber]
      · exact unsigned
      · rintro rest rfl
        cases form.isDigit '-' List.mem_cons_self

/-- The number a printed integer spells. -/
theorem decimal_int (value : Int) :
    NumberToken.int? ⟨decimal value, decimal_isNumber value⟩ = some value := by
  obtain ⟨negative, digits, printed, form, denotes⟩ := decimal_form value
  have all : digits.all Char.isDigit = true := List.all_eq_true.mpr form.isDigit
  simp only [NumberToken.int?, printed]
  cases negative with
  | true =>
      simp only [signed, if_true, all]
      exact congrArg some denotes
  | false =>
      rw [signed, if_neg Bool.false_ne_true]
      split
      · cases form.isDigit '-' List.mem_cons_self
      · rw [if_pos all]
        exact congrArg some denotes

namespace Scalar

def json : Scalar → Json
  | null => .null
  | bool value => .bool value
  | int value => .number ⟨decimal value, decimal_isNumber value⟩
  | string value => .string ⟨jsonEscaped value, isStringBody_jsonEscaped value⟩

theorem json_text (scalar : Scalar) : scalar.json.text = scalar.text := by
  cases scalar with
  | null => rfl
  | bool value => rfl
  | int value => rfl
  | string value => rfl

theorem json_data (scalar : Scalar) : scalar.json.data? = some scalar.data := by
  cases scalar with
  | null => rfl
  | bool value => rfl
  | int value =>
      simp only [json, Json.data?]
      rw [decimal_int]
      rfl
  | string value =>
      exact congrArg (fun text => some (JsonData.string text)) (stringValue_jsonEscaped value)

end Scalar

/-- Values with their keys, each behind a comma and the same layout. -/
def scalarLines (layout : String) (scalars : List (String × Scalar)) : CString :=
  scalars.flatMap fun scalar => jsonKey layout scalar.1 ++ scalar.2.text

def scalarObject (scalars : List (String × Scalar)) : List (CString × JsonData) :=
  scalars.map fun scalar => (scalar.1.toList, scalar.2.data)

section Lines

theorem scalarLines_cons (layout : String) (scalar : String × Scalar)
    (rest : List (String × Scalar)) :
    scalarLines layout (scalar :: rest) =
      jsonKey layout scalar.1 ++ (scalar.2.text ++ scalarLines layout rest) := by
  rw [scalarLines, List.flatMap_cons, List.append_assoc]
  rfl

theorem scalarLines_nil (layout : String) : scalarLines layout [] = [] := rfl

theorem jsonKey_tail (layout key : String) (rest : CString) :
    (jsonKey layout key ++ rest).tail = (jsonKey layout key).tail ++ rest := rfl

def PlainKeys (scalars : List (String × Scalar)) : Prop :=
  (scalars.map Prod.fst).all (fun key => key.toList.all isPlain) = true

theorem isStringBody_plainText {text : CString} (plain : PlainText text) :
    isStringBody text = true := by
  induction text with
  | nil => rfl
  | cons c text ih =>
      obtain ⟨here, rest⟩ := List.forall_mem_cons.mp (List.all_eq_true.mp plain)
      simp only [isPlain, Bool.and_eq_true, decide_eq_true_eq] at here
      rw [isStringBody_cons here.1.2, ih (List.all_eq_true.mpr rest)]
      simp [here]

theorem plainText_backslash {text : CString} (plain : PlainText text) : '\\' ∉ text := by
  intro member
  have here := List.all_eq_true.mp plain '\\' member
  cases here

/-- The token of a plain key. -/
theorem key_plain {key : String} (plain : PlainText key.toList) :
    (StringToken.key key).raw = key.toList ∧ (StringToken.key key).value = key.toList := by
  have body := isStringBody_plainText plain
  refine ⟨?_, StringToken.key_value body (plainText_backslash plain)⟩
  rw [StringToken.key, dif_pos body]

theorem memberLine_scalar {layout : Space} {name key : String} {value : Json} {text : CString}
    (laid : layout.text = name.toList) (plain : PlainText key.toList) (same : value.text = text) :
    ',' :: Json.memberLine layout (StringToken.key key, value) = jsonKey name key ++ text := by
  rw [Json.memberLine, Json.quotedToken, (key_plain plain).1, laid, same, jsonKey]
  have colon : "\": ".toList = ['"', ':', ' '] := rfl
  rw [colon]
  simp

/-! ### Objects and arrays of them -/

def scalarMember (scalar : String × Scalar) : StringToken × Json :=
  (StringToken.key scalar.1, scalar.2.json)

variable {layout last : Space} {name : String} {scalars : List (String × Scalar)}

theorem scalarMembers_lines (laid : layout.text = name.toList) (plain : PlainKeys scalars) :
    (scalars.map scalarMember).flatMap (fun member => ',' :: Json.memberLine layout member) =
      scalarLines name scalars := by
  induction scalars with
  | nil => rfl
  | cons scalar rest ih =>
      obtain ⟨here, others⟩ := List.forall_mem_cons.mp (List.all_eq_true.mp plain)
      rw [List.map_cons, List.flatMap_cons, ih (List.all_eq_true.mpr others), scalarLines_cons,
        scalarMember, memberLine_scalar laid here scalar.2.json_text, List.append_assoc]

/-- Laid out members are their lines without the first comma. -/
theorem membersText_lines {members : List (StringToken × Json)} (nonempty : members ≠ []) :
    Json.membersText (Json.layMembers layout last members) =
      (members.flatMap fun member => ',' :: Json.memberLine layout member).tail ++ last.text := by
  obtain ⟨first, rest, rfl⟩ := List.exists_cons_of_ne_nil nonempty
  rw [Json.membersText_lay, List.flatMap_cons, List.cons_append, List.tail_cons, List.append_assoc]

/-- What named values denote as members. -/
theorem scalarMembers_data (plain : PlainKeys scalars) :
    ∀ scalar ∈ scalars, (scalarMember scalar).1.value = scalar.1.toList ∧
      (scalarMember scalar).2.data? = some scalar.2.data := by
  intro scalar member
  have key : PlainText scalar.1.toList :=
    List.all_eq_true.mp plain scalar.1 (List.mem_map_of_mem member)
  exact ⟨(key_plain key).2, scalar.2.json_data⟩

def inlineObject (scalars : List (String × Scalar)) : Json :=
  .object .none (Json.layMembers Json.blank Json.blank (scalars.map scalarMember))

theorem inlineObject_text (nonempty : scalars ≠ []) (plain : PlainKeys scalars) :
    (inlineObject scalars).text = '\x7b' :: ((scalarLines " " scalars).tail ++ " \x7d".toList) := by
  have members : scalars.map scalarMember ≠ [] := fun none => nonempty (List.map_eq_nil_iff.mp none)
  have laid : Json.blank.text = " ".toList := rfl
  have closing : " \x7d".toList = [' ', '\x7d'] := rfl
  rw [inlineObject, Json.text, membersText_lines members, scalarMembers_lines laid plain, closing]
  simp [Space.none, Json.blank]

theorem inlineObject_data (plain : PlainKeys scalars) :
    (inlineObject scalars).data? = some (.object (scalarObject scalars)) := by
  have members : Json.membersData? (Json.layMembers Json.blank Json.blank
      (scalars.map scalarMember)) = some (scalarObject scalars) :=
    Json.membersData_lay (scalarMembers_data plain)
  rw [inlineObject, Json.data?, members]
  rfl

/-- Texts line by line with their commas, as an array lays them out. -/
theorem arrayLines (item : Nat → CString) (count : Nat) :
    (List.range (count + 1)).flatMap (fun i => ",\n    ".toList ++ item i) =
      ',' :: ("\n".toList ++ ((List.range count).flatMap (fun i =>
        "    ".toList ++ (item i ++ ",\n".toList)) ++ ("    ".toList ++ item count))) := by
  induction count with
  | zero => simp
  | succ count ih =>
      have comma : ",\n    ".toList = ",\n".toList ++ "    ".toList := rfl
      rw [List.range_succ, List.flatMap_append, ih, List.range_succ, List.flatMap_append, comma]
      simp only [List.flatMap_cons, List.flatMap_nil, List.append_nil, List.append_assoc,
        List.cons_append]

/-- A writer's loop over an array: every line ends with a comma but the last. -/
theorem arrayLoop (item : Nat → CString) (count : Nat) :
    (List.range (count + 1)).flatMap (fun i =>
        "    ".toList ++ (item i ++ ((if i = count then [] else ",".toList) ++ "\n".toList))) =
      (List.range count).flatMap (fun i => "    ".toList ++ (item i ++ ",\n".toList)) ++
        ("    ".toList ++ (item count ++ "\n".toList)) := by
  have earlier : ∀ i ∈ List.range count,
      "    ".toList ++ (item i ++ ((if i = count then [] else ",".toList) ++ "\n".toList)) =
        "    ".toList ++ (item i ++ ",\n".toList) := by
    intro i member
    rw [if_neg (Nat.ne_of_lt (List.mem_range.mp member))]
    rfl
  rw [List.range_succ, List.flatMap_append, List.flatMap_congr earlier]
  simp

def lineArray (items : List Json) : Json :=
  .array (if items = [] then { text := "\n  ".toList } else .none)
    (Json.layItems { text := "\n    ".toList } { text := "\n  ".toList } items)

/-- A writer's loop over an array of objects writes them on lines of their own. -/
theorem lineArray_text (item : Nat → Json) (count : Nat) :
    "[\n".toList ++ ((List.range count).flatMap (fun i =>
        "    ".toList ++ ((item i).text ++ ((if i = count - 1 then [] else ",".toList) ++
          "\n".toList))) ++ "  ]".toList) = (lineArray ((List.range count).map item)).text := by
  cases count with
  | zero => rfl
  | succ count =>
      have nonempty : (List.range (count + 1)).map item ≠ [] := by simp
      obtain ⟨first, rest, shape⟩ := List.exists_cons_of_ne_nil nonempty
      have lines := arrayLines (fun i => (item i).text) count
      have whole : (List.range (count + 1)).flatMap (fun i => ",\n    ".toList ++ (item i).text) =
          ((List.range (count + 1)).map item).flatMap (fun value =>
            ',' :: ("\n    ".toList ++ value.text)) := by
        rw [List.flatMap_map]
        rfl
      rw [whole, shape, List.flatMap_cons, List.cons_append] at lines
      have body : Json.itemsText (Json.layItems { text := "\n    ".toList }
          { text := "\n  ".toList } (first :: rest)) =
          ("\n    ".toList ++ first.text ++ rest.flatMap fun value =>
            ',' :: ("\n    ".toList ++ value.text)) ++ "\n  ".toList :=
        (Json.itemsText_lay first rest).trans (List.append_assoc _ _ _).symm
      have opening : "[\n".toList = '[' :: "\n".toList := rfl
      have closing : "\n  ".toList ++ [']'] = "\n".toList ++ "  ]".toList := rfl
      rw [Nat.add_sub_cancel, arrayLoop (fun i => (item i).text), lineArray, if_neg nonempty, shape,
        Json.text, body, (List.cons.inj lines).2, opening]
      simp only [Space.none, List.nil_append, List.append_assoc, List.cons_append, closing]

theorem lineArray_data {α : Type} {item : α → Json} {data : α → JsonData} {elements : List α}
    (denotes : ∀ element ∈ elements, (item element).data? = some (data element)) :
    (lineArray (elements.map item)).data? = some (.array (elements.map data)) := by
  rw [lineArray, Json.data?, Json.itemsData_lay denotes]
  rfl

/-- Named values and one more member behind them. -/
theorem layMembers_data_concat (layout last : Space) {token : StringToken} {key : CString}
    {value : Json} {data : JsonData}
    (denotes : ∀ scalar ∈ scalars, (scalarMember scalar).1.value = scalar.1.toList ∧
      (scalarMember scalar).2.data? = some scalar.2.data)
    (named : token.value = key) (denoted : value.data? = some data) :
    Json.membersData? (Json.layMembers layout last
      (scalars.map scalarMember ++ [(token, value)])) =
      some (scalarObject scalars ++ [(key, data)]) := by
  let member : Option (String × Scalar) → StringToken × Json :=
    fun entry => entry.elim (token, value) scalarMember
  let content : Option (String × Scalar) → CString × JsonData :=
    fun entry => entry.elim (key, data) fun scalar => (scalar.1.toList, scalar.2.data)
  have all : Json.membersData? (Json.layMembers layout last
      ((scalars.map some ++ [none]).map member)) = some ((scalars.map some ++ [none]).map content) := by
    refine Json.membersData_lay fun entry inside => ?_
    rcases List.mem_append.mp inside with known | last
    · obtain ⟨scalar, member, rfl⟩ := List.mem_map.mp known
      exact denotes scalar member
    · rw [List.mem_singleton.mp last]
      exact ⟨named, denoted⟩
  rw [List.map_append, List.map_append, List.map_map, List.map_map] at all
  exact all

end Lines

end NitroSense
