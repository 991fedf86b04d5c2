import Mathlib.Data.List.TakeWhile
import NitroSense.Text
import NitroSense.Lib.Search

/-!
# Reading and writing small JSON texts

`util/json_scan.c`, `util/json.c` and the text buffer of `util/format.c`.  The
reader does not parse: it looks for the quoted key anywhere in the text and
takes what follows the next colon.
-/

namespace NitroSense

open Lib

def quoted (key : CString) : CString := '"' :: (key ++ ['"'])

def jsonFindKey (json key : CString) : Option CString :=
  findSub (snprintf 96 (quoted key)) json

def jsonAfterColon (p : CString) : Option CString :=
  match p.dropWhile (· ≠ ':') with
  | [] => none
  | _ :: rest => some (rest.dropWhile isBlank)

def jsonValueEnded (p : CString) : Bool :=
  match p.dropWhile isBlank with
  | [] => true
  | c :: _ => c == ',' || c == '}' || c == ']'

/-- The value text of a key, as every reader below finds it. -/
def jsonValue (json key : CString) : Option CString := (jsonFindKey json key).bind jsonAfterColon

/-- `*digits` and `digits[1]` start a JSON number: no leading zero before another digit. -/
def jsonNumberStart : CString → Bool
  | [] => false
  | d :: rest => d.isDigit && !(d == '0' && rest.head?.any Char.isDigit)

/-- `json_int_key_checked`, with 32-bit `int` bounds. -/
def jsonIntKeyChecked (json key : CString) : Option Int :=
  (jsonValue json key).bind fun p =>
    let digits := if p.head? = some '-' then p.tail else p
    let parsed := strtol 10 p
    if !jsonNumberStart digits then none
    else if !parsed.inRange || !parsed.converted || decide (parsed.value < -2 ^ 31)
        || decide (parsed.value > 2 ^ 31 - 1) || !jsonValueEnded parsed.rest then none
    else some parsed.value

def jsonIntKey (json key : CString) (fallback : Int) : Int :=
  (jsonIntKeyChecked json key).getD fallback

def jsonBoolKeyChecked (json key : CString) : Option Bool :=
  (jsonValue json key).bind fun p =>
    if "true".toList <+: p ∧ jsonValueEnded (p.drop 4) = true then some true
    else if "false".toList <+: p ∧ jsonValueEnded (p.drop 5) = true then some false
    else none

def jsonBoolKey (json key : CString) (fallback : Bool) : Bool :=
  (jsonBoolKeyChecked json key).getD fallback

/-- `json_string_key_checked`: what it leaves in a buffer that held `out`, and its result. -/
def jsonStringKeyChecked (json key out : CString) (outLen : Nat) : CString × Bool :=
  match jsonValue json key with
  | some ('"' :: p) =>
      let value := p.takeWhile (· ≠ '"')
      match p.dropWhile (· ≠ '"') with
      | [] => (out, false)
      | _ :: rest =>
          if value.any fun c => c == '\\' || decide (c.toNat < 32) then (out, false)
          else if jsonValueEnded rest = false then (out, false)
          else if value.length ≥ outLen then (value.take (outLen - 1), false)
          else (value, true)
  | _ => (out, false)

def jsonStringKey (json key out : CString) (outLen : Nat) : CString :=
  (jsonStringKeyChecked json key out outLen).1

def jsonObjectWithId (json id : CString) : Option CString :=
  findSub (snprintf 64 ("\"id\": \"".toList ++ id ++ "\"".toList)) json

/-- A byte that `json_string_key_checked` lets through: no quote, backslash or control byte. -/
def isPlain (c : Char) : Bool := c ≠ '"' && c ≠ '\\' && decide (32 ≤ c.toNat)

/-- A string that `json_string_key_checked` stored. -/
def PlainText (text : CString) : Prop := text.all isPlain = true

instance (text : CString) : Decidable (PlainText text) :=
  inferInstanceAs (Decidable (_ = true))

def boolText (value : Bool) : CString := if value then "true".toList else "false".toList

/-- `text_buffer`: what has been appended, and whether something did not fit. -/
structure TextBuffer where
  cap : Nat
  text : CString := []
  truncated : Bool := false
  deriving DecidableEq, Repr

def TextBuffer.append (out : TextBuffer) (text : CString) : TextBuffer :=
  if out.text.length ≥ out.cap then { out with truncated := true }
  else if text.length ≥ out.cap - out.text.length then
    { out with text := (out.text ++ text).take (out.cap - 1), truncated := true }
  else { out with text := out.text ++ text }

def TextBuffer.appendAll (out : TextBuffer) (texts : List CString) : TextBuffer :=
  texts.foldl TextBuffer.append out

def TextBuffer.Fits (out : TextBuffer) (text : CString) : Prop :=
  out.text.length + text.length < out.cap

instance (out : TextBuffer) (text : CString) : Decidable (out.Fits text) :=
  inferInstanceAs (Decidable (_ < _))

/-- Appends that end with the first one that does not fit. -/
def TextBuffer.appendWhile (out : TextBuffer) : List CString → TextBuffer
  | [] => out
  | text :: texts =>
      if out.Fits text then (out.append text).appendWhile texts else out.append text

/-- The escape of a byte in `json_append_string`. -/
def jsonEscape (c : Char) : CString :=
  if c = '"' then "\\\"".toList
  else if c = '\\' then "\\\\".toList
  else if c.toNat = 8 then "\\b".toList
  else if c.toNat = 12 then "\\f".toList
  else if c = '\n' then "\\n".toList
  else if c = '\r' then "\\r".toList
  else if c = '\t' then "\\t".toList
  else if c.toNat < 32 then "\\u00".toList ++ hexByte c.toNat
  else [c]

def TextBuffer.appendJson (out : TextBuffer) (value : CString) : TextBuffer :=
  out.appendWhile (['"'] :: (value.map jsonEscape ++ [['"']]))

theorem TextBuffer.append_of_fits {out : TextBuffer} {text : CString} (fits : out.Fits text) :
    out.append text = { out with text := out.text ++ text } := by
  have room : out.text.length + text.length < out.cap := fits
  rw [append, if_neg (by omega), if_neg (by omega)]

/-- Texts that fit together are all appended. -/
theorem TextBuffer.appendWhile_of_fits {out : TextBuffer} {texts : List CString}
    (fits : out.Fits texts.flatten) :
    out.appendWhile texts = { out with text := out.text ++ texts.flatten } := by
  induction texts generalizing out with
  | nil => simp [appendWhile]
  | cons text texts ih =>
      have room : out.text.length + (text ++ texts.flatten).length < out.cap := fits
      rw [List.length_append] at room
      have first : out.Fits text := show out.text.length + text.length < out.cap by omega
      have rest : TextBuffer.Fits { out with text := out.text ++ text } texts.flatten := by
        change (out.text ++ text).length + _ < out.cap
        rw [List.length_append]
        omega
      rw [appendWhile, if_pos first, append_of_fits first, ih rest, List.flatten_cons,
        List.append_assoc]

/-- A plain byte stands for itself. -/
theorem jsonEscape_of_isPlain {c : Char} (plain : isPlain c = true) : jsonEscape c = [c] := by
  simp only [isPlain, Bool.and_eq_true, decide_eq_true_eq] at plain
  obtain ⟨⟨noQuote, noEscape⟩, printable⟩ := plain
  have control (other : Char) (below : other.toNat < 32) : c ≠ other := by
    rintro rfl
    omega
  rw [jsonEscape, if_neg noQuote, if_neg noEscape, if_neg (by omega), if_neg (by omega),
    if_neg (control '\n' (by decide)), if_neg (control '\r' (by decide)),
    if_neg (control '\t' (by decide)), if_neg (by omega)]

/-- A plain text that fits is appended in quotes. -/
theorem TextBuffer.appendJson_of_fits {out : TextBuffer} {value : CString} (plain : PlainText value)
    (fits : out.Fits (quoted value)) :
    out.appendJson value = { out with text := out.text ++ quoted value } := by
  have same : (['"'] :: (value.map jsonEscape ++ [['"']])).flatten = quoted value := by
    have escaped : value.map jsonEscape = value.map fun c => [c] :=
      List.map_congr_left fun c member =>
        jsonEscape_of_isPlain (List.all_eq_true.mp plain c member)
    have whole : (value.map fun c => [c]).flatten = value :=
      (List.flatMap_def).symm.trans (List.flatMap_singleton' value)
    rw [escaped, List.flatten_cons, List.flatten_append, whole, quoted]
    rfl
  rw [appendJson, appendWhile_of_fits (same ▸ fits), same]

/-- Texts that fit together are all stored. -/
theorem TextBuffer.appendAll_of_lt {out : TextBuffer} {texts : List CString}
    (fits : out.text.length + texts.flatten.length < out.cap) :
    out.appendAll texts = { out with text := out.text ++ texts.flatten } := by
  induction texts generalizing out with
  | nil => simp [appendAll]
  | cons text texts ih =>
      rw [List.flatten_cons, List.length_append] at fits
      have room : ¬ out.text.length ≥ out.cap := by omega
      have small : ¬ text.length ≥ out.cap - out.text.length := by omega
      have first : out.append text = { out with text := out.text ++ text } := by
        rw [append, if_neg room, if_neg small]
      change (out.append text).appendAll texts = _
      rw [first, ih (by simp only [List.length_append]; omega), List.flatten_cons,
        List.append_assoc]

/-! ## A text of quoted strings -/

/-- Quoted strings, each with the layout up to the next quote. -/
def jsonItems (items : List (CString × CString)) : CString :=
  items.flatMap fun item => quoted item.1 ++ item.2

/-- The strings and the layouts in turn. -/
def itemSegments (items : List (CString × CString)) : List CString :=
  items.flatMap fun item => [item.1, item.2]

@[simp] theorem itemSegments_cons (item : CString × CString) (items : List (CString × CString)) :
    itemSegments (item :: items) = item.1 :: item.2 :: itemSegments items := rfl

theorem jsonItems_cons (item : CString × CString) (items : List (CString × CString)) :
    jsonItems (item :: items) = quoted item.1 ++ item.2 ++ jsonItems items := rfl

theorem jsonItems_append (first second : List (CString × CString)) :
    jsonItems (first ++ second) = jsonItems first ++ jsonItems second :=
  List.flatMap_append

theorem jsonItems_eq_marked (items : List (CString × CString)) :
    jsonItems items = marked '"' (itemSegments items) := by
  induction items with
  | nil => rfl
  | cons item items ih =>
      rw [jsonItems_cons, ih, itemSegments_cons, marked_cons, marked_cons, quoted]
      simp

/-- Text behind the last item belongs to its layout. -/
theorem jsonItems_concat_append (items : List (CString × CString)) (key layout text : CString) :
    jsonItems (items ++ [(key, layout)]) ++ text = jsonItems (items ++ [(key, layout ++ text)]) := by
  simp [jsonItems, List.append_assoc]

/-- Strings without quotes, and layouts without quotes that start with a colon or a comma. -/
structure LaidOut (item : CString × CString) : Prop where
  key : '"' ∉ item.1
  layout : '"' ∉ item.2
  mark : item.2.head? = some ':' ∨ item.2.head? = some ','

theorem free_itemSegments {items : List (CString × CString)}
    (laidOut : ∀ item ∈ items, LaidOut item) : Free '"' (itemSegments items) := by
  induction items with
  | nil =>
      intro _ none
      cases none
  | cons item items ih =>
      have here := laidOut item List.mem_cons_self
      have tail := ih fun later member => laidOut later (List.mem_cons_of_mem _ member)
      exact free_cons.mpr ⟨here.key, free_cons.mpr ⟨here.layout, tail⟩⟩

/-- A key the reader searches for: short, and unlike every layout. -/
def KeyText (key : CString) : Prop :=
  key.length ≤ 93 ∧ key.head? ≠ some ',' ∧ '"' ∉ key ∧ ':' ∉ key

instance (key : CString) : Decidable (KeyText key) := inferInstanceAs (Decidable (_ ∧ _))

theorem LaidOut.ne_key {item : CString × CString} (laidOut : LaidOut item) {key : CString}
    (keyText : KeyText key) : item.2 ≠ key := by
  obtain ⟨_, noComma, _, noColon⟩ := keyText
  intro same
  rcases laidOut.mark with colon | comma
  · exact noColon (same ▸ List.mem_of_mem_head? colon)
  · exact noComma (same ▸ comma)

section Find

variable {start key layout : CString} {keys : List CString}
  {item : CString × CString} {items before after : List (CString × CString)}

/-- A search goes past an item whose string does not start the keys. -/
theorem findSegments_skip (keyText : KeyText key) (laidOut : LaidOut item)
    (absent : ¬ Heads (key :: keys) (itemSegments (item :: items))) :
    findSegments (key :: keys) (itemSegments (item :: items)) =
      findSegments (key :: keys) (itemSegments items) := by
  have notLayout : ¬ Heads (key :: keys) (item.2 :: itemSegments items) :=
    fun heads => laidOut.ne_key keyText (heads_cons.mp heads).1
  rw [itemSegments_cons] at absent ⊢
  rw [findSegments, if_neg absent, findSegments, if_neg notLayout]

theorem findSegments_past (keyText : KeyText key) (laidOut : ∀ item ∈ before, LaidOut item)
    (absent : ∀ item ∈ before, item.1 ≠ key) :
    findSegments (key :: keys) (itemSegments (before ++ items)) =
      findSegments (key :: keys) (itemSegments items) := by
  induction before with
  | nil => rfl
  | cons item before ih =>
      have other := absent item List.mem_cons_self
      rw [List.cons_append, findSegments_skip keyText (laidOut item List.mem_cons_self)
        fun heads => other (heads_cons.mp heads).1]
      exact ih (fun later member => laidOut later (List.mem_cons_of_mem _ member))
        fun later member => absent later (List.mem_cons_of_mem _ member)

theorem findSegments_here (heads : Heads keys (itemSegments (item :: items))) :
    findSegments keys (itemSegments (item :: items)) = some (itemSegments (item :: items)) := by
  rw [itemSegments_cons] at heads ⊢
  rw [findSegments, if_pos heads]

theorem findSub_items (keysFree : Free '"' keys) (startFree : '"' ∉ start)
    (laidOut : ∀ item ∈ items, LaidOut item) :
    findSub (quotedKeys '"' keys) (start ++ jsonItems items) =
      (findSegments keys (itemSegments items)).map (marked '"') := by
  obtain ⟨needle, head⟩ := quotedKeys_head keys
  rw [jsonItems_eq_marked, ← findSub_marked keysFree (free_itemSegments laidOut), head]
  exact findSub_append startFree _

/-- `json_find_key` finds the first item whose string is the key. -/
theorem jsonFindKey_items (keyText : KeyText key) (startFree : '"' ∉ start)
    (laidOut : ∀ item ∈ before ++ (key, layout) :: after, LaidOut item)
    (absent : ∀ item ∈ before, item.1 ≠ key) :
    jsonFindKey (start ++ jsonItems (before ++ (key, layout) :: after)) key =
      some (jsonItems ((key, layout) :: after)) := by
  obtain ⟨short, _, keyFree, _⟩ := id keyText
  have whole : snprintf 96 (quoted key) = quotedKeys '"' [key] := by
    rw [snprintf, List.take_of_length_le (by simp [quoted]; omega)]
    simp [quoted, quotedKeys]
  have keysFree : Free '"' [key] := free_cons.mpr ⟨keyFree, fun _ none => by cases none⟩
  have past := fun item member => laidOut item (List.mem_append_left _ member)
  rw [jsonFindKey, whole, findSub_items keysFree startFree laidOut,
    findSegments_past keyText past absent, findSegments_here ⟨layout, itemSegments after, rfl⟩,
    jsonItems_eq_marked]
  rfl

/-- `json_object_with_id` searches the strings `id`, `: ` and the id itself. -/
theorem jsonObjectWithId_items {id : CString} (short : id.length ≤ 55) (idFree : '"' ∉ id)
    (startFree : '"' ∉ start) (laidOut : ∀ item ∈ items, LaidOut item) :
    jsonObjectWithId (start ++ jsonItems items) id =
      (findSegments ["id".toList, ": ".toList, id] (itemSegments items)).map (marked '"') := by
  have whole : snprintf 64 ("\"id\": \"".toList ++ id ++ "\"".toList) =
      quotedKeys '"' ["id".toList, ": ".toList, id] := by
    rw [snprintf, List.take_of_length_le (by simp; omega)]
    simp [quotedKeys]
  have keysFree : Free '"' ["id".toList, ": ".toList, id] := by
    refine free_cons.mpr ⟨by decide, free_cons.mpr ⟨by decide, free_cons.mpr ⟨idFree, ?_⟩⟩⟩
    intro _ none
    cases none
  rw [jsonObjectWithId, whole, findSub_items keysFree startFree laidOut]

end Find

/-- The value after the first colon and one blank. -/
theorem jsonAfterColon_append {head value : CString} (noColon : ':' ∉ head)
    (solid : value.dropWhile isBlank = value) :
    jsonAfterColon (head ++ (": ".toList ++ value)) = some value := by
  have skip : (head ++ ':' :: ' ' :: value).dropWhile (· ≠ ':') = ':' :: ' ' :: value := by
    induction head with
    | nil => simp
    | cons h head ih =>
        have differs : h ≠ ':' := fun same => noColon (same ▸ List.mem_cons_self)
        rw [List.cons_append, List.dropWhile_cons_of_pos (by simpa using differs)]
        exact ih fun member => noColon (List.mem_cons_of_mem h member)
  have blank : (' ' :: value).dropWhile isBlank = value.dropWhile isBlank := rfl
  change jsonAfterColon (head ++ ':' :: ' ' :: value) = some value
  rw [jsonAfterColon, skip]
  dsimp only
  rw [blank, solid]

/-- The value of the first item with the key. -/
theorem jsonValue_items (start : CString) {key value : CString}
    (before : List (CString × CString)) {after : List (CString × CString)}
    (keyText : KeyText key) (startFree : '"' ∉ start)
    (laidOut : ∀ item ∈ before ++ (key, ": ".toList ++ value) :: after, LaidOut item)
    (absent : ∀ item ∈ before, item.1 ≠ key)
    (solid : (value ++ jsonItems after).dropWhile isBlank = value ++ jsonItems after) :
    jsonValue (start ++ jsonItems (before ++ (key, ": ".toList ++ value) :: after)) key =
      some (value ++ jsonItems after) := by
  have noColon : ':' ∉ quoted key := by
    simp [quoted, keyText.2.2.2]
  rw [jsonValue, jsonFindKey_items keyText startFree laidOut absent, Option.bind_some,
    jsonItems_cons, List.append_assoc, List.append_assoc]
  exact jsonAfterColon_append noColon solid

/-- A string with the text of a key hides it: its value is that of the string after it. -/
theorem jsonValue_shadowed (start : CString) {key comma next value : CString}
    (before : List (CString × CString)) {after : List (CString × CString)}
    (keyText : KeyText key) (startFree : '"' ∉ start)
    (laidOut : ∀ item ∈ before ++ (key, comma) :: (next, ": ".toList ++ value) :: after,
      LaidOut item)
    (absent : ∀ item ∈ before, item.1 ≠ key) (commaFree : ':' ∉ comma) (nextFree : ':' ∉ next)
    (solid : (value ++ jsonItems after).dropWhile isBlank = value ++ jsonItems after) :
    jsonValue (start ++
        jsonItems (before ++ (key, comma) :: (next, ": ".toList ++ value) :: after)) key =
      some (value ++ jsonItems after) := by
  have noColon : ':' ∉ quoted key ++ comma ++ quoted next := by
    simp [quoted, keyText.2.2.2, commaFree, nextFree]
  rw [jsonValue, jsonFindKey_items keyText startFree laidOut absent, Option.bind_some,
    jsonItems_cons, jsonItems_cons]
  simp only [← List.append_assoc]
  rw [List.append_assoc (quoted key ++ comma ++ quoted next ++ ": ".toList),
    List.append_assoc (quoted key ++ comma ++ quoted next)]
  exact jsonAfterColon_append noColon solid

end NitroSense
