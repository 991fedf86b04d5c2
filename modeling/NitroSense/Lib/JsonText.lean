import Mathlib.Data.List.TakeWhile

/-!
# JSON documents as texts

A document is kept as its concrete syntax, with the space between its tokens
and the spelling of its strings and numbers.  So its text is a function of it,
and a text is well formed when it is the text of a document.  Characters are
bytes: an escaped code point becomes its UTF-8 bytes.
-/

namespace NitroSense.Lib

/-! ## Tokens -/

def isJsonSpace (c : Char) : Bool := c == ' ' || c == '\t' || c == '\n' || c == '\r'

structure Space where
  text : List Char := []
  blank : text.all isJsonSpace = true := by rfl

def Space.none : Space := {}

def isHexDigit (c : Char) : Bool :=
  c.isDigit || ('a' ≤ c && c ≤ 'f') || ('A' ≤ c && c ≤ 'F')

/-- What may stand between the quotes of a string. -/
def isStringBody : List Char → Bool
  | [] => true
  | '\\' :: 'u' :: a :: b :: c :: d :: rest =>
      isHexDigit a && isHexDigit b && isHexDigit c && isHexDigit d && isStringBody rest
  | '\\' :: c :: rest => "\"\\/bfnrt".toList.contains c && isStringBody rest
  | c :: rest => c ≠ '"' && c ≠ '\\' && decide (32 ≤ c.toNat) && isStringBody rest

/-- A string as it is spelled between its quotes. -/
structure StringToken where
  raw : List Char
  body : isStringBody raw = true

/-- A spelling given as a literal; the empty one if a string cannot be spelled so. -/
def StringToken.key (name : String) : StringToken :=
  if body : isStringBody name.toList = true then ⟨name.toList, body⟩ else ⟨[], rfl⟩

/-- The text is a number's digits and what follows its first run of digits. -/
def splitDigits (text : List Char) : List Char × List Char :=
  (text.takeWhile Char.isDigit, text.dropWhile Char.isDigit)

/-- The exponent of a number, if any. -/
def isExponent : List Char → Bool
  | [] => true
  | e :: rest =>
      let digits := match rest with
        | '+' :: digits => digits
        | '-' :: digits => digits
        | digits => digits
      (e == 'e' || e == 'E') && !digits.isEmpty && digits.all Char.isDigit

/-- The fraction and the exponent of a number, if any. -/
def isFraction : List Char → Bool
  | '.' :: rest => !(splitDigits rest).1.isEmpty && isExponent (splitDigits rest).2
  | rest => isExponent rest

/-- A number without its sign: no leading zero before another digit. -/
def isUnsignedNumber (text : List Char) : Bool :=
  let parts := splitDigits text
  !parts.1.isEmpty && (parts.1 == ['0'] || parts.1.head? != some '0') && isFraction parts.2

def isNumber : List Char → Bool
  | '-' :: text => isUnsignedNumber text
  | text => isUnsignedNumber text

theorem isFraction_head {more : List Char} (fraction : isFraction more = true) :
    more = [] ∨ ∃ c rest, more = c :: rest ∧ (c = '.' ∨ c = 'e' ∨ c = 'E') := by
  cases more with
  | nil => exact Or.inl rfl
  | cons c rest =>
      refine Or.inr ⟨c, rest, rfl, ?_⟩
      by_cases point : c = '.'
      · exact Or.inl point
      · have exponent : isExponent (c :: rest) = true := by
          unfold isFraction at fraction
          split at fraction
          · rename_i same
            exact absurd (List.cons.inj same).1 point
          · exact fraction
        simp only [isExponent, Bool.and_eq_true, Bool.or_eq_true, beq_iff_eq] at exponent
        exact Or.inr exponent.1.1

/-- A number without its sign is a run of digits, and a fraction or an exponent if it goes on. -/
theorem isUnsignedNumber_split {text : List Char} (number : isUnsignedNumber text = true) :
    ∃ digits more, text = digits ++ more ∧ digits ≠ [] ∧ (∀ c ∈ digits, c.isDigit = true) ∧
      (more = [] ∨ ∃ c rest, more = c :: rest ∧ (c = '.' ∨ c = 'e' ∨ c = 'E')) := by
  simp only [isUnsignedNumber, splitDigits, Bool.and_eq_true, Bool.not_eq_true',
    List.isEmpty_eq_false_iff] at number
  obtain ⟨⟨digits, _⟩, fraction⟩ := number
  exact ⟨_, _, List.takeWhile_append_dropWhile.symm, digits,
    fun c member => List.mem_takeWhile_imp member, isFraction_head fraction⟩

/-- A number as it is spelled. -/
structure NumberToken where
  raw : List Char
  number : isNumber raw = true

/-! ## Values of tokens -/

def hexValue (c : Char) : Nat :=
  if c.isDigit then c.toNat - 48 else if 'a' ≤ c then c.toNat - 87 else c.toNat - 55

/-- The UTF-8 bytes of a code point. -/
def utf8Bytes (n : Nat) : List Char :=
  (if n < 0x80 then [n]
  else if n < 0x800 then [0xC0 + n / 64, 0x80 + n % 64]
  else if n < 0x10000 then [0xE0 + n / 4096, 0x80 + n / 64 % 64, 0x80 + n % 64]
  else [0xF0 + n / 262144, 0x80 + n / 4096 % 64, 0x80 + n / 64 % 64, 0x80 + n % 64]).map Char.ofNat

def escapedChar (c : Char) : Char :=
  if c = 'b' then Char.ofNat 8 else if c = 'f' then Char.ofNat 12 else if c = 'n' then '\n'
  else if c = 'r' then '\r' else if c = 't' then '\t' else c

/-- The code unit of four hexadecimal digits. -/
def codeUnit (a b c d : Char) : Nat :=
  ((hexValue a * 16 + hexValue b) * 16 + hexValue c) * 16 + hexValue d

/-- The bytes of a surrogate that is not the first half of a pair. -/
def lone (high : Option Nat) : List Char := high.elim [] utf8Bytes

/-- The characters a spelling denotes behind the first half of a surrogate pair, if any. -/
def stringValue (high : Option Nat) : List Char → List Char
  | [] => lone high
  | '\\' :: 'u' :: a :: b :: c :: d :: rest =>
      let unit := codeUnit a b c d
      let unpaired :=
        if 0xD800 ≤ unit ∧ unit < 0xDC00 then stringValue (some unit) rest
        else utf8Bytes unit ++ stringValue none rest
      match high with
      | some first =>
          if 0xDC00 ≤ unit ∧ unit < 0xE000 then
            utf8Bytes (0x10000 + (first - 0xD800) * 1024 + (unit - 0xDC00)) ++
              stringValue none rest
          else utf8Bytes first ++ unpaired
      | none => unpaired
  | '\\' :: c :: rest => lone high ++ (escapedChar c :: stringValue none rest)
  | c :: rest => lone high ++ (c :: stringValue none rest)

theorem isStringBody_cons {c : Char} {rest : List Char} (plain : c ≠ '\\') :
    isStringBody (c :: rest) =
      (c ≠ '"' && c ≠ '\\' && decide (32 ≤ c.toNat) && isStringBody rest) := by
  rw [isStringBody]
  · exact fun _ _ _ _ _ same => absurd same plain
  · exact fun _ _ same => absurd same plain

theorem stringValue_cons {c : Char} {rest : List Char} (plain : c ≠ '\\') :
    stringValue none (c :: rest) = c :: stringValue none rest := by
  rw [stringValue]
  · rfl
  · exact fun _ _ _ _ _ same => absurd same plain
  · exact fun _ _ same => absurd same plain

/-- Up to its first quote a spelling has a backslash, or it has no quote and denotes itself. -/
theorem isStringBody_plain {raw : List Char} (body : isStringBody raw = true) :
    '\\' ∈ raw.takeWhile (· ≠ '"') ∨ ('"' ∉ raw ∧ stringValue none raw = raw) := by
  induction raw with
  | nil => exact Or.inr ⟨nofun, rfl⟩
  | cons c rest ih =>
      by_cases backslash : c = '\\'
      · left
        rw [backslash, List.takeWhile_cons_of_pos (by decide)]
        exact List.mem_cons_self
      · rw [isStringBody_cons backslash] at body
        simp only [Bool.and_eq_true, decide_eq_true_eq] at body
        obtain ⟨⟨⟨quote, _⟩, _⟩, restBody⟩ := body
        rw [List.takeWhile_cons_of_pos (by simpa using quote), stringValue_cons backslash]
        rcases ih restBody with escaped | ⟨free, value⟩
        · exact Or.inl (List.mem_cons_of_mem c escaped)
        · refine Or.inr ⟨fun member => ?_, by rw [value]⟩
          rcases List.mem_cons.mp member with same | later
          · exact quote same.symm
          · exact free later

def StringToken.value (token : StringToken) : List Char := stringValue none token.raw

/-- The integer a token spells without fraction and exponent. -/
def NumberToken.int? (token : NumberToken) : Option Int :=
  match token.raw with
  | '-' :: digits =>
      if digits.all Char.isDigit then some (-(Nat.ofDigitChars 10 digits 0 : Int)) else none
  | digits => if digits.all Char.isDigit then some (Nat.ofDigitChars 10 digits 0 : Int) else none

/-! ## Documents -/

/-- A JSON value with its spelling. -/
inductive Json where
  | null
  | bool (value : Bool)
  | number (token : NumberToken)
  | string (token : StringToken)
  | array (space : Space) (items : List (Space × Json × Space))
  | object (space : Space) (members : List (Space × StringToken × Space × Space × Json × Space))

namespace Json

def quotedToken (token : StringToken) : List Char := '"' :: (token.raw ++ ['"'])

mutual

def text : Json → List Char
  | null => "null".toList
  | bool value => if value then "true".toList else "false".toList
  | number token => token.raw
  | string token => quotedToken token
  | array space items => '[' :: (space.text ++ (itemsText items ++ [']']))
  | object space members => '\x7b' :: (space.text ++ (membersText members ++ ['\x7d']))

/-- The items of an array with their commas. -/
def itemsText : List (Space × Json × Space) → List Char
  | [] => []
  | (before, value, after) :: rest =>
      before.text ++ (value.text ++ (after.text ++
        match rest with
        | [] => []
        | _ :: _ => ',' :: itemsText rest))

/-- The members of an object with their commas. -/
def membersText : List (Space × StringToken × Space × Space × Json × Space) → List Char
  | [] => []
  | (before, key, afterKey, beforeValue, value, after) :: rest =>
      before.text ++ (quotedToken key ++ (afterKey.text ++ (':' :: (beforeValue.text ++
        (value.text ++ (after.text ++
          match rest with
          | [] => []
          | _ :: _ => ',' :: membersText rest))))))

end

/-- What stands between an item and those behind it. -/
def separator {α : Type} : List α → List Char
  | [] => []
  | _ :: _ => [',']

theorem itemsText_cons (before after : Space) (value : Json) (rest : List (Space × Json × Space)) :
    itemsText ((before, value, after) :: rest) =
      before.text ++ (value.text ++ (after.text ++ (separator rest ++ itemsText rest))) := by
  cases rest with
  | nil => rfl
  | cons next rest => rfl

/-! ## Members and items -/

/-- A member with the space around it. -/
abbrev Member := Space × StringToken × Space × Space × Json × Space

def memberKey (member : Member) : List Char := member.2.1.value

def memberValue (member : Member) : Json := member.2.2.2.2.1

/-- The text of a member from its key on. -/
def memberText : Member → List Char
  | (_, key, afterKey, beforeValue, value, after) =>
      quotedToken key ++ (afterKey.text ++ (':' :: (beforeValue.text ++
        (value.text ++ after.text))))

/-- The members of an object; other values have none. -/
def members : Json → List Member
  | object _ members => members
  | _ => []

def member? (json : Json) (key : List Char) : Option Member :=
  json.members.find? fun member => memberKey member = key

def value? (json : Json) (key : List Char) : Option Json := (json.member? key).map memberValue

def items? : Json → Option (List Json)
  | array _ items => some (items.map fun item => item.2.1)
  | _ => none

def int? : Json → Option Int
  | number token => token.int?
  | _ => none

def bool? : Json → Option Bool
  | bool value => some value
  | _ => none

def string? : Json → Option (List Char)
  | string token => some token.value
  | _ => none

/-! ## Documents without space -/

/-- A number given as a literal; `null` if a number cannot be spelled so. -/
def numeral (digits : String) : Json :=
  if isNumeral : isNumber digits.toList = true then number ⟨digits.toList, isNumeral⟩ else null

def ofItems (items : List Json) : Json :=
  array .none (items.map fun item => (.none, item, .none))

def ofMembers (members : List (StringToken × Json)) : Json :=
  object .none (members.map fun member => (.none, member.1, .none, .none, member.2, .none))

/-! ## The first character of a value -/

/-- What a value is can be told from its first character. -/
def StartsLike (c : Char) : Json → Prop
  | null => c = 'n'
  | bool true => c = 't'
  | bool false => c = 'f'
  | number _ => c = '-' ∨ c.isDigit = true
  | string _ => c = '"'
  | array _ _ => c = '['
  | object _ _ => c = '\x7b'

theorem text_head (value : Json) : ∃ c rest, value.text = c :: rest ∧ StartsLike c value := by
  cases value with
  | null => exact ⟨_, _, rfl, rfl⟩
  | bool value =>
      cases value with
      | true => exact ⟨_, _, rfl, rfl⟩
      | false => exact ⟨_, _, rfl, rfl⟩
  | number token =>
      obtain ⟨raw, number⟩ := token
      unfold isNumber at number
      split at number
      · rename_i text
        exact ⟨'-', text, rfl, Or.inl rfl⟩
      · obtain ⟨digits, more, rfl, nonempty, all, _⟩ := isUnsignedNumber_split number
        obtain ⟨c, rest, rfl⟩ := List.exists_cons_of_ne_nil nonempty
        exact ⟨c, rest ++ more, rfl, Or.inr (all c List.mem_cons_self)⟩
  | string token => exact ⟨_, _, rfl, rfl⟩
  | array space items => exact ⟨_, _, rfl, rfl⟩
  | object space members => exact ⟨_, _, rfl, rfl⟩

end Json

end NitroSense.Lib
