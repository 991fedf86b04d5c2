import NitroSense.Lib.JsonData
import NitroSense.Lib.Search

/-!
# Searching the text of a document

A text search for a key with its value could hit inside of a string, or at a
key that only ends like it.  For a plain word and the value `true` it does
not: it succeeds exactly when a member of the document, at any depth, has that
key and is spelled that way.
-/

namespace NitroSense.Lib

/-! ## Where a needle starts -/

section StartsIn

variable {α : Type*} {needle first second text rest : List α}

/-- The needle stands in `text ++ rest` and starts in `text`. -/
def StartsIn (needle : List α) : List α → List α → Prop
  | [], _ => False
  | c :: text, rest => needle <+: c :: (text ++ rest) ∨ StartsIn needle text rest

theorem startsIn_append :
    StartsIn needle (first ++ second) rest ↔
      StartsIn needle first (second ++ rest) ∨ StartsIn needle second rest := by
  induction first with
  | nil => simp [StartsIn]
  | cons c first ih => rw [List.cons_append, StartsIn, StartsIn, ih, or_assoc, List.append_assoc]

theorem startsIn_free {d : α} (free : d ∉ text) : ¬ StartsIn (d :: needle) text rest := by
  induction text with
  | nil => exact id
  | cons c text ih =>
      rintro (here | later)
      · exact free ((List.cons_prefix_cons.mp here).1 ▸ List.mem_cons_self)
      · exact ih (fun member => free (List.mem_cons_of_mem c member)) later

theorem infix_iff_startsIn (nonempty : needle ≠ []) : needle <:+: text ↔ StartsIn needle text [] := by
  induction text with
  | nil => simp [StartsIn, nonempty]
  | cons c text ih => rw [List.infix_cons_iff, ih, StartsIn, List.append_nil]

end StartsIn

/-! ## Keys -/

def isValueEnd (c : Char) : Bool := isJsonSpace c || c == ',' || c == '\x7d' || c == ']'

/-- Behind a value the text ends, or goes on with one of these. -/
def Ended (rest : List Char) : Prop := ∀ c ∈ rest.head?, isValueEnd c = true

structure SearchKey (key : List Char) : Prop where
  noQuote : '"' ∉ key
  noBackslash : '\\' ∉ key
  start : ∃ c more, key = c :: more ∧ c ≠ ':' ∧ isValueEnd c = false

/-- Colon, blank and `true`. -/
def isTrue : List Char := ": true".toList

/-- What is searched for: the key in quotes, and `isTrue` behind it. -/
def trueMember (key : List Char) : List Char := '"' :: (key ++ '"' :: isTrue)

namespace Json

mutual

/-- Some member, at any depth, has the key and is true, with no space in front of its colon and one
blank behind it. -/
def HoldsTrue (key : List Char) : Json → Prop
  | null | bool _ | number _ | string _ => False
  | array _ items => ItemsHoldTrue key items
  | object _ members => MembersHoldTrue key members

def ItemsHoldTrue (key : List Char) : List (Space × Json × Space) → Prop
  | [] => False
  | (_, value, _) :: rest => HoldsTrue key value ∨ ItemsHoldTrue key rest

def MembersHoldTrue (key : List Char) :
    List (Space × StringToken × Space × Space × Json × Space) → Prop
  | [] => False
  | (_, token, afterKey, beforeValue, value, _) :: rest =>
      (token.raw = key ∧ afterKey.text = [] ∧ beforeValue.text = [' '] ∧ value = bool true) ∨
        HoldsTrue key value ∨ MembersHoldTrue key rest

end

mutual

/-- No key has a quote in its spelling. -/
def QuoteFreeKeys : Json → Prop
  | null | bool _ | number _ | string _ => True
  | array _ items => ItemsQuoteFree items
  | object _ members => MembersQuoteFree members

def ItemsQuoteFree : List (Space × Json × Space) → Prop
  | [] => True
  | (_, value, _) :: rest => QuoteFreeKeys value ∧ ItemsQuoteFree rest

def MembersQuoteFree : List (Space × StringToken × Space × Space × Json × Space) → Prop
  | [] => True
  | (_, token, _, _, value, _) :: rest =>
      '"' ∉ token.raw ∧ QuoteFreeKeys value ∧ MembersQuoteFree rest

end

end Json

/-! ## Tokens -/

section Tokens

variable {key body rest : List Char}

def isNumberChar (c : Char) : Bool := c.isDigit || "+-.eE".toList.contains c

theorem isNumberChar_digit {c : Char} (digit : c.isDigit = true) : isNumberChar c = true := by
  rw [isNumberChar, digit, Bool.true_or]

theorem isExponent_chars {text : List Char} (exponent : isExponent text = true) :
    ∀ c ∈ text, isNumberChar c = true := by
  cases text with
  | nil => exact nofun
  | cons e text =>
      simp only [isExponent, Bool.and_eq_true, Bool.or_eq_true, beq_iff_eq] at exponent
      obtain ⟨⟨letter, -⟩, digits⟩ := exponent
      refine List.forall_mem_cons.mpr ⟨?_, fun c member => ?_⟩
      · rcases letter with rfl | rfl
        · rfl
        · rfl
      · split at digits
        · rcases List.mem_cons.mp member with rfl | later
          · rfl
          · exact isNumberChar_digit (List.all_eq_true.mp digits c later)
        · rcases List.mem_cons.mp member with rfl | later
          · rfl
          · exact isNumberChar_digit (List.all_eq_true.mp digits c later)
        · exact isNumberChar_digit (List.all_eq_true.mp digits c member)

theorem isFraction_chars {text : List Char} (fraction : isFraction text = true) :
    ∀ c ∈ text, isNumberChar c = true := by
  unfold isFraction at fraction
  split at fraction
  · rename_i rest
    simp only [splitDigits, Bool.and_eq_true] at fraction
    refine List.forall_mem_cons.mpr ⟨rfl, fun c member => ?_⟩
    rw [← List.takeWhile_append_dropWhile (l := rest) (p := Char.isDigit)] at member
    rcases List.mem_append.mp member with digit | exponent
    · exact isNumberChar_digit (List.mem_takeWhile_imp digit)
    · exact isExponent_chars fraction.2 c exponent
  · exact isExponent_chars fraction

theorem isUnsignedNumber_chars {text : List Char} (number : isUnsignedNumber text = true) :
    ∀ c ∈ text, isNumberChar c = true := by
  simp only [isUnsignedNumber, splitDigits, Bool.and_eq_true] at number
  intro c member
  rw [← List.takeWhile_append_dropWhile (l := text) (p := Char.isDigit)] at member
  rcases List.mem_append.mp member with digit | fraction
  · exact isNumberChar_digit (List.mem_takeWhile_imp digit)
  · exact isFraction_chars number.2 c fraction

theorem NumberToken.chars (token : NumberToken) : ∀ c ∈ token.raw, isNumberChar c = true := by
  obtain ⟨raw, number⟩ := token
  unfold isNumber at number
  split at number
  · exact List.forall_mem_cons.mpr ⟨rfl, isUnsignedNumber_chars number⟩
  · exact isUnsignedNumber_chars number

theorem NumberToken.noQuote (token : NumberToken) : '"' ∉ token.raw := by
  intro member
  cases token.chars '"' member

theorem Space.noQuote (space : Space) : '"' ∉ space.text := by
  intro member
  cases List.all_eq_true.mp space.blank '"' member

/-- A plain word and a quote stand in front of a spelled string when it is that string. -/
theorem body_prefix_iff {needle : List Char} (noQuote : '"' ∉ key) (noBackslash : '\\' ∉ key)
    (isBody : isStringBody body = true) :
    key ++ '"' :: needle <+: body ++ '"' :: rest ↔ body = key ∧ needle <+: rest := by
  induction body generalizing key with
  | nil =>
      cases key with
      | nil => simp
      | cons c key =>
          have differs : c ≠ '"' := fun same => noQuote (same ▸ List.mem_cons_self)
          simp [List.cons_prefix_cons, differs]
  | cons b body ih =>
      by_cases backslash : b = '\\'
      · cases key with
        | nil => simp [List.cons_prefix_cons, backslash]
        | cons c key =>
            have differs : c ≠ '\\' := fun same => noBackslash (same ▸ List.mem_cons_self)
            simp [List.cons_prefix_cons, backslash, differs, Ne.symm differs]
      · rw [isStringBody_cons backslash] at isBody
        simp only [Bool.and_eq_true, decide_eq_true_eq] at isBody
        obtain ⟨⟨⟨quote, _⟩, _⟩, more⟩ := isBody
        cases key with
        | nil => simp [List.cons_prefix_cons, Ne.symm quote]
        | cons c key =>
            have here := ih (fun member => noQuote (List.mem_cons_of_mem c member))
              (fun member => noBackslash (List.mem_cons_of_mem c member)) more
            rw [List.cons_append, List.cons_append, List.cons_prefix_cons, here, List.cons.injEq,
              and_assoc, eq_comm]

theorem trueMember_not_prefix {c : Char} {text : List Char} (other : c ≠ '"') :
    ¬ trueMember key <+: c :: text :=
  fun found => other (List.cons_prefix_cons.mp found).1.symm

theorem isHexDigit_ne_quote {c : Char} (digit : isHexDigit c = true) : c ≠ '"' := by
  rintro rfl
  cases digit

/-- Between the quotes of a string nothing is found unless `isTrue` is behind them. -/
theorem startsIn_body (word : SearchKey key) (isBody : isStringBody body = true)
    (away : ¬ isTrue <+: rest) : ¬ StartsIn (trueMember key) body ('"' :: rest) := by
  induction body using isStringBody.induct with
  | case1 => exact id
  | case2 a b c d body ih =>
      rw [isStringBody] at isBody
      simp only [Bool.and_eq_true] at isBody
      obtain ⟨⟨⟨⟨first, second⟩, third⟩, fourth⟩, more⟩ := isBody
      rintro (here | here | here | here | here | here | later)
      · exact trueMember_not_prefix (by decide) here
      · exact trueMember_not_prefix (by decide) here
      · exact trueMember_not_prefix (isHexDigit_ne_quote first) here
      · exact trueMember_not_prefix (isHexDigit_ne_quote second) here
      · exact trueMember_not_prefix (isHexDigit_ne_quote third) here
      · exact trueMember_not_prefix (isHexDigit_ne_quote fourth) here
      · exact ih more later
  | case3 c body other ih =>
      rw [isStringBody.eq_3 c body other, Bool.and_eq_true] at isBody
      rintro (here | here | later)
      · exact trueMember_not_prefix (by decide) here
      · obtain ⟨-, found⟩ := List.cons_prefix_cons.mp here
        exact away ((body_prefix_iff word.noQuote word.noBackslash isBody.2).mp found).2
      · exact ih isBody.2 later
  | case4 c body long short ih =>
      rw [isStringBody.eq_4 c body long short] at isBody
      simp only [Bool.and_eq_true, decide_eq_true_eq] at isBody
      obtain ⟨⟨⟨quote, _⟩, _⟩, more⟩ := isBody
      rintro (here | later)
      · exact trueMember_not_prefix quote here
      · exact ih more later

theorem ended_cons {c : Char} (ending : isValueEnd c = true) :
    Ended (c :: rest) := by
  intro d same
  cases same
  exact ending

/-- Behind a value in a list: the space, and the other values if there are any. -/
theorem ended_behind {α : Type} (after : Space) {items : List α} {text : List Char}
    (last : items = [] → text = []) (ended : Ended rest) :
    Ended ((after.text ++ (Json.separator items ++ text)) ++ rest) := by
  obtain ⟨blanks, blank⟩ := after
  cases blanks with
  | nil =>
      cases items with
      | nil =>
          rw [last rfl]
          exact ended
      | cons item items => exact ended_cons rfl
  | cons c blanks =>
      refine ended_cons ?_
      rw [List.all_cons, Bool.and_eq_true] at blank
      simp [isValueEnd, blank.1]

theorem colon_or_ended (space : Space) :
    ∀ c ∈ (space.text ++ ':' :: rest).head?, c = ':' ∨ isValueEnd c = true := by
  obtain ⟨text, blank⟩ := space
  intro c first
  cases text with
  | nil =>
      cases first
      exact Or.inl rfl
  | cons b text =>
      cases first
      rw [List.all_cons, Bool.and_eq_true] at blank
      simp [isValueEnd, blank.1]

/-- Behind a value there is no colon. -/
theorem Ended.not_isTrue (ended : Ended rest) : ¬ isTrue <+: rest := by
  rintro ⟨more, rfl⟩
  cases ended ':' rfl

/-- The first character of a word is none that stands behind a string. -/
theorem SearchKey.not_prefix (word : SearchKey key) {needle : List Char}
    (ends : ∀ c ∈ rest.head?, c = ':' ∨ isValueEnd c = true) : ¬ key ++ needle <+: rest := by
  obtain ⟨c, more, rfl, notColon, notEnd⟩ := word.start
  intro found
  cases rest with
  | nil => cases List.prefix_nil.mp found
  | cons d rest =>
      obtain ⟨rfl, -⟩ := List.cons_prefix_cons.mp found
      rcases ends c rfl with colon | ending
      · exact notColon colon
      · exact absurd (ending.symm.trans notEnd) (by decide)

/-- At a string the search succeeds where it is the key and `isTrue` follows. -/
theorem startsIn_quotedToken (word : SearchKey key) (token : StringToken)
    (ends : ∀ c ∈ rest.head?, c = ':' ∨ isValueEnd c = true)
    (quiet : '"' ∉ token.raw ∨ ¬ isTrue <+: rest) :
    StartsIn (trueMember key) (Json.quotedToken token) rest ↔
      token.raw = key ∧ isTrue <+: rest := by
  have first : trueMember key <+: '"' :: (token.raw ++ ['"'] ++ rest) ↔
      token.raw = key ∧ isTrue <+: rest := by
    rw [trueMember, List.cons_prefix_cons, List.append_assoc]
    exact (and_iff_right rfl).trans (body_prefix_iff word.noQuote word.noBackslash token.body)
  have inside : ¬ StartsIn (trueMember key) token.raw (['"'] ++ rest) := by
    rcases quiet with free | away
    · exact startsIn_free free
    · exact startsIn_body word token.body away
  have last : ¬ StartsIn (trueMember key) ['"'] rest := by
    rintro (here | later)
    · exact word.not_prefix ends (List.cons_prefix_cons.mp here).2
    · exact later
  rw [Json.quotedToken, StartsIn, first, startsIn_append]
  exact or_iff_left fun found => found.elim inside last

end Tokens

/-! ## Documents -/

namespace Json

section Search

variable {key : List Char}

theorem not_startsLike_blank (value : Json) : ¬ StartsLike ' ' value := by
  cases value with
  | bool value =>
      cases value with
      | true => exact (by decide : ' ' ≠ 't')
      | false => exact (by decide : ' ' ≠ 'f')
  | number token => exact (by decide : ¬ (' ' = '-' ∨ Char.isDigit ' ' = true))
  | null => exact (by decide : ' ' ≠ 'n')
  | string token => exact (by decide : ' ' ≠ '"')
  | array space items => exact (by decide : ' ' ≠ '[')
  | object space members => exact (by decide : ' ' ≠ '\x7b')

/-- Only one value starts with a `t`. -/
theorem startsLike_true {value : Json} (starts : StartsLike 't' value) : value = bool true := by
  cases value with
  | bool value =>
      cases value with
      | true => rfl
      | false => exact absurd starts (by decide : 't' ≠ 'f')
  | number token => exact absurd starts (by decide : ¬ ('t' = '-' ∨ Char.isDigit 't' = true))
  | null => exact absurd starts (by decide : 't' ≠ 'n')
  | string token => exact absurd starts (by decide : 't' ≠ '"')
  | array space items => exact absurd starts (by decide : 't' ≠ '[')
  | object space members => exact absurd starts (by decide : 't' ≠ '\x7b')

/-- What follows a key shows that it is true by its first characters. -/
theorem isTrue_prefix_iff {afterKey beforeValue : Space} {value : Json} {rest : List Char} :
    isTrue <+: afterKey.text ++ ':' :: (beforeValue.text ++ (value.text ++ rest)) ↔
      afterKey.text = [] ∧ beforeValue.text = [' '] ∧ value = bool true := by
  constructor
  · intro found
    have close : afterKey.text = [] := by
      rcases shape : afterKey.text with _ | ⟨c, more⟩
      · rfl
      · rw [shape] at found
        obtain ⟨rfl, -⟩ := List.cons_prefix_cons.mp found
        have blank := afterKey.blank
        rw [shape, List.all_cons] at blank
        cases blank
    rw [close] at found
    replace found : ' ' :: "true".toList <+: beforeValue.text ++ (value.text ++ rest) :=
      (List.cons_prefix_cons.mp found).2
    obtain ⟨first, more, spelled, starts⟩ := value.text_head
    rw [spelled] at found
    rcases shape : beforeValue.text with _ | ⟨c, _ | ⟨d, blanks⟩⟩
    · rw [shape] at found
      obtain ⟨rfl, -⟩ := List.cons_prefix_cons.mp found
      exact absurd starts (not_startsLike_blank value)
    · rw [shape] at found
      obtain ⟨one, found⟩ := List.cons_prefix_cons.mp found
      obtain ⟨rfl, -⟩ := List.cons_prefix_cons.mp found
      exact ⟨close, by rw [one], startsLike_true starts⟩
    · rw [shape] at found
      obtain ⟨-, found⟩ := List.cons_prefix_cons.mp found
      obtain ⟨rfl, -⟩ := List.cons_prefix_cons.mp found
      have blank := beforeValue.blank
      rw [shape, List.all_cons, List.all_cons, Bool.and_eq_true, Bool.and_eq_true] at blank
      cases blank.2.1
  · rintro ⟨close, one, rfl⟩
    rw [close, one]
    exact ⟨rest, rfl⟩

theorem startsIn_space (space : Space) (rest : List Char) :
    StartsIn (trueMember key) space.text rest ↔ False :=
  iff_false_intro (startsIn_free space.noQuote)

theorem startsIn_separator {α : Type} (items : List α) (rest : List Char) :
    StartsIn (trueMember key) (separator items) rest ↔ False := by
  refine iff_false_intro (startsIn_free ?_)
  cases items with
  | nil => exact nofun
  | cons item items => exact List.not_mem_cons_of_ne_of_not_mem (by decide) nofun

/-- Brackets and space add nothing. -/
theorem startsIn_brackets {first last : Char} (space : Space) (text rest : List Char)
    (quiet : '"' ≠ first ∧ '"' ≠ last) :
    StartsIn (trueMember key) (first :: (space.text ++ (text ++ [last]))) rest ↔
      StartsIn (trueMember key) text (last :: rest) := by
  have closing : ¬ StartsIn (trueMember key) [last] rest := by
    refine startsIn_free ?_
    rw [List.mem_singleton]
    exact quiet.2
  have opening : ¬ trueMember key <+: first :: ((space.text ++ (text ++ [last])) ++ rest) :=
    trueMember_not_prefix (Ne.symm quiet.1)
  rw [StartsIn, or_iff_right opening, startsIn_append, startsIn_space, false_or, startsIn_append,
    or_iff_left closing]
  rfl

mutual

/-- Inside of a value the search succeeds at the members that are searched for. -/
theorem startsIn_text (word : SearchKey key) : (value : Json) → (rest : List Char) →
    value.QuoteFreeKeys → Ended rest →
      (StartsIn (trueMember key) value.text rest ↔ value.HoldsTrue key)
  | null, _, _, _ => iff_of_false (startsIn_free (by decide)) id
  | bool value, _, _, _ => by
      refine iff_of_false (startsIn_free ?_) id
      cases value <;> decide
  | number token, _, _, _ => iff_of_false (startsIn_free token.noQuote) id
  | string token, rest, _, ended => by
      refine iff_of_false (fun found => ?_) id
      have away := ended.not_isTrue
      exact away ((startsIn_quotedToken word token (fun c here => Or.inr (ended c here))
        (Or.inr away)).mp found).2
  | array space items, rest, free, _ => by
      rw [text, startsIn_brackets space _ _ (by decide)]
      exact startsIn_itemsText word items (']' :: rest) free (ended_cons rfl)
  | object space members, rest, free, _ => by
      rw [text, startsIn_brackets space _ _ (by decide)]
      exact startsIn_membersText word members ('\x7d' :: rest) free (ended_cons rfl)

theorem startsIn_itemsText (word : SearchKey key) : (items : List (Space × Json × Space)) →
    (rest : List Char) → ItemsQuoteFree items → Ended rest →
      (StartsIn (trueMember key) (itemsText items) rest ↔ ItemsHoldTrue key items)
  | [], _, _, _ => Iff.rfl
  | (before, value, after) :: items, rest, free, ended => by
      have last : items = [] → itemsText items = [] := by
        rintro rfl
        rfl
      have here := startsIn_text word value _ free.1 (ended_behind after last ended)
      have others := startsIn_itemsText word items rest free.2 ended
      rw [itemsText_cons, startsIn_append, startsIn_space, false_or, startsIn_append, here,
        startsIn_append, startsIn_space, false_or, startsIn_append, startsIn_separator, false_or,
        others]
      rfl

theorem startsIn_membersText (word : SearchKey key) :
    (members : List (Space × StringToken × Space × Space × Json × Space)) →
    (rest : List Char) → MembersQuoteFree members → Ended rest →
      (StartsIn (trueMember key) (membersText members) rest ↔ MembersHoldTrue key members)
  | [], _, _, _ => Iff.rfl
  | (before, token, afterKey, beforeValue, value, after) :: members, rest, free, ended => by
      have last : members = [] → membersText members = [] := by
        rintro rfl
        rfl
      have here := startsIn_text word value _ free.2.1 (ended_behind after last ended)
      have others := startsIn_membersText word members rest free.2.2 ended
      let tail := after.text ++ (separator members ++ membersText members)
      have shape : membersText ((before, token, afterKey, beforeValue, value, after) :: members) =
          before.text ++ (quotedToken token ++
            (afterKey.text ++ ':' :: (beforeValue.text ++ (value.text ++ tail)))) := by
        rw [membersText_cons, memberText]
        simp only [List.append_assoc, List.cons_append, tail]
      have named : StartsIn (trueMember key) (quotedToken token)
          ((afterKey.text ++ ':' :: (beforeValue.text ++ (value.text ++ tail))) ++ rest) ↔
          token.raw = key ∧ afterKey.text = [] ∧ beforeValue.text = [' '] ∧ value = bool true := by
        rw [List.append_assoc, List.cons_append, List.append_assoc, List.append_assoc,
          startsIn_quotedToken word token (colon_or_ended afterKey) (Or.inl free.1),
          isTrue_prefix_iff]
      have colon : ¬ trueMember key <+: ':' :: (beforeValue.text ++ (value.text ++ tail) ++ rest) :=
        trueMember_not_prefix (by decide)
      rw [shape, startsIn_append, startsIn_space, false_or, startsIn_append, named, startsIn_append,
        startsIn_space, false_or, StartsIn, or_iff_right colon, startsIn_append, startsIn_space,
        false_or, startsIn_append, here, startsIn_append, startsIn_space, false_or,
        startsIn_append, startsIn_separator, false_or, others]
      rfl

end

end Search

/-- The text search for a key that is true finds what the document holds. -/
theorem trueMember_infix_iff {key rest : List Char} (word : SearchKey key) {document : Json}
    (free : document.QuoteFreeKeys) (ended : Ended rest) (quiet : '"' ∉ rest) :
    trueMember key <:+: document.text ++ rest ↔ document.HoldsTrue key := by
  have nonempty : trueMember key ≠ [] := List.cons_ne_nil _ _
  have behind : ¬ StartsIn (trueMember key) rest [] := startsIn_free quiet
  rw [infix_iff_startsIn nonempty, startsIn_append, List.append_nil,
    or_iff_left behind, startsIn_text word document rest free ended]

/-! ### Control characters -/

section Control

variable {control : Char}

theorem isHexDigit_bound {c : Char} (digit : isHexDigit c = true) : 32 ≤ c.toNat := by
  simp only [isHexDigit, Char.isDigit, Bool.or_eq_true, Bool.and_eq_true, decide_eq_true_eq,
    ge_iff_le, UInt32.le_iff_toNat_le, Char.le_def] at digit
  rw [Char.toNat]
  rcases digit with (⟨low, -⟩ | ⟨low, -⟩) | ⟨low, -⟩
  · exact le_trans (by decide) low
  · exact le_trans (by decide) low
  · exact le_trans (by decide) low

theorem isStringBody_bound {body : List Char} (isBody : isStringBody body = true) :
    ∀ c ∈ body, 32 ≤ c.toNat := by
  induction body using isStringBody.induct with
  | case1 => exact nofun
  | case2 a b c d body ih =>
      rw [isStringBody] at isBody
      simp only [Bool.and_eq_true] at isBody
      obtain ⟨⟨⟨⟨first, second⟩, third⟩, fourth⟩, more⟩ := isBody
      simp only [List.forall_mem_cons]
      exact ⟨by decide, by decide, isHexDigit_bound first, isHexDigit_bound second,
        isHexDigit_bound third, isHexDigit_bound fourth, ih more⟩
  | case3 c body other ih =>
      rw [isStringBody.eq_3 c body other, Bool.and_eq_true] at isBody
      have listed : "\"\\/bfnrt".toList.all (fun c => decide (32 ≤ c.toNat)) = true := by decide
      have escape := List.all_eq_true.mp listed c (List.contains_iff_mem.mp isBody.1)
      simp only [List.forall_mem_cons]
      exact ⟨by decide, of_decide_eq_true escape, ih isBody.2⟩
  | case4 c body long short ih =>
      rw [isStringBody.eq_4 c body long short] at isBody
      simp only [Bool.and_eq_true, decide_eq_true_eq] at isBody
      exact List.forall_mem_cons.mpr ⟨isBody.1.2, ih isBody.2⟩

theorem isNumberChar_bound {c : Char} (number : isNumberChar c = true) : 32 ≤ c.toNat := by
  rw [isNumberChar, Bool.or_eq_true] at number
  rcases number with digit | sign
  · have hex : isHexDigit c = true := by rw [isHexDigit, digit, Bool.true_or, Bool.true_or]
    exact isHexDigit_bound hex
  · have listed : "+-.eE".toList.all (fun c => decide (32 ≤ c.toNat)) = true := by decide
    exact of_decide_eq_true (List.all_eq_true.mp listed c (List.contains_iff_mem.mp sign))

/-- A character that is neither printable nor space. -/
structure IsControl (control : Char) : Prop where
  low : control.toNat < 32
  notSpace : isJsonSpace control = false

theorem IsControl.not_space (odd : IsControl control) (space : Space) : control ∉ space.text := by
  intro member
  have blank := List.all_eq_true.mp space.blank control member
  exact absurd (blank.symm.trans odd.notSpace) (by decide)

theorem IsControl.ne (odd : IsControl control) {c : Char} (printable : 32 ≤ c.toNat) :
    control ≠ c := by
  rintro rfl
  exact absurd odd.low (Nat.not_lt_of_le printable)

theorem IsControl.not_printable (odd : IsControl control) {text : List Char}
    (printable : text.all (fun c => decide (32 ≤ c.toNat)) = true) : control ∉ text := fun member =>
  absurd odd.low (Nat.not_lt_of_le (of_decide_eq_true (List.all_eq_true.mp printable control member)))

theorem IsControl.not_separator (odd : IsControl control) {α : Type} (items : List α) :
    control ∉ separator items := by
  cases items with
  | nil => exact nofun
  | cons item items => exact List.not_mem_cons_of_ne_of_not_mem (odd.ne (by decide)) nofun

theorem IsControl.not_quoted (odd : IsControl control) (token : StringToken) :
    control ∉ quotedToken token := by
  have inside : control ∉ token.raw := fun member =>
    absurd odd.low (Nat.not_lt_of_le (isStringBody_bound token.body control member))
  have quote : control ≠ '"' := odd.ne (by decide)
  simp [quotedToken, inside, quote]

mutual

/-- No control character stands in the text of a document. -/
theorem IsControl.not_text (odd : IsControl control) : (value : Json) → control ∉ value.text
  | null => show control ∉ "null".toList from odd.not_printable (by decide)
  | bool true => show control ∉ "true".toList from odd.not_printable (by decide)
  | bool false => show control ∉ "false".toList from odd.not_printable (by decide)
  | number token => fun member =>
      absurd odd.low (Nat.not_lt_of_le (isNumberChar_bound (token.chars control member)))
  | string token => odd.not_quoted token
  | array space items => by
      have inside := odd.not_itemsText items
      have opening : control ≠ '[' := odd.ne (by decide)
      have closing : control ≠ ']' := odd.ne (by decide)
      simp [text, odd.not_space, inside, opening, closing]
  | object space members => by
      have inside := odd.not_membersText members
      have opening : control ≠ '\x7b' := odd.ne (by decide)
      have closing : control ≠ '\x7d' := odd.ne (by decide)
      simp [text, odd.not_space, inside, opening, closing]

theorem IsControl.not_itemsText (odd : IsControl control) :
    (items : List (Space × Json × Space)) → control ∉ itemsText items
  | [] => nofun
  | (before, value, after) :: items => by
      have here := odd.not_text value
      have others := odd.not_itemsText items
      rw [itemsText_cons]
      simp [odd.not_space, here, odd.not_separator, others]

theorem IsControl.not_membersText (odd : IsControl control) :
    (members : List (Space × StringToken × Space × Space × Json × Space)) →
      control ∉ membersText members
  | [] => nofun
  | (before, token, afterKey, beforeValue, value, after) :: members => by
      have here := odd.not_text value
      have others := odd.not_membersText members
      rw [membersText_cons, memberText]
      have colon : control ≠ ':' := odd.ne (by decide)
      simp [odd.not_space, odd.not_quoted, colon, here, odd.not_separator, others]

end

end Control

/-! ### Laid out members and items -/

section Laid

variable {key : List Char} {before last : Space}

theorem layMembers_cons (before last : Space) (member : StringToken × Json)
    (rest : List (StringToken × Json)) :
    ∃ after, layMembers before last (member :: rest) =
      (before, member.1, .none, blank, member.2, after) :: layMembers before last rest := by
  cases rest with
  | nil => exact ⟨last, rfl⟩
  | cons next rest => exact ⟨.none, rfl⟩

theorem layItems_cons (before last : Space) (value : Json) (rest : List Json) :
    ∃ after, layItems before last (value :: rest) =
      (before, value, after) :: layItems before last rest := by
  cases rest with
  | nil => exact ⟨last, rfl⟩
  | cons next rest => exact ⟨.none, rfl⟩

/-- Laid out members are spelled as they are searched for. -/
theorem membersHoldTrue_lay (members : List (StringToken × Json)) :
    MembersHoldTrue key (layMembers before last members) ↔
      ∃ member ∈ members, (member.1.raw = key ∧ member.2 = bool true) ∨ member.2.HoldsTrue key := by
  induction members with
  | nil => simp [layMembers, MembersHoldTrue]
  | cons member rest ih =>
      obtain ⟨after, laid⟩ := layMembers_cons before last member rest
      rw [laid, MembersHoldTrue, ih]
      simp [Space.none, blank, or_assoc]

theorem itemsHoldTrue_lay (items : List Json) :
    ItemsHoldTrue key (layItems before last items) ↔ ∃ value ∈ items, value.HoldsTrue key := by
  induction items with
  | nil => simp [layItems, ItemsHoldTrue]
  | cons value rest ih =>
      obtain ⟨after, laid⟩ := layItems_cons before last value rest
      rw [laid, ItemsHoldTrue, ih]
      simp

theorem membersQuoteFree_lay {members : List (StringToken × Json)}
    (free : ∀ member ∈ members, '"' ∉ member.1.raw ∧ member.2.QuoteFreeKeys) :
    MembersQuoteFree (layMembers before last members) := by
  induction members with
  | nil => trivial
  | cons member rest ih =>
      obtain ⟨here, others⟩ := List.forall_mem_cons.mp free
      obtain ⟨after, laid⟩ := layMembers_cons before last member rest
      rw [laid]
      exact ⟨here.1, here.2, ih others⟩

theorem itemsQuoteFree_lay {items : List Json} (free : ∀ value ∈ items, value.QuoteFreeKeys) :
    ItemsQuoteFree (layItems before last items) := by
  induction items with
  | nil => trivial
  | cons value rest ih =>
      obtain ⟨here, others⟩ := List.forall_mem_cons.mp free
      obtain ⟨after, laid⟩ := layItems_cons before last value rest
      rw [laid]
      exact ⟨here, ih others⟩

end Laid

end Json

end NitroSense.Lib
