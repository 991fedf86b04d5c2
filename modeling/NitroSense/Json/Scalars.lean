import NitroSense.Json
import NitroSense.Lib.Tokens

/-!
# What the scalar readers accept

The scalar readers check by hand what `strtol`, `strncmp` and `strchr` would let
through.  Each accepts one form of the value text of its key, the text behind
the first colon after the key's first quoted occurrence.
-/

namespace NitroSense

open Lib

/-! ## The value text of a key -/

/--
What follows the first colon behind the first quoted occurrence of the key, from
its first character on that is no blank.
-/
def ValueText (text key value : CString) : Prop :=
  ∃ gap blanks, FirstAt (quoted key) text (quoted key ++ (gap ++ ':' :: (blanks ++ value))) ∧
    ':' ∉ gap ∧ (∀ c ∈ blanks, isBlank c = true) ∧ ∀ c ∈ value.head?, isBlank c = false

/-- A value ends: behind blanks stands a delimiter, or nothing. -/
def ValueEnds (rest : CString) : Prop :=
  ∃ blanks tail, rest = blanks ++ tail ∧ (∀ c ∈ blanks, isBlank c = true) ∧
    ∀ c ∈ tail.head?, c = ',' ∨ c = '\x7d' ∨ c = ']'

section ValueText

variable {text key found value rest : CString}

theorem whole_needle (short : key.length ≤ 93) : snprintf 96 (quoted key) = quoted key :=
  List.take_of_length_le (by simp [quoted]; omega)

theorem jsonFindKey_eq_some_iff (short : key.length ≤ 93) :
    jsonFindKey text key = some found ↔ FirstAt (quoted key) text found := by
  rw [jsonFindKey, whole_needle short]
  exact findSub_eq_some_iff (List.cons_ne_nil _ _)

theorem jsonFindKey_eq_none_iff (short : key.length ≤ 93) :
    jsonFindKey text key = none ↔ ¬ quoted key <:+: text := by
  rw [jsonFindKey, whole_needle short]
  exact findSub_eq_none_iff

/-- The cursor moves past the first colon and the blanks behind it. -/
theorem jsonAfterColon_iff :
    jsonAfterColon found = some value ↔
      ∃ head blanks, found = head ++ ':' :: (blanks ++ value) ∧ ':' ∉ head ∧
        (∀ c ∈ blanks, isBlank c = true) ∧ ∀ c ∈ value.head?, isBlank c = false := by
  constructor
  · intro after
    have stops := mem_head?_dropWhile (fun c => decide (c ≠ ':')) found
    have whole := @List.takeWhile_append_dropWhile _ (fun c => decide (c ≠ ':')) found
    rw [jsonAfterColon] at after
    cases behind : found.dropWhile fun c => decide (c ≠ ':') with
    | nil =>
        rw [behind] at after
        cases after
    | cons c rest =>
        rw [behind] at after stops whole
        obtain rfl : c = ':' := by simpa using stops c rfl
        refine ⟨found.takeWhile fun c => decide (c ≠ ':'), rest.takeWhile isBlank, ?_,
          fun member => ?_, fun d member => List.mem_takeWhile_imp member, ?_⟩
        · rw [← Option.some.inj after, List.takeWhile_append_dropWhile]
          exact whole.symm
        · simpa using List.mem_takeWhile_imp member
        · rw [← Option.some.inj after]
          exact mem_head?_dropWhile isBlank rest
  · rintro ⟨head, blanks, rfl, noColon, blank, solid⟩
    have before : ∀ c ∈ head, decide (c ≠ ':') = true := fun c member =>
      decide_eq_true fun same => noColon (same ▸ member)
    have kept : value.dropWhile isBlank = value := by
      cases value with
      | nil => rfl
      | cons c more => exact List.dropWhile_cons_of_neg (by simp [solid c rfl])
    rw [jsonAfterColon, List.dropWhile_append_of_pos before, List.dropWhile_cons_of_neg (by simp)]
    dsimp only
    rw [List.dropWhile_append_of_pos blank, kept]

/-- The readers look at the value text of a key without a colon. -/
theorem jsonValue_iff (short : key.length ≤ 93) (noColon : ':' ∉ key) :
    jsonValue text key = some value ↔ ValueText text key value := by
  have free : ':' ∉ quoted key := by simp [quoted, noColon]
  rw [jsonValue, Option.bind_eq_some_iff]
  constructor
  · rintro ⟨found, searched, after⟩
    have first := (jsonFindKey_eq_some_iff short).mp searched
    obtain ⟨head, blanks, rfl, before, blank, solid⟩ := jsonAfterColon_iff.mp after
    obtain ⟨gap, rfl⟩ : quoted key <+: head := by
      rcases List.prefix_or_prefix_of_prefix first.1 (List.prefix_append head _) with
        inside | ⟨tail, beyond⟩
      · exact inside
      · cases tail with
        | nil =>
            rw [List.append_nil] at beyond
            rw [beyond]
        | cons c tail =>
            have same := first.1
            rw [← beyond, List.prefix_append_right_inj] at same
            have colon : c = ':' := (List.cons_prefix_cons.mp same).1
            rw [← beyond, colon] at free
            exact absurd (List.mem_append_right _ List.mem_cons_self) free
    rw [List.append_assoc] at first
    exact ⟨gap, blanks, first, fun member => before (List.mem_append_right _ member), blank, solid⟩
  · rintro ⟨gap, blanks, first, before, blank, solid⟩
    refine ⟨_, (jsonFindKey_eq_some_iff short).mpr first, jsonAfterColon_iff.mpr
      ⟨quoted key ++ gap, blanks, (List.append_assoc _ _ _).symm, fun member => ?_, blank, solid⟩⟩
    rcases List.mem_append.mp member with inKey | inGap
    · exact free inKey
    · exact before inGap

theorem jsonValueEnded_iff : jsonValueEnded rest = true ↔ ValueEnds rest := by
  have whole := @List.takeWhile_append_dropWhile _ isBlank rest
  constructor
  · intro ended
    refine ⟨_, _, whole.symm, fun c member => List.mem_takeWhile_imp member, fun c head => ?_⟩
    rw [jsonValueEnded] at ended
    obtain ⟨more, shape⟩ := List.head?_eq_some_iff.mp head
    rw [shape] at ended
    simpa [or_assoc] using ended
  · rintro ⟨blanks, tail, rfl, blank, delimiter⟩
    rw [jsonValueEnded, List.dropWhile_append_of_pos blank]
    cases tail with
    | nil => rfl
    | cons c more =>
        rcases delimiter c rfl with rfl | rfl | rfl
        · rfl
        · rfl
        · rfl

theorem ValueEnds.not_digit (ends : ValueEnds rest) : ∀ c ∈ rest.head?, c.isDigit = false := by
  obtain ⟨blanks, tail, rfl, blank, delimiter⟩ := ends
  intro c head
  cases blanks with
  | nil =>
      rcases delimiter c head with rfl | rfl | rfl
      · rfl
      · rfl
      · rfl
  | cons b blanks =>
      cases head
      by_contra digit
      have solid := isSpace_of_isDigit (Bool.not_eq_false _ ▸ digit)
      rw [isSpace, blank c List.mem_cons_self] at solid
      cases solid

/-- A value that ends behind a blank ends before it. -/
theorem ValueEnds.blank {c : Char} (blank : isBlank c = true) (ends : ValueEnds rest) :
    ValueEnds (c :: rest) := by
  obtain ⟨blanks, tail, rfl, all, delimiter⟩ := ends
  exact ⟨c :: blanks, tail, rfl, List.forall_mem_cons.mpr ⟨blank, all⟩, delimiter⟩

/-- Where a delimiter stands a value ends. -/
theorem ValueEnds.delimiter {c : Char} (isDelimiter : c = ',' ∨ c = '\x7d' ∨ c = ']')
    (rest : CString) : ValueEnds (c :: rest) := by
  refine ⟨[], c :: rest, rfl, fun d none => ?_, fun d head => ?_⟩
  · cases none
  · rw [← Option.some.inj head]
    exact isDelimiter

end ValueText

/-! ## Integers -/

/-- The digits of a JSON integer: `0`, or digits of which the first is another one. -/
inductive JsonDigits : CString → Prop where
  | zero : JsonDigits ['0']
  | run {d : Char} {more : CString} (digit : d.isDigit = true) (leading : d ≠ '0')
      (all : ∀ c ∈ more, c.isDigit = true) : JsonDigits (d :: more)

/-- A JSON integer in the range of `int`, where a value ends behind it. -/
def IntForm (text : CString) (value : Int) : Prop :=
  ∃ negative digits rest, text = signed negative (digits ++ rest) ∧ JsonDigits digits ∧
    ValueEnds rest ∧ value = signedValue negative digits ∧ -2 ^ 31 ≤ value ∧ value ≤ 2 ^ 31 - 1

section Integers

variable {json key text digits : CString}

theorem JsonDigits.ne_nil (form : JsonDigits digits) : digits ≠ [] := by
  cases form with
  | zero => exact List.cons_ne_nil _ _
  | run => exact List.cons_ne_nil _ _

theorem JsonDigits.isDigit (form : JsonDigits digits) : ∀ c ∈ digits, c.isDigit = true := by
  cases form with
  | zero =>
      intro c member
      rw [List.mem_singleton.mp member]
      rfl
  | run digit leading all => exact List.forall_mem_cons.mpr ⟨digit, all⟩

/-- The hand check of the reader: the text goes on with the digits of an integer. -/
theorem jsonNumberStart_iff :
    jsonNumberStart text = true ↔
      ∃ digits rest, text = digits ++ rest ∧ JsonDigits digits ∧
        ∀ c ∈ rest.head?, c.isDigit = false := by
  constructor
  · intro starts
    cases text with
    | nil => cases starts
    | cons d more =>
        simp only [jsonNumberStart, Bool.and_eq_true, Bool.not_eq_true'] at starts
        obtain ⟨digit, single⟩ := starts
        by_cases zero : d = '0'
        · refine ⟨['0'], more, by rw [zero]; rfl, .zero, fun c head => ?_⟩
          rw [zero, beq_self_eq_true, Bool.true_and, Option.mem_def.mp head] at single
          exact single
        · refine ⟨d :: more.takeWhile Char.isDigit, more.dropWhile Char.isDigit, ?_,
            .run digit zero fun c member => List.mem_takeWhile_imp member,
            mem_head?_dropWhile Char.isDigit more⟩
          rw [List.cons_append, List.takeWhile_append_dropWhile]
  · rintro ⟨digits, rest, rfl, form, ends⟩
    cases form with
    | zero =>
        cases rest with
        | nil => rfl
        | cons c rest => simp [jsonNumberStart, ends c rfl]
    | run digit leading all => simp [jsonNumberStart, digit, leading]

/-- The sign the reader looks behind is that of the text. -/
theorem signed_body (negative : Bool) {body : CString}
    (unsigned : negative = false → body.head? ≠ some '-') :
    (if (signed negative body).head? = some '-' then (signed negative body).tail
      else signed negative body) = body := by
  cases negative with
  | true => rfl
  | false => exact if_neg (unsigned rfl)

theorem exists_signed (text : CString) :
    ∃ negative body, text = signed negative body ∧ (negative = false → body.head? ≠ some '-') := by
  by_cases minus : text.head? = some '-'
  · obtain ⟨rest, rfl⟩ := List.head?_eq_some_iff.mp minus
    exact ⟨true, rest, rfl, fun plain => by cases plain⟩
  · exact ⟨false, text, rfl, fun _ => minus⟩

/-- The reader accepts an integer of the grammar, in range and delimited. -/
theorem jsonIntKeyChecked_iff (found : jsonValue json key = some text) {value : Int} :
    jsonIntKeyChecked json key = some value ↔ IntForm text value := by
  rw [jsonIntKeyChecked, found, Option.bind_some]
  constructor
  · intro read
    obtain ⟨negative, body, rfl, unsigned⟩ := exists_signed text
    dsimp only at read
    rw [signed_body negative unsigned] at read
    split at read
    · cases read
    · rename_i starts
      obtain ⟨digits, rest, rfl, form, ends⟩ := jsonNumberStart_iff.mp (by simpa using starts)
      rw [strtol_run negative form.ne_nil form.isDigit ends] at read
      split at read
      · cases read
      · rename_i accepted
        simp only [Bool.or_eq_true, Bool.not_eq_true', decide_eq_true_eq, decide_eq_false_iff_not,
          not_or, not_not, Bool.not_eq_false] at accepted
        obtain ⟨⟨⟨⟨⟨low, high⟩, _⟩, lower⟩, upper⟩, ended⟩ := accepted
        have read := Option.some.inj read
        dsimp only at read
        exact ⟨negative, digits, rest, rfl, form, jsonValueEnded_iff.mp ended, by omega, by omega,
          by omega⟩
  · rintro ⟨negative, digits, rest, rfl, form, ends, same, lower, upper⟩
    have starts : jsonNumberStart (digits ++ rest) = true :=
      jsonNumberStart_iff.mpr ⟨digits, rest, rfl, form, ends.not_digit⟩
    have unsigned : negative = false → (digits ++ rest).head? ≠ some '-' := by
      intro _ head
      obtain ⟨d, more, rfl⟩ := List.exists_cons_of_ne_nil form.ne_nil
      have digit := form.isDigit d List.mem_cons_self
      rw [Option.some.inj head] at digit
      cases digit
    dsimp only
    rw [signed_body negative unsigned, starts, Bool.not_true, if_neg Bool.false_ne_true,
      strtol_run negative form.ne_nil form.isDigit ends.not_digit, ← same,
      jsonValueEnded_iff.mpr ends]
    have inLong : -2 ^ 63 ≤ value ∧ value ≤ 2 ^ 63 - 1 := by omega
    have exact' : max (-2 ^ 63) (min (2 ^ 63 - 1) value) = value := by omega
    rw [exact']
    simp
    omega

end Integers

/-! ## Booleans and strings -/

/-- A JSON boolean where a value ends behind it. -/
def BoolForm (text : CString) (value : Bool) : Prop :=
  ∃ rest, text = boolText value ++ rest ∧ ValueEnds rest

/-- A quoted string without escapes and control bytes, where a value ends behind it. -/
def StringForm (text value : CString) : Prop :=
  ∃ rest, text = quoted value ++ rest ∧ PlainText value ∧ ValueEnds rest

section Scalars

variable {json key text : CString}

/-- A word and the end of a value behind it. -/
theorem wordEnds_iff (word : CString) {size : Nat} (length : word.length = size) :
    word <+: text ∧ jsonValueEnded (text.drop size) = true ↔
      ∃ rest, text = word ++ rest ∧ ValueEnds rest := by
  constructor
  · rintro ⟨⟨rest, rfl⟩, ended⟩
    rw [← length, List.drop_left] at ended
    exact ⟨rest, rfl, jsonValueEnded_iff.mp ended⟩
  · rintro ⟨rest, rfl, ends⟩
    rw [← length, List.drop_left]
    exact ⟨List.prefix_append _ _, jsonValueEnded_iff.mpr ends⟩

theorem jsonBoolKeyChecked_iff (found : jsonValue json key = some text) {value : Bool} :
    jsonBoolKeyChecked json key = some value ↔ BoolForm text value := by
  have isTrue : _ ↔ BoolForm text true := @wordEnds_iff text "true".toList 4 rfl
  have isFalse : _ ↔ BoolForm text false := @wordEnds_iff text "false".toList 5 rfl
  have either : ¬ (BoolForm text true ∧ BoolForm text false) := by
    rintro ⟨⟨rest, rfl, _⟩, other, same, _⟩
    cases same
  rw [jsonBoolKeyChecked, found, Option.bind_some]
  by_cases first : "true".toList <+: text ∧ jsonValueEnded (text.drop 4) = true
  · have holds := isTrue.mp first
    rw [if_pos first]
    cases value with
    | true => exact ⟨fun _ => holds, fun _ => rfl⟩
    | false => exact ⟨fun read => (by cases read), fun other => absurd ⟨holds, other⟩ either⟩
  · have fails : ¬ BoolForm text true := fun holds => first (isTrue.mpr holds)
    rw [if_neg first]
    by_cases second : "false".toList <+: text ∧ jsonValueEnded (text.drop 5) = true
    · have holds := isFalse.mp second
      rw [if_pos second]
      cases value with
      | true => exact ⟨fun read => (by cases read), fun other => absurd other fails⟩
      | false => exact ⟨fun _ => holds, fun _ => rfl⟩
    · rw [if_neg second]
      refine ⟨fun read => (by cases read), fun holds => ?_⟩
      cases value with
      | true => exact absurd holds fails
      | false => exact absurd (isFalse.mpr holds) second

theorem PlainText.noQuote {value : CString} (plain : PlainText value) :
    ∀ c ∈ value, decide (c ≠ '"') = true := by
  intro c member
  have here := List.all_eq_true.mp plain c member
  simp only [isPlain, Bool.and_eq_true] at here
  exact here.1.1

/-- Between quotes the check for escapes and control bytes is that of plain text. -/
theorem plainText_iff {value : CString} (noQuote : ∀ c ∈ value, decide (c ≠ '"') = true) :
    PlainText value ↔ (value.any fun c => c == '\\' || decide (c.toNat < 32)) = false := by
  rw [PlainText, List.all_eq_true, List.any_eq_false]
  refine forall_congr' fun c => forall_congr' fun member => ?_
  have other := noQuote c member
  rw [isPlain, other, Bool.true_and]
  simp

theorem jsonStringKeyChecked_iff (found : jsonValue json key = some text) {out value : CString}
    {outLen : Nat} :
    jsonStringKeyChecked json key out outLen = (value, true) ↔
      StringForm text value ∧ value.length < outLen := by
  constructor
  · intro read
    unfold jsonStringKeyChecked at read
    rw [found] at read
    split at read
    · rename_i p string
      have stops := mem_head?_dropWhile (fun c => decide (c ≠ '"')) p
      have whole := @List.takeWhile_append_dropWhile _ (fun c => decide (c ≠ '"')) p
      have noQuote : ∀ c ∈ p.takeWhile (fun c => decide (c ≠ '"')), decide (c ≠ '"') = true := by
        intro c member
        exact @List.mem_takeWhile_imp _ _ p c member
      dsimp only at read
      cases behind : p.dropWhile fun c => decide (c ≠ '"') with
      | nil =>
          rw [behind] at read
          cases read
      | cons quote rest =>
          rw [behind] at read stops whole
          obtain rfl : quote = '"' := by simpa using stops quote rfl
          dsimp only at read
          split at read
          · cases read
          · rename_i clean
            split at read
            · cases read
            · rename_i ended
              split at read
              · cases read
              · rename_i long
                cases read
                refine ⟨⟨rest, ?_, (plainText_iff noQuote).mpr (by simpa using clean),
                  jsonValueEnded_iff.mp (by simpa using ended)⟩, lt_of_not_ge long⟩
                rw [Option.some.inj string, quoted, List.cons_append, List.append_assoc]
                exact congrArg (List.cons '"') whole.symm
    · cases read
  · rintro ⟨⟨rest, rfl, plain, ends⟩, fits⟩
    have noQuote := plain.noQuote
    have shape : quoted value ++ rest = '"' :: (value ++ '"' :: rest) := by simp [quoted]
    have taken : (value ++ '"' :: rest).takeWhile (fun c => decide (c ≠ '"')) = value := by
      rw [List.takeWhile_append_of_pos noQuote]
      simp
    have left : (value ++ '"' :: rest).dropWhile (fun c => decide (c ≠ '"')) = '"' :: rest := by
      rw [List.dropWhile_append_of_pos noQuote]
      simp
    have allowed := (plainText_iff noQuote).mp plain
    have ended := jsonValueEnded_iff.mpr ends
    rw [jsonStringKeyChecked, found, shape]
    simp only [taken, left, allowed, ended]
    simp [not_le.mpr fits]

end Scalars

/-! ## The values read back -/

section Values

variable {json key rest : CString}

/-- A printed integer is a JSON integer. -/
theorem decimal_form (value : Int) :
    ∃ negative digits, decimal value = signed negative digits ∧ JsonDigits digits ∧
      signedValue negative digits = value := by
  have form (n : Nat) : JsonDigits (Nat.toDigits 10 n) := by
    by_cases zero : n = 0
    · rw [zero]
      exact .zero
    · have head := toDigits_head (Nat.pos_of_ne_zero zero)
      have digits := toDigits_isDigit n
      cases shape : Nat.toDigits 10 n with
      | nil => exact absurd shape Nat.toDigits_ne_nil
      | cons d more =>
          rw [shape] at head digits
          obtain ⟨digit, all⟩ := List.forall_mem_cons.mp digits
          exact .run digit (fun same => head (congrArg some same)) all
  refine ⟨decide (value < 0), Nat.toDigits 10 value.natAbs, ?_, form _, ?_⟩
  · by_cases negative : value < 0
    · simp [decimal, signed, negative]
    · simp [decimal, signed, negative]
  · rw [signedValue, Nat.ofDigitChars_ten_toDigits]
    by_cases negative : value < 0
    · rw [decide_eq_true negative, if_pos rfl]
      omega
    · rw [decide_eq_false negative, if_neg Bool.false_ne_true]
      omega

/-- A printed `int` is read back. -/
theorem jsonIntKeyChecked_of_value {value : Int} (bounds : -2 ^ 31 ≤ value ∧ value ≤ 2 ^ 31 - 1)
    (ends : ValueEnds rest) (found : jsonValue json key = some (decimal value ++ rest)) :
    jsonIntKeyChecked json key = some value := by
  obtain ⟨negative, digits, printed, form, same⟩ := decimal_form value
  refine (jsonIntKeyChecked_iff found).mpr ⟨negative, digits, rest, ?_, form, ends, same.symm, bounds⟩
  rw [printed]
  cases negative with
  | true => rfl
  | false => rfl

/-- The `int` of the first item with the key. -/
theorem jsonIntKey_items (start : CString) {layout : CString} {value : Int}
    (before : List (CString × CString)) {after : List (CString × CString)} (keyText : KeyText key)
    (startFree : '"' ∉ start)
    (laidOut : ∀ item ∈ before ++ (key, ": ".toList ++ (decimal value ++ layout)) :: after,
      LaidOut item)
    (absent : ∀ item ∈ before, item.1 ≠ key) (bounds : -2 ^ 31 ≤ value ∧ value ≤ 2 ^ 31 - 1)
    (ends : ValueEnds (layout ++ jsonItems after)) (fallback : Int) :
    jsonIntKey (start ++
        jsonItems (before ++ (key, ": ".toList ++ (decimal value ++ layout)) :: after)) key
      fallback = value := by
  have solid := decimal_solid value (layout ++ jsonItems after)
  rw [← List.append_assoc] at solid
  have found := jsonValue_items start before keyText startFree laidOut absent solid
  rw [List.append_assoc] at found
  rw [jsonIntKey, jsonIntKeyChecked_of_value bounds ends found, Option.getD_some]

theorem jsonBoolKeyChecked_of_value {value : Bool}
    (found : jsonValue json key = some (boolText value ++ ',' :: rest)) :
    jsonBoolKeyChecked json key = some value :=
  (jsonBoolKeyChecked_iff found).mpr ⟨_, rfl, .delimiter (Or.inl rfl) rest⟩

theorem jsonStringKey_of_value {text out : CString} {outLen : Nat} (plain : PlainText text)
    (fits : text.length < outLen) (found : jsonValue json key = some (quoted text ++ ',' :: rest)) :
    jsonStringKey json key out outLen = text := by
  have stored : jsonStringKeyChecked json key out outLen = (text, true) :=
    (jsonStringKeyChecked_iff found).mpr
      ⟨⟨_, rfl, plain, .delimiter (Or.inl rfl) rest⟩, fits⟩
  rw [jsonStringKey, stored]

/-- A value that is no string leaves the buffer alone. -/
theorem jsonStringKey_of_noString {out : CString} {outLen : Nat} {c : Char} (noQuote : c ≠ '"')
    (found : jsonValue json key = some (c :: rest)) : jsonStringKey json key out outLen = out := by
  rw [jsonStringKey, jsonStringKeyChecked, found]
  split
  · rename_i same
    exact absurd (List.cons.inj (Option.some.inj same)).1 noQuote
  · rfl

/-- The string reader stores a plain text that fits, the string of a value text. -/
theorem jsonStringKeyChecked_stored {out : CString} {outLen : Nat}
    (read : (jsonStringKeyChecked json key out outLen).2 = true) :
    ∃ text, jsonValue json key = some text ∧
      StringForm text (jsonStringKeyChecked json key out outLen).1 ∧
        (jsonStringKeyChecked json key out outLen).1.length < outLen := by
  cases found : jsonValue json key with
  | none =>
      rw [jsonStringKeyChecked, found] at read
      cases read
  | some text =>
      have stored : jsonStringKeyChecked json key out outLen =
          ((jsonStringKeyChecked json key out outLen).1, true) := Prod.ext rfl read
      exact ⟨text, rfl, (jsonStringKeyChecked_iff found).mp stored⟩

end Values

/-! ## The readers with their outputs -/

/-- `json_int_key_checked` with its output: `*out` is stored to at the end only. -/
def jsonIntKeyCheckedOut (json key : CString) (out : Int) : Int × Bool :=
  match jsonFindKey json key with
  | none => (out, false)
  | some p =>
      match jsonAfterColon p with
      | none => (out, false)
      | some p =>
          let digits := if p.head? = some '-' then p.tail else p
          let parsed := strtol 10 p
          if !jsonNumberStart digits then (out, false)
          else if !parsed.inRange || !parsed.converted || decide (parsed.value < -2 ^ 31)
              || decide (parsed.value > 2 ^ 31 - 1) || !jsonValueEnded parsed.rest then (out, false)
          else (parsed.value, true)

def jsonBoolKeyCheckedOut (json key : CString) (out : Bool) : Bool × Bool :=
  match jsonFindKey json key with
  | none => (out, false)
  | some p =>
      match jsonAfterColon p with
      | none => (out, false)
      | some p =>
          if "true".toList <+: p ∧ jsonValueEnded (p.drop 4) = true then (true, true)
          else if "false".toList <+: p ∧ jsonValueEnded (p.drop 5) = true then (false, true)
          else (out, false)

/-- What a reader leaves in its output, by the value it accepts. -/
def storedIn {α : Type} (out : α) : Option α → α × Bool
  | none => (out, false)
  | some value => (value, true)

/-- A reader accepts the values of one form and stores them, and else keeps its output. -/
structure ReadsForm {α : Type} (reader : α → α × Bool) (form : α → Prop) : Prop where
  accepts : ∀ out value, reader out = (value, true) ↔ form value
  untouched : ∀ out, (reader out).2 = false → (reader out).1 = out

/-- The scalar readers accept exactly their forms of the key's value text. -/
structure ReadsScalars (text key : CString) : Prop where
  int : ReadsForm (jsonIntKeyCheckedOut text key) fun value =>
    ∃ found, ValueText text key found ∧ IntForm found value
  bool : ReadsForm (jsonBoolKeyCheckedOut text key) fun value =>
    ∃ found, ValueText text key found ∧ BoolForm found value
  string : ∀ out value outLen, jsonStringKeyChecked text key out outLen = (value, true) ↔
    ∃ found, ValueText text key found ∧ StringForm found value ∧ value.length < outLen

section Outputs

variable {text key : CString}

theorem jsonIntKeyCheckedOut_eq (text key : CString) (out : Int) :
    jsonIntKeyCheckedOut text key out = storedIn out (jsonIntKeyChecked text key) := by
  unfold jsonIntKeyCheckedOut jsonIntKeyChecked jsonValue
  cases jsonFindKey text key with
  | none => rfl
  | some p =>
      dsimp only [Option.bind_some]
      cases jsonAfterColon p with
      | none => rfl
      | some p =>
          dsimp only [Option.bind_some]
          generalize (if p.head? = some '-' then p.tail else p) = digits
          split
          · rfl
          · split
            · rfl
            · rfl

theorem jsonBoolKeyCheckedOut_eq (text key : CString) (out : Bool) :
    jsonBoolKeyCheckedOut text key out = storedIn out (jsonBoolKeyChecked text key) := by
  unfold jsonBoolKeyCheckedOut jsonBoolKeyChecked jsonValue
  cases jsonFindKey text key with
  | none => rfl
  | some p =>
      dsimp only [Option.bind_some]
      cases jsonAfterColon p with
      | none => rfl
      | some p =>
          dsimp only [Option.bind_some]
          split
          · rfl
          · split
            · rfl
            · rfl

/-- A checked value that has a form exactly when it is accepted is read by that form. -/
theorem ReadsForm.of_stored {α : Type} {reader : α → α × Bool} {form : α → Prop}
    {accepted : Option α} (same : ∀ out, reader out = storedIn out accepted)
    (iff : ∀ value, accepted = some value ↔ form value) : ReadsForm reader form where
  accepts := by
    intro out value
    rw [same, ← iff]
    cases accepted with
    | none => simp [storedIn]
    | some other => simp [storedIn]
  untouched := by
    intro out failed
    rw [same] at failed ⊢
    cases accepted with
    | none => rfl
    | some other => cases failed

/-- Whatever reads a value text by a form accepts exactly the texts whose value text has it. -/
theorem valueText_form (short : key.length ≤ 90) (noColon : ':' ∉ key) {accepts : Prop}
    {form : CString → Prop} (absent : jsonValue text key = none → ¬ accepts)
    (iff : ∀ found, jsonValue text key = some found → (accepts ↔ form found)) :
    accepts ↔ ∃ found, ValueText text key found ∧ form found := by
  have value (found : CString) := @jsonValue_iff text key found (by omega) noColon
  constructor
  · intro accepted
    cases found : jsonValue text key with
    | none => exact absurd accepted (absent found)
    | some v => exact ⟨v, (value v).mp found, (iff v found).mp accepted⟩
  · rintro ⟨v, reads, holds⟩
    exact (iff v ((value v).mpr reads)).mpr holds

/-- For every text and every key without a colon the readers accept exactly their forms. -/
theorem readsScalars (short : key.length ≤ 90) (noColon : ':' ∉ key) : ReadsScalars text key where
  int := by
    refine .of_stored (jsonIntKeyCheckedOut_eq text key) fun value =>
      valueText_form short noColon (fun none => ?_) fun found reads => jsonIntKeyChecked_iff reads
    simp [jsonIntKeyChecked, none]
  bool := by
    refine .of_stored (jsonBoolKeyCheckedOut_eq text key) fun value =>
      valueText_form short noColon (fun none => ?_) fun found reads => jsonBoolKeyChecked_iff reads
    simp [jsonBoolKeyChecked, none]
  string := by
    refine fun out value outLen =>
      valueText_form short noColon (fun none => ?_) fun found reads => jsonStringKeyChecked_iff reads
    simp [jsonStringKeyChecked, none]

/-- A key at the end of a status text. -/
theorem readsScalars_timeout :
    ReadsScalars "\x7b \"auto\": true, \"timeout_seconds\": 30 \x7d".toList
      "timeout_seconds".toList :=
  readsScalars (by decide) (by decide)

end Outputs

end NitroSense
