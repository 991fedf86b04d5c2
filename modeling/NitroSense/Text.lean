import Mathlib.Data.List.Basic
import Mathlib.Algebra.Ring.Int.Defs
import Mathlib.Algebra.Ring.Nat

/-!
# C strings and numerals

A C string is the list of its bytes before the terminating NUL, one character a
byte.  This file models the string helpers of `util/` and the two numeral
routines the daemon relies on, `strtol` and the `%d` and `%02x` conversions.
-/

namespace NitroSense

/-- The bytes of a C string before its terminating NUL. -/
abbrev CString := List Char

/-- The characters JSON and the command parser skip. -/
def isBlank (c : Char) : Bool := c == ' ' || c == '\t' || c == '\n' || c == '\r'

/-- `isspace` in the C locale: the blanks, vertical tab and form feed. -/
def isSpace (c : Char) : Bool := isBlank c || c.toNat == 11 || c.toNat == 12

def toLower (c : Char) : Char :=
  if 'A' ≤ c ∧ c ≤ 'Z' then Char.ofNat (c.toNat + 32) else c

/-- What fits a buffer of `outLen` bytes with its NUL, as `snprintf` leaves it. -/
def snprintf (outLen : Nat) (text : CString) : CString := text.take (outLen - 1)

/-- `string_copy` into a buffer of positive size: the copied text, and whether all of it fitted. -/
def stringCopy (outLen : Nat) (text : CString) : CString × Bool :=
  (text.take (outLen - 1), decide (text.length < outLen))

theorem stringCopy_of_lt {outLen : Nat} {text : CString} (fits : text.length < outLen) :
    stringCopy outLen text = (text, true) := by
  have all : text.take (outLen - 1) = text := List.take_of_length_le (by omega)
  simp [stringCopy, all, fits]

/-- Against a text that is shorter than the copy's room, a copy compares like the original. -/
theorem stringCopy_eq_iff {outLen : Nat} {text other : CString} (short : other.length + 1 < outLen) :
    (stringCopy outLen text).1 = other ↔ text = other := by
  constructor
  · intro same
    have cut : (text.take (outLen - 1)).length = other.length := congrArg List.length same
    rw [List.length_take] at cut
    have all : text.take (outLen - 1) = text := List.take_of_length_le (by omega)
    exact all.symm.trans same
  · rintro rfl
    rw [stringCopy_of_lt (by omega)]

/-- The comparison loop of `string_contains_case` at one start position. -/
def startsWithCase : CString → CString → Bool
  | [], _ => true
  | _ :: _, [] => false
  | n :: needle, h :: haystack => toLower h == toLower n && startsWithCase needle haystack

/-- The outer loop of `string_contains_case`, over the start positions. -/
def containsCaseFrom (needle : CString) : CString → Bool
  | [] => false
  | h :: haystack => startsWithCase needle (h :: haystack) || containsCaseFrom needle haystack

/-- `string_contains_case`: an empty needle is found even in an empty text. -/
def stringContainsCase (haystack needle : CString) : Bool :=
  needle.isEmpty || containsCaseFrom needle haystack

/-- `trim_ascii`: drop the blanks at both ends. -/
def trimAscii (text : CString) : CString :=
  ((text.dropWhile isBlank).reverse.dropWhile isBlank).reverse

/-! ## Numerals -/

/-- The value of a digit or letter as `strtol` reads it; 36 for any other byte. -/
def digitValue (c : Char) : Nat :=
  if '0' ≤ c ∧ c ≤ '9' then c.toNat - 48
  else if 'a' ≤ c ∧ c ≤ 'z' then c.toNat - 87
  else if 'A' ≤ c ∧ c ≤ 'Z' then c.toNat - 55
  else 36

/-- The number a digit sequence denotes. -/
def numeral (radix : Nat) (digits : CString) : Nat :=
  digits.foldl (fun value c => value * radix + digitValue c) 0

/-- The outcome of `strtol`: the value, the text at `end`, whether `end` moved and `errno`. -/
structure Strtol where
  value : Int
  rest : CString
  converted : Bool
  inRange : Bool
  deriving DecidableEq, Repr

/-- The sign `strtol` accepts in front of the digits. -/
def readSign : CString → Bool × CString
  | '-' :: rest => (true, rest)
  | '+' :: rest => (false, rest)
  | text => (false, text)

/-- The radix and the digits' start; base 0 takes it from a `0x` or `0` prefix. -/
def readRadix (base : Nat) (text : CString) : Nat × CString :=
  if base = 0 then
    match text with
    | '0' :: x :: d :: rest =>
        if (x = 'x' ∨ x = 'X') ∧ digitValue d < 16 then (16, d :: rest) else (8, text)
    | '0' :: _ => (8, text)
    | _ => (10, text)
  else (base, text)

/-- `strtol` for base 0 or 10 with a 64-bit `long`. -/
def strtol (base : Nat) (text : CString) : Strtol :=
  let signed := readSign (text.dropWhile isSpace)
  let radix := readRadix base signed.2
  let digits := radix.2.takeWhile fun c => digitValue c < radix.1
  let magnitude : Int := numeral radix.1 digits
  let value := if signed.1 then -magnitude else magnitude
  if digits = [] then ⟨0, text, false, true⟩
  else
    { value := max (-2 ^ 63) (min (2 ^ 63 - 1) value)
      rest := radix.2.dropWhile fun c => digitValue c < radix.1
      converted := true
      inRange := decide (-2 ^ 63 ≤ value ∧ value ≤ 2 ^ 63 - 1) }

/-- `parse_int_range`: a complete numeral inside an inclusive range. -/
def parseIntRange (text : CString) (minValue maxValue : Int) (base : Nat) : Option Int :=
  let parsed := strtol base text
  if !parsed.inRange || !parsed.converted || parsed.rest ≠ [] || parsed.value < minValue
      || parsed.value > maxValue then none
  else some parsed.value

theorem parseIntRange_bounds {text : CString} {minValue maxValue value : Int} {base : Nat}
    (parsed : parseIntRange text minValue maxValue base = some value) :
    minValue ≤ value ∧ value ≤ maxValue := by
  simp only [parseIntRange] at parsed
  split at parsed
  · cases parsed
  · rename_i accepted
    simp at accepted parsed
    omega

/-- The `%d` conversion. -/
def decimal (value : Int) : CString :=
  if value < 0 then '-' :: Nat.toDigits 10 value.natAbs else Nat.toDigits 10 value.natAbs

/-- The `%02x` conversion of a 32-bit `int`. -/
def hexByte (value : Int) : CString :=
  let digits := Nat.toDigits 16 (value % 2 ^ 32).toNat
  List.replicate (2 - digits.length) '0' ++ digits

/-! ## Printed numerals read back -/

theorem isDigit_bounds {c : Char} (digit : c.isDigit = true) : 48 ≤ c.toNat ∧ c.toNat ≤ 57 := by
  simp only [Char.isDigit, Bool.and_eq_true, decide_eq_true_eq, UInt32.le_iff_toNat_le] at digit
  exact digit

theorem digitValue_of_isDigit {c : Char} (digit : c.isDigit = true) :
    digitValue c = c.toNat - 48 := by
  obtain ⟨lower, upper⟩ := isDigit_bounds digit
  have range : '0' ≤ c ∧ c ≤ '9' := by
    simp only [Char.le_def, UInt32.le_iff_toNat_le]
    exact ⟨lower, upper⟩
  rw [digitValue, if_pos range]

theorem isDigit_of_digitValue {c : Char} (small : digitValue c < 10) : c.isDigit = true := by
  unfold digitValue at small
  split at small
  · rename_i range
    simp only [Char.le_def] at range
    simp only [Char.isDigit, Bool.and_eq_true, decide_eq_true_eq]
    exact range
  · split at small
    · rename_i range
      simp only [Char.le_def, UInt32.le_iff_toNat_le] at range
      obtain ⟨lower, _⟩ := range
      change 97 ≤ c.toNat at lower
      omega
    · split at small
      · rename_i range
        simp only [Char.le_def, UInt32.le_iff_toNat_le] at range
        obtain ⟨lower, _⟩ := range
        change 65 ≤ c.toNat at lower
        omega
      · omega

theorem toDigits_isDigit (n : Nat) : ∀ c ∈ Nat.toDigits 10 n, c.isDigit = true :=
  fun _ member => Nat.isDigit_of_mem_toDigits (by decide) (by decide) member

/-- A run of digits has the value Lean's reader gives it. -/
theorem numeral_eq_ofDigitChars {digits : CString} (all : ∀ c ∈ digits, c.isDigit = true) :
    numeral 10 digits = Nat.ofDigitChars 10 digits 0 := by
  have fold : ∀ value, digits.foldl (fun value c => value * 10 + digitValue c) value =
      Nat.ofDigitChars 10 digits value := by
    induction digits with
    | nil => exact fun _ => rfl
    | cons c digits ih =>
        intro value
        have here := digitValue_of_isDigit (all c List.mem_cons_self)
        rw [List.foldl_cons, here, ih fun d member => all d (List.mem_cons_of_mem c member),
          Nat.ofDigitChars_cons, Nat.mul_comm]
        rfl
  exact fold 0

/-- A positive numeral has no leading zero. -/
theorem toDigits_head {n : Nat} (positive : 0 < n) : (Nat.toDigits 10 n).head? ≠ some '0' := by
  induction n using Nat.strongRecOn with
  | _ n ih =>
      by_cases small : n < 10
      · rw [Nat.toDigits_of_lt_base small]
        intro zero
        have value := Nat.toNat_digitChar_of_lt_ten small
        rw [Option.some.inj zero] at value
        change 48 = 48 + n at value
        omega
      · rw [Nat.toDigits_of_base_le (by decide) (by omega)]
        have shorter := ih (n / 10) (by omega) (by omega)
        cases digits : Nat.toDigits 10 (n / 10) with
        | nil => exact absurd digits Nat.toDigits_ne_nil
        | cons d rest =>
            rw [digits] at shorter
            exact shorter

/-- White space lies below all visible characters. -/
theorem isSpace_of_gt {c : Char} (visible : 32 < c.toNat) : isSpace c = false := by
  have differs (blank : Char) (below : blank.toNat ≤ 32) : (c == blank) = false := by
    rw [beq_eq_false_iff_ne]
    intro same
    rw [same] at visible
    omega
  have tab : (c.toNat == 11) = false := by
    rw [beq_eq_false_iff_ne]
    omega
  have feed : (c.toNat == 12) = false := by
    rw [beq_eq_false_iff_ne]
    omega
  simp [isSpace, isBlank, tab, feed, differs ' ' (by decide), differs '\t' (by decide),
    differs '\n' (by decide), differs '\r' (by decide)]

theorem isSpace_of_isDigit {c : Char} (digit : c.isDigit = true) : isSpace c = false :=
  isSpace_of_gt (Nat.lt_of_lt_of_le (by decide) (isDigit_bounds digit).1)

theorem readSign_of_isDigit {c : Char} (digit : c.isDigit = true) (rest : CString) :
    readSign (c :: rest) = (false, c :: rest) := by
  unfold readSign
  split
  · rename_i same
    rw [(List.cons.inj same).1] at digit
    cases digit
  · rename_i same
    rw [(List.cons.inj same).1] at digit
    cases digit
  · rfl

theorem digitValue_lt_ten {c : Char} : digitValue c < 10 ↔ c.isDigit = true := by
  refine ⟨isDigit_of_digitValue, fun digit => ?_⟩
  have upper := (isDigit_bounds digit).2
  rw [digitValue_of_isDigit digit]
  omega

def signed (negative : Bool) (digits : CString) : CString :=
  if negative then '-' :: digits else digits

def signedValue (negative : Bool) (digits : CString) : Int :=
  let magnitude : Int := Nat.ofDigitChars 10 digits 0
  if negative then -magnitude else magnitude

/-- `strtol` reads an optional minus sign and a run of digits. -/
theorem strtol_run (negative : Bool) {digits rest : CString} (nonempty : digits ≠ [])
    (all : ∀ c ∈ digits, c.isDigit = true) (ends : ∀ c ∈ rest.head?, c.isDigit = false) :
    strtol 10 (signed negative (digits ++ rest)) =
      { value := max (-2 ^ 63) (min (2 ^ 63 - 1) (signedValue negative digits))
        rest := rest
        converted := true
        inRange := decide (-2 ^ 63 ≤ signedValue negative digits ∧
          signedValue negative digits ≤ 2 ^ 63 - 1) } := by
  have small : ∀ c ∈ digits, decide (digitValue c < 10) = true := fun c member =>
    decide_eq_true (digitValue_lt_ten.mpr (all c member))
  have big : rest.takeWhile (fun c => digitValue c < 10) = [] ∧
      rest.dropWhile (fun c => digitValue c < 10) = rest := by
    cases rest with
    | nil => exact ⟨rfl, rfl⟩
    | cons c rest =>
        have notDigit : ¬ decide (digitValue c < 10) = true := by
          rw [decide_eq_true_eq, digitValue_lt_ten, ends c rfl]
          exact Bool.false_ne_true
        rw [List.takeWhile_cons, List.dropWhile_cons, if_neg notDigit, if_neg notDigit]
        exact ⟨rfl, rfl⟩
  have taken : (digits ++ rest).takeWhile (fun c => digitValue c < 10) = digits := by
    rw [List.takeWhile_append_of_pos small, big.1, List.append_nil]
  have left : (digits ++ rest).dropWhile (fun c => digitValue c < 10) = rest := by
    rw [List.dropWhile_append_of_pos small, big.2]
  have start : readSign ((signed negative (digits ++ rest)).dropWhile isSpace) =
      (negative, digits ++ rest) := by
    cases negative with
    | true => rfl
    | false =>
        obtain ⟨d, more, rfl⟩ := List.exists_cons_of_ne_nil nonempty
        have digit := all d List.mem_cons_self
        have solid : (signed false (d :: more ++ rest)).dropWhile isSpace = d :: more ++ rest :=
          List.dropWhile_cons_of_neg (by simp [isSpace_of_isDigit digit])
        rw [solid]
        exact readSign_of_isDigit digit _
  have plain : readRadix 10 (digits ++ rest) = (10, digits ++ rest) := rfl
  unfold strtol
  dsimp only
  rw [start]
  dsimp only
  rw [plain, taken, left, if_neg nonempty, numeral_eq_ofDigitChars all]
  rfl

/-- White space in front changes nothing but the text at which a failed conversion stays. -/
theorem strtol_spaces {base : Nat} {spaces : CString} (skipped : ∀ c ∈ spaces, isSpace c = true)
    (text : CString) :
    strtol base (spaces ++ text) =
      { strtol base text with
        rest := if (strtol base text).converted then (strtol base text).rest else spaces ++ text } := by
  unfold strtol
  rw [List.dropWhile_append_of_pos skipped]
  dsimp only
  split <;> rfl

/-- Nothing is converted in front of a character that no numeral starts with. -/
theorem strtol_none {c : Char} (solid : isSpace c = false) (noSign : c ≠ '-' ∧ c ≠ '+')
    (noDigit : c.isDigit = false) (rest : CString) :
    (strtol 10 (c :: rest)).converted = false := by
  have start : (c :: rest).dropWhile isSpace = c :: rest :=
    List.dropWhile_cons_of_neg (by simp [solid])
  have unsigned : readSign (c :: rest) = (false, c :: rest) := by
    unfold readSign
    split
    · rename_i same
      exact absurd (List.cons.inj same).1 noSign.1
    · rename_i same
      exact absurd (List.cons.inj same).1 noSign.2
    · rfl
  have none : (c :: rest).takeWhile (fun c => digitValue c < 10) = [] := by
    refine List.takeWhile_cons_of_neg ?_
    rw [decide_eq_true_eq, digitValue_lt_ten, noDigit]
    exact Bool.false_ne_true
  unfold strtol
  dsimp only
  rw [start, unsigned]
  exact congrArg Strtol.converted (if_pos none)

theorem readSign_suffix (text : CString) : (readSign text).2 <:+ text := by
  unfold readSign
  split
  · exact List.suffix_cons _ _
  · exact List.suffix_cons _ _
  · exact List.suffix_refl text

/-- A conversion reads at least one character. -/
theorem strtol_rest_lt {text : CString} (converted : (strtol 10 text).converted = true) :
    (strtol 10 text).rest.length < text.length := by
  have skipped : text.dropWhile isSpace <:+ text := List.dropWhile_suffix isSpace
  have suffix := ((readSign_suffix (text.dropWhile isSpace)).trans skipped).length_le
  have plain : readRadix 10 (readSign (text.dropWhile isSpace)).2 =
      (10, (readSign (text.dropWhile isSpace)).2) := rfl
  unfold strtol at converted ⊢
  dsimp only at converted ⊢
  rw [plain] at converted ⊢
  generalize readSign (text.dropWhile isSpace) = signed at suffix converted ⊢
  dsimp only at converted ⊢
  split at converted
  · cases converted
  · rename_i some
    have whole : signed.2.takeWhile (fun c => digitValue c < 10) ++
        signed.2.dropWhile (fun c => digitValue c < 10) = signed.2 :=
      List.takeWhile_append_dropWhile
    have lengths := congrArg List.length whole
    have read := List.length_pos_iff.mpr some
    rw [List.length_append] at lengths
    rw [if_neg some]
    dsimp only
    omega

theorem mem_decimal {value : Int} {c : Char} (member : c ∈ decimal value) :
    c = '-' ∨ c.isDigit = true := by
  unfold decimal at member
  split at member
  · rcases List.mem_cons.mp member with sign | digit
    · exact Or.inl sign
    · exact Or.inr (toDigits_isDigit _ c digit)
  · exact Or.inr (toDigits_isDigit _ c member)

/-- No blank stands in front of a printed numeral. -/
theorem decimal_solid (value : Int) (rest : CString) :
    (decimal value ++ rest).dropWhile isBlank = decimal value ++ rest := by
  cases shape : decimal value with
  | nil =>
      unfold decimal at shape
      split at shape
      · cases shape
      · exact absurd shape Nat.toDigits_ne_nil
  | cons c more =>
      have solid : isBlank c = false := by
        rcases mem_decimal (shape ▸ List.mem_cons_self : c ∈ decimal value) with rfl | digit
        · decide
        · have space := isSpace_of_isDigit digit
          simp only [isSpace, Bool.or_eq_false_iff] at space
          exact space.1.1
      rw [List.cons_append, List.dropWhile_cons, if_neg (by simp [solid])]

theorem decimal_length_le {value : Int} {digits : Nat} (positive : 0 < digits)
    (small : value.natAbs < 10 ^ digits) : (decimal value).length ≤ digits + 1 := by
  have magnitude := (Nat.length_toDigits_le_iff (by decide) positive).mpr small
  unfold decimal
  split
  · rw [List.length_cons]
    omega
  · omega

end NitroSense
