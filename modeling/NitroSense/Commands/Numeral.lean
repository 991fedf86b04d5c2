import Mathlib.Data.List.TakeWhile
import NitroSense.Text

/-!
# Complete numerals

`parse_int_range` accepts a text that `strtol` reads to its end.  What `strtol`
reads is given here as a grammar: white space, a sign, and digits whose radix
base 0 takes from their prefix.
-/

namespace NitroSense

/-- Digits in a base, with the number they denote. -/
inductive BaseDigits : Nat → CString → Nat → Prop where
  | decimal {digits : CString} (nonempty : digits ≠ [])
      (small : ∀ c ∈ digits, digitValue c < 10) : BaseDigits 10 digits (numeral 10 digits)
  | plain {first : Char} {digits : CString} (leading : first ≠ '0')
      (small : ∀ c ∈ first :: digits, digitValue c < 10) :
      BaseDigits 0 (first :: digits) (numeral 10 (first :: digits))
  | octal {digits : CString} (small : ∀ c ∈ digits, digitValue c < 8) :
      BaseDigits 0 ('0' :: digits) (numeral 8 ('0' :: digits))
  | hex {x : Char} {digits : CString} (marker : x = 'x' ∨ x = 'X') (nonempty : digits ≠ [])
      (small : ∀ c ∈ digits, digitValue c < 16) :
      BaseDigits 0 ('0' :: x :: digits) (numeral 16 digits)

/-- A complete numeral of `strtol` in a base, with its value. -/
inductive CompleteNumeral (base : Nat) : CString → Int → Prop where
  | unsigned {spaces digits : CString} {magnitude : Nat}
      (skipped : ∀ c ∈ spaces, isSpace c = true) (read : BaseDigits base digits magnitude) :
      CompleteNumeral base (spaces ++ digits) magnitude
  | plus {spaces digits : CString} {magnitude : Nat}
      (skipped : ∀ c ∈ spaces, isSpace c = true) (read : BaseDigits base digits magnitude) :
      CompleteNumeral base (spaces ++ '+' :: digits) magnitude
  | minus {spaces digits : CString} {magnitude : Nat}
      (skipped : ∀ c ∈ spaces, isSpace c = true) (read : BaseDigits base digits magnitude) :
      CompleteNumeral base (spaces ++ '-' :: digits) (-magnitude)

section Digits

variable {base magnitude : Nat} {text digits : CString}

/-- A numeral starts with a decimal digit. -/
theorem BaseDigits.head (read : BaseDigits base digits magnitude) :
    ∃ first rest, digits = first :: rest ∧ first.isDigit = true := by
  cases read with
  | decimal nonempty small =>
      obtain ⟨first, rest, rfl⟩ := List.exists_cons_of_ne_nil nonempty
      exact ⟨first, rest, rfl, isDigit_of_digitValue (small first List.mem_cons_self)⟩
  | plain leading small =>
      exact ⟨_, _, rfl, isDigit_of_digitValue (small _ List.mem_cons_self)⟩
  | octal small => exact ⟨_, _, rfl, rfl⟩
  | hex marker nonempty small => exact ⟨_, _, rfl, rfl⟩

theorem readRadix_plain {first : Char} (leading : first ≠ '0') (rest : CString) :
    readRadix 0 (first :: rest) = (10, first :: rest) := by
  unfold readRadix
  rw [if_pos rfl]
  split
  · rename_i same
    exact absurd (List.cons.inj same).1 leading
  · rename_i same
    exact absurd (List.cons.inj same).1 leading
  · rfl

theorem readRadix_marked (x d : Char) (rest : CString) :
    readRadix 0 ('0' :: x :: d :: rest) =
      if (x = 'x' ∨ x = 'X') ∧ digitValue d < 16 then (16, d :: rest)
      else (8, '0' :: x :: d :: rest) := rfl

/-- Behind a zero, octal digits are read as such. -/
theorem readRadix_octal (small : ∀ c ∈ digits, digitValue c < 8) :
    readRadix 0 ('0' :: digits) = (8, '0' :: digits) := by
  match digits, small with
  | [], _ => rfl
  | [x], _ => rfl
  | x :: d :: rest, small =>
      rw [readRadix_marked, if_neg]
      rintro ⟨rfl | rfl, -⟩
      · exact absurd (small 'x' List.mem_cons_self) (by decide)
      · exact absurd (small 'X' List.mem_cons_self) (by decide)

/-- Digits that are read to the end in the radix that `strtol` picks. -/
structure ReadsDigits (base : Nat) (text : CString) (magnitude : Nat) : Prop where
  nonempty : (readRadix base text).2 ≠ []
  small : ∀ c ∈ (readRadix base text).2, digitValue c < (readRadix base text).1
  value : magnitude = numeral (readRadix base text).1 (readRadix base text).2

theorem BaseDigits.reads (read : BaseDigits base digits magnitude) :
    ReadsDigits base digits magnitude := by
  cases read with
  | decimal nonempty small => exact ⟨nonempty, small, rfl⟩
  | plain leading small =>
      have radix := readRadix_plain leading
      exact ⟨by rw [radix]; exact List.cons_ne_nil _ _, by rw [radix]; exact small, by rw [radix]⟩
  | octal small =>
      have radix := readRadix_octal small
      refine ⟨by rw [radix]; exact List.cons_ne_nil _ _, ?_, by rw [radix]⟩
      rw [radix]
      intro c member
      rcases List.mem_cons.mp member with rfl | later
      · exact show digitValue '0' < 8 by decide
      · exact small c later
  | @hex x rest marker nonempty small =>
      obtain ⟨d, more, rfl⟩ := List.exists_cons_of_ne_nil nonempty
      have radix : readRadix 0 ('0' :: x :: d :: more) = (16, d :: more) := by
        rw [readRadix_marked, if_pos ⟨marker, small d List.mem_cons_self⟩]
      exact ⟨by rw [radix]; exact nonempty, by rw [radix]; exact small, by rw [radix]⟩

theorem ReadsDigits.baseDigits (known : base = 10 ∨ base = 0)
    (reads : ReadsDigits base text magnitude) : BaseDigits base text magnitude := by
  obtain ⟨nonempty, small, rfl⟩ := reads
  rcases known with rfl | rfl
  · exact .decimal nonempty small
  · match text, nonempty, small with
    | [], nonempty, _ => exact absurd rfl nonempty
    | first :: rest, nonempty, small =>
        by_cases leading : first = '0'
        · subst leading
          match rest, nonempty, small with
          | [], _, _ => exact .octal nofun
          | [x], _, small => exact .octal fun c member => small c (List.mem_cons_of_mem _ member)
          | x :: d :: more, nonempty, small =>
              rw [readRadix_marked] at nonempty small ⊢
              split at small
              · rename_i marked
                rw [if_pos marked]
                exact .hex marked.1 (List.cons_ne_nil d more) small
              · rename_i unmarked
                rw [if_neg unmarked]
                exact .octal fun c member => small c (List.mem_cons_of_mem _ member)
        · rw [readRadix_plain leading] at small ⊢
          exact .plain leading small

end Digits

def signedMagnitude (negative : Bool) (magnitude : Nat) : Int :=
  if negative then -(magnitude : Int) else magnitude

section Numeral

variable {base : Nat} {text : CString} {value : Int}

/-- The sign and the digits that `strtol` finds behind the white space. -/
theorem completeNumeral_iff :
    CompleteNumeral base text value ↔
      ∃ magnitude, BaseDigits base (readSign (text.dropWhile isSpace)).2 magnitude ∧
        value = signedMagnitude (readSign (text.dropWhile isSpace)).1 magnitude := by
  have skip {spaces rest : CString} {c : Char} (skipped : ∀ c ∈ spaces, isSpace c = true)
      (solid : isSpace c = false) : (spaces ++ c :: rest).dropWhile isSpace = c :: rest := by
    rw [List.dropWhile_append_of_pos skipped, List.dropWhile_cons_of_neg (by simp [solid])]
  constructor
  · rintro (⟨skipped, read⟩ | ⟨skipped, read⟩ | ⟨skipped, read⟩)
    · obtain ⟨first, rest, rfl, digit⟩ := read.head
      rw [skip skipped (isSpace_of_isDigit digit), readSign_of_isDigit digit]
      exact ⟨_, read, rfl⟩
    · rw [skip skipped (by decide)]
      exact ⟨_, read, rfl⟩
    · rw [skip skipped (by decide)]
      exact ⟨_, read, rfl⟩
  · rintro ⟨magnitude, read, rfl⟩
    have skipped : ∀ c ∈ text.takeWhile isSpace, isSpace c = true :=
      fun c member => List.mem_takeWhile_imp member
    have whole : text.takeWhile isSpace ++ text.dropWhile isSpace = text :=
      List.takeWhile_append_dropWhile
    generalize text.dropWhile isSpace = behind at read whole ⊢
    generalize text.takeWhile isSpace = spaces at skipped whole
    subst whole
    unfold readSign at read ⊢
    split at read
    · exact .minus skipped read
    · exact .plus skipped read
    · exact .unsigned skipped read

/-- `strtol` converts a complete numeral. -/
theorem strtol_of_reads {magnitude : Nat}
    (reads : ReadsDigits base (readSign (text.dropWhile isSpace)).2 magnitude) :
    strtol base text =
      let value := signedMagnitude (readSign (text.dropWhile isSpace)).1 magnitude
      { value := max (-2 ^ 63) (min (2 ^ 63 - 1) value)
        rest := []
        converted := true
        inRange := decide (-2 ^ 63 ≤ value ∧ value ≤ 2 ^ 63 - 1) } := by
  obtain ⟨nonempty, small, rfl⟩ := reads
  unfold strtol
  generalize readSign (text.dropWhile isSpace) = signed at nonempty small ⊢
  dsimp only
  generalize readRadix base signed.2 = radix at nonempty small ⊢
  have taken : radix.2.takeWhile (fun c => decide (digitValue c < radix.1)) = radix.2 :=
    List.takeWhile_eq_self_iff.mpr fun c member => decide_eq_true (small c member)
  have left : radix.2.dropWhile (fun c => decide (digitValue c < radix.1)) = [] :=
    List.dropWhile_eq_nil_iff.mpr fun c member => decide_eq_true (small c member)
  rw [taken, left, if_neg nonempty]
  rfl

/-- What `strtol` converts to the end is a complete numeral. -/
theorem reads_of_strtol (converted : (strtol base text).converted = true)
    (complete : (strtol base text).rest = []) :
    ∃ magnitude, ReadsDigits base (readSign (text.dropWhile isSpace)).2 magnitude := by
  unfold strtol at converted complete
  dsimp only at converted complete
  split at converted
  · cases converted
  · rename_i nonempty
    rw [if_neg nonempty] at complete
    refine ⟨_, fun empty => nonempty (by rw [empty]; rfl), fun c member => ?_, rfl⟩
    simpa using List.dropWhile_eq_nil_iff.mp complete c member

theorem parseIntRange_eq_some {minValue maxValue : Int} :
    parseIntRange text minValue maxValue base = some value ↔
      (strtol base text).inRange = true ∧ (strtol base text).converted = true ∧
        (strtol base text).rest = [] ∧ (strtol base text).value = value ∧
          minValue ≤ value ∧ value ≤ maxValue := by
  unfold parseIntRange
  dsimp only
  split
  · rename_i refused
    simp only [Bool.or_eq_true, Bool.not_eq_true', decide_eq_true_eq] at refused
    constructor
    · intro none
      cases none
    · rintro ⟨inRange, converted, complete, rfl, low, high⟩
      rcases refused with (((far | unread) | left) | under) | beyond
      · rw [inRange] at far
        cases far
      · rw [converted] at unread
        cases unread
      · exact absurd complete left
      · omega
      · omega
  · rename_i accepted
    simp only [Bool.or_eq_true, Bool.not_eq_true', decide_eq_true_eq, not_or, not_not,
      Bool.not_eq_false] at accepted
    obtain ⟨⟨⟨⟨inRange, converted⟩, complete⟩, above⟩, below⟩ := accepted
    constructor
    · intro same
      cases same
      exact ⟨inRange, converted, complete, rfl, by omega, by omega⟩
    · rintro ⟨-, -, -, rfl, -, -⟩
      rfl

/-- `parse_int_range` accepts the complete numerals in its range. -/
theorem parseIntRange_iff (known : base = 10 ∨ base = 0) {minValue maxValue : Int}
    (low : -2 ^ 63 ≤ minValue) (high : maxValue ≤ 2 ^ 63 - 1) :
    parseIntRange text minValue maxValue base = some value ↔
      CompleteNumeral base text value ∧ minValue ≤ value ∧ value ≤ maxValue := by
  rw [parseIntRange_eq_some, completeNumeral_iff]
  constructor
  · rintro ⟨inRange, converted, complete, same, above, below⟩
    obtain ⟨magnitude, reads⟩ := reads_of_strtol converted complete
    rw [strtol_of_reads reads] at inRange same
    have bounds := of_decide_eq_true inRange
    refine ⟨⟨magnitude, reads.baseDigits known, ?_⟩, above, below⟩
    change max (-2 ^ 63) (min (2 ^ 63 - 1) (signedMagnitude _ magnitude)) = value at same
    omega
  · rintro ⟨⟨magnitude, read, same⟩, above, below⟩
    rw [strtol_of_reads read.reads, ← same]
    refine ⟨decide_eq_true ⟨by omega, by omega⟩, rfl, rfl, ?_, above, below⟩
    change max (-2 ^ 63) (min (2 ^ 63 - 1) value) = value
    omega

end Numeral

end NitroSense
