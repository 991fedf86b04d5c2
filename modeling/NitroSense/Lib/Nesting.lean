import Mathlib.Data.List.Count

/-!
# Counting brackets

A scan that counts opening and closing brackets ends where the count returns to
zero for the first time.  That is the end of a nested text exactly when the
text keeps the count positive up to there.
-/

namespace NitroSense.Lib

variable {α : Type*} [DecidableEq α] {opening closing : α}

/-- The text up to the bracket that closes the last of `depth` open ones, and the text behind it. -/
def untilClosed (opening closing : α) : (depth : Nat) → List α → Option (List α × List α)
  | _, [] => none
  | depth, c :: rest =>
      if c = opening then
        (untilClosed opening closing (depth + 1) rest).map fun cut => (c :: cut.1, cut.2)
      else if c = closing then
        if depth - 1 = 0 then some ([], rest)
        else (untilClosed opening closing (depth - 1) rest).map fun cut => (c :: cut.1, cut.2)
      else (untilClosed opening closing depth rest).map fun cut => (c :: cut.1, cut.2)

/-- Behind `depth` open brackets the text keeps some open, and one at its end. -/
structure KeepsOpen (opening closing : α) (depth : Nat) (text : List α) : Prop where
  open_ : ∀ start, start <+: text → start.count closing < depth + start.count opening
  last : depth + text.count opening = text.count closing + 1

/-- The text between two matching brackets. -/
def Nested (opening closing : α) (text : List α) : Prop := KeepsOpen opening closing 1 text

theorem KeepsOpen.tail {depth next : Nat} {c : α} {text : List α}
    (keeps : KeepsOpen opening closing depth (c :: text))
    (moves : next + [c].count closing = depth + [c].count opening) :
    KeepsOpen opening closing next text := by
  constructor
  · intro start isPrefix
    have here := keeps.open_ (c :: start) (List.cons_prefix_cons.mpr ⟨rfl, isPrefix⟩)
    rw [List.count_cons, List.count_cons] at here
    rw [List.count_singleton, List.count_singleton] at moves
    omega
  · have last := keeps.last
    rw [List.count_cons, List.count_cons] at last
    rw [List.count_singleton, List.count_singleton] at moves
    omega

theorem KeepsOpen.cons {depth next : Nat} {c : α} {text : List α}
    (keeps : KeepsOpen opening closing next text) (positive : 0 < depth)
    (moves : next + [c].count closing = depth + [c].count opening) :
    KeepsOpen opening closing depth (c :: text) := by
  rw [List.count_singleton, List.count_singleton] at moves
  constructor
  · intro start isPrefix
    cases start with
    | nil => simpa using positive
    | cons d start =>
        obtain ⟨rfl, startPrefix⟩ := List.cons_prefix_cons.mp isPrefix
        have here := keeps.open_ start startPrefix
        rw [List.count_cons, List.count_cons]
        omega
  · have last := keeps.last
    rw [List.count_cons, List.count_cons]
    omega

/-- The scan ends at the bracket behind a text that keeps brackets open. -/
theorem untilClosed_append {depth : Nat} {text rest : List α} (differ : opening ≠ closing)
    (keeps : KeepsOpen opening closing depth text) :
    untilClosed opening closing depth (text ++ closing :: rest) = some (text, rest) := by
  induction text generalizing depth with
  | nil =>
      have last := keeps.last
      simp only [List.count_nil] at last
      rw [List.nil_append, untilClosed, if_neg (Ne.symm differ), if_pos rfl, if_pos (by omega)]
  | cons c text ih =>
      have first := keeps.open_ [c] (List.cons_prefix_cons.mpr ⟨rfl, List.nil_prefix⟩)
      rw [List.cons_append, untilClosed]
      by_cases isOpening : c = opening
      · have later : KeepsOpen opening closing (depth + 1) text :=
          keeps.tail (by simp [isOpening, differ])
        rw [if_pos isOpening, ih later]
        rfl
      · by_cases isClosing : c = closing
        · have deep : 1 < depth := by
            simpa [isClosing, Ne.symm differ] using first
          have later : KeepsOpen opening closing (depth - 1) text :=
            keeps.tail (by simp [isClosing, Ne.symm differ]; omega)
          rw [if_neg isOpening, if_pos isClosing, if_neg (by omega), ih later]
          rfl
        · have later : KeepsOpen opening closing depth text :=
            keeps.tail (by simp [isOpening, isClosing])
          rw [if_neg isOpening, if_neg isClosing, ih later]
          rfl

/-- Where the scan ends at that bracket, the text has kept brackets open. -/
theorem keepsOpen_of_untilClosed {depth : Nat} {text rest : List α} (differ : opening ≠ closing)
    (positive : 0 < depth)
    (ends : untilClosed opening closing depth (text ++ closing :: rest) = some (text, rest)) :
    KeepsOpen opening closing depth text := by
  induction text generalizing depth with
  | nil =>
      rw [List.nil_append, untilClosed, if_neg (Ne.symm differ), if_pos rfl] at ends
      by_cases last : depth - 1 = 0
      · refine ⟨fun start isPrefix => ?_, by simp only [List.count_nil]; omega⟩
        rw [List.prefix_nil.mp isPrefix]
        simpa using positive
      · rw [if_neg last] at ends
        obtain ⟨cut, _, same⟩ := Option.map_eq_some_iff.mp ends
        cases same
  | cons c text ih =>
      rw [List.cons_append, untilClosed] at ends
      by_cases isOpening : c = opening
      · rw [if_pos isOpening] at ends
        obtain ⟨cut, found, same⟩ := Option.map_eq_some_iff.mp ends
        cases same
        exact (ih (Nat.succ_pos depth) found).cons positive (by simp [isOpening, differ])
      · rw [if_neg isOpening] at ends
        by_cases isClosing : c = closing
        · rw [if_pos isClosing] at ends
          by_cases last : depth - 1 = 0
          · rw [if_pos last] at ends
            cases ends
          · rw [if_neg last] at ends
            obtain ⟨cut, found, same⟩ := Option.map_eq_some_iff.mp ends
            cases same
            exact (ih (by omega) found).cons positive
              (by simp [isClosing, Ne.symm differ]; omega)
        · rw [if_neg isClosing] at ends
          obtain ⟨cut, found, same⟩ := Option.map_eq_some_iff.mp ends
          cases same
          exact (ih positive found).cons positive (by simp [isOpening, isClosing])

/-- A text is nested exactly where the scan ends at the bracket behind it. -/
theorem nested_iff {text : List α} (differ : opening ≠ closing) :
    Nested opening closing text ↔
      untilClosed opening closing 1 (text ++ [closing]) = some (text, []) :=
  ⟨fun nested => untilClosed_append differ nested,
    fun ends => keepsOpen_of_untilClosed differ Nat.one_pos ends⟩

end NitroSense.Lib
