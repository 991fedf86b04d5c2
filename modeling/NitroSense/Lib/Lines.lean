import NitroSense.Lib.Tokens

/-!
# Lines of a text

A line ends with a delimiter or with the text; behind the last delimiter there
is a line only when something is left.
-/

namespace NitroSense.Lib

variable {α : Type*} [DecidableEq α]

/-- The lines of a text, without their delimiters. -/
def lines (d : α) : List α → List (List α)
  | [] => []
  | c :: text =>
      if c = d then [] :: lines d text
      else
        match lines d text with
        | [] => [[c]]
        | line :: rest => (c :: line) :: rest

section Lines

variable {d : α}

/-- A line up to its delimiter. -/
theorem lines_append {line : List α} (free : d ∉ line) (rest : List α) :
    lines d (line ++ d :: rest) = line :: lines d rest := by
  induction line with
  | nil => exact if_pos rfl
  | cons c line ih =>
      rw [List.mem_cons, not_or] at free
      rw [List.cons_append, lines, if_neg (Ne.symm free.1), ih free.2]

/-- A last line without a delimiter. -/
theorem lines_last {line : List α} (free : d ∉ line) (nonempty : line ≠ []) :
    lines d line = [line] := by
  induction line with
  | nil => exact absurd rfl nonempty
  | cons c line ih =>
      rw [List.mem_cons, not_or] at free
      rw [lines, if_neg (Ne.symm free.1)]
      cases line with
      | nil => rfl
      | cons next line => rw [ih free.2 (List.cons_ne_nil next line)]

theorem takeWhile_free (text : List α) : d ∉ text.takeWhile (· != d) := by
  intro member
  have kept := List.mem_takeWhile_imp member
  simp at kept

/-- A scanner takes the elements up to the next delimiter, and goes on behind it. -/
theorem lines_scan {text : List α} (nonempty : text ≠ []) :
    lines d text =
      text.takeWhile (· != d) :: lines d ((text.dropWhile (· != d)).drop 1) := by
  have whole : text.takeWhile (· != d) ++ text.dropWhile (· != d) = text :=
    List.takeWhile_append_dropWhile
  have free : d ∉ text.takeWhile (· != d) := takeWhile_free text
  cases behind : text.dropWhile (· != d) with
  | nil =>
      rw [behind, List.append_nil] at whole
      rw [whole] at free ⊢
      exact lines_last free nonempty
  | cons c rest =>
      have stopped := mem_head?_dropWhile (· != d) text c (by rw [behind]; rfl)
      have same : c = d := by simpa using stopped
      rw [behind, same] at whole
      have first := lines_append free rest
      rw [whole] at first
      exact first

end Lines

end NitroSense.Lib
