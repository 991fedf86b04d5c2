import Mathlib.Data.List.Basic

/-!
# Pieces between delimiters

A delimiter that opens and closes a piece cuts a text into pieces and what
stands between them.  The pieces are every other segment of the split text,
as far as a closing delimiter follows.
-/

namespace NitroSense.Lib

variable {α : Type*}

/-- Every other segment, the first one included, that has another one behind it. -/
def enclosed : List (List α) → List (List α)
  | piece :: _ :: rest => piece :: enclosed rest
  | _ => []

variable [DecidableEq α] {d : α}

/-- The pieces between a delimiter and the next one. -/
def pieces (d : α) (text : List α) : List (List α) := enclosed (text.splitOn d).tail

/-- A text has no delimiter, or it is cut at the first one. -/
theorem cut_cases (d : α) (text : List α) :
    (d ∉ text ∧ text.dropWhile (· ≠ d) = []) ∨
      ∃ rest, text.dropWhile (· ≠ d) = d :: rest ∧ d ∉ text.takeWhile (· ≠ d) ∧
        text = text.takeWhile (· ≠ d) ++ d :: rest := by
  induction text with
  | nil => exact Or.inl ⟨nofun, rfl⟩
  | cons c text ih =>
      by_cases here : c = d
      · refine Or.inr ⟨text, ?_, ?_, ?_⟩ <;> simp [here]
      · rw [List.takeWhile_cons_of_pos (by simpa using here),
          List.dropWhile_cons_of_pos (by simpa using here)]
        rcases ih with ⟨free, none⟩ | ⟨rest, found, free, whole⟩
        · exact Or.inl ⟨List.not_mem_cons_of_ne_of_not_mem (Ne.symm here) free, none⟩
        · exact Or.inr ⟨rest, found, List.not_mem_cons_of_ne_of_not_mem (Ne.symm here) free,
            congrArg (c :: ·) whole⟩

theorem beq_false_of_free {text : List α} (free : d ∉ text) : ∀ c ∈ text, (c == d) = false :=
  fun _ member => beq_eq_false_iff_ne.mpr fun same => free (same ▸ member)

theorem splitOn_free {text : List α} (free : d ∉ text) : text.splitOn d = [text] := by
  rw [List.splitOn_eq_splitOnP]
  exact List.splitOnP_eq_singleton (beq_false_of_free free)

theorem splitOn_first {text : List α} (free : d ∉ text) (rest : List α) :
    (text ++ d :: rest).splitOn d = text :: rest.splitOn d := by
  rw [List.splitOn_eq_splitOnP, List.splitOn_eq_splitOnP]
  exact List.splitOnP_append_cons_of_forall_mem (beq_false_of_free free) d
    (beq_self_eq_true d) rest

/-- A text without the delimiter has no piece. -/
theorem pieces_free {gap : List α} (free : d ∉ gap) : pieces d gap = [] := by
  rw [pieces, splitOn_free free]
  rfl

/-- A delimiter that nothing closes opens no piece. -/
theorem pieces_open {gap piece : List α} (gapFree : d ∉ gap) (free : d ∉ piece) :
    pieces d (gap ++ d :: piece) = [] := by
  rw [pieces, splitOn_first gapFree, splitOn_free free]
  rfl

/-- A piece that is closed is the first one. -/
theorem pieces_closed {gap piece : List α} (gapFree : d ∉ gap) (free : d ∉ piece)
    (rest : List α) : pieces d (gap ++ d :: (piece ++ d :: rest)) = piece :: pieces d rest := by
  rw [pieces, splitOn_first gapFree, splitOn_first free, pieces]
  obtain ⟨next, others, shape⟩ := List.exists_cons_of_ne_nil
    (List.splitOnP_ne_nil (· == d) rest)
  rw [List.splitOn_eq_splitOnP, shape]
  rfl

end NitroSense.Lib
