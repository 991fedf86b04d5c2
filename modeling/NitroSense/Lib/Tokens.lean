import Mathlib.Data.List.TakeWhile

/-!
# Tokens of a text

The tokens of a text are its maximal runs of elements that are no separators.
A scanner that skips separators and takes elements up to the next one reads
them one by one.
-/

namespace NitroSense.Lib

variable {α : Type*} {sep : α → Bool}

/-- The maximal runs of elements that are no separators. -/
def tokens (sep : α → Bool) (text : List α) : List (List α) :=
  (text.splitOnP sep).filter fun run => !run.isEmpty

@[simp] theorem tokens_nil (sep : α → Bool) : tokens sep [] = [] := rfl

theorem tokens_sep_cons {c : α} (separates : sep c = true) (text : List α) :
    tokens sep (c :: text) = tokens sep text := by
  have split : (c :: text).splitOnP sep = [] :: text.splitOnP sep :=
    List.splitOnP_append_cons [] text separates
  rw [tokens, split]
  rfl

/-- Leading separators do not count. -/
theorem tokens_dropWhile (text : List α) : tokens sep (text.dropWhile sep) = tokens sep text := by
  induction text with
  | nil => rfl
  | cons c text ih =>
      cases separates : sep c with
      | true => rw [List.dropWhile_cons_of_pos separates, ih, tokens_sep_cons separates]
      | false => rw [List.dropWhile_cons_of_neg (by simp [separates])]

/-- A run of elements that are no separators, up to a separator or the end, is a token. -/
theorem tokens_run {run rest : List α} (nonempty : run ≠ []) (solid : ∀ c ∈ run, sep c = false)
    (ends : ∀ c ∈ rest.head?, sep c = true) :
    tokens sep (run ++ rest) = run :: tokens sep rest := by
  cases rest with
  | nil =>
      rw [List.append_nil, tokens, List.splitOnP_eq_singleton solid]
      simp [nonempty]
  | cons c rest =>
      have separates := ends c rfl
      rw [tokens, List.splitOnP_append_cons_of_forall_mem solid c separates,
        tokens_sep_cons separates, tokens]
      simp [nonempty]

/-- The element in front of which a run stops is no part of it. -/
theorem mem_head?_dropWhile (p : α → Bool) (text : List α) :
    ∀ c ∈ (text.dropWhile p).head?, p c = false := by
  intro c head
  have stopped := List.head?_dropWhile_not p text
  rw [head] at stopped
  exact stopped

/-- The scanner: without anything behind the separators there is no token, else it reads one. -/
theorem tokens_scan (text : List α) :
    (text.dropWhile sep).takeWhile (fun c => !sep c) = [] ∧ tokens sep text = [] ∨
      (text.dropWhile sep).takeWhile (fun c => !sep c) ≠ [] ∧
        tokens sep text = (text.dropWhile sep).takeWhile (fun c => !sep c) ::
          tokens sep ((text.dropWhile sep).dropWhile fun c => !sep c) := by
  have start := mem_head?_dropWhile sep text
  rw [← @tokens_dropWhile _ sep text]
  generalize text.dropWhile sep = behind at start
  cases behind with
  | nil => exact Or.inl ⟨rfl, rfl⟩
  | cons c rest =>
      have solid : sep c = false := start c rfl
      have taken : (c :: rest).takeWhile (fun c => !sep c) ≠ [] := by
        rw [List.takeWhile_cons_of_pos (by simp [solid])]
        exact List.cons_ne_nil c _
      refine Or.inr ⟨taken, ?_⟩
      have whole : (c :: rest).takeWhile (fun c => !sep c) ++
          (c :: rest).dropWhile (fun c => !sep c) = c :: rest := List.takeWhile_append_dropWhile
      have behind := tokens_run taken
        (fun d member => by simpa using List.mem_takeWhile_imp member)
        (fun d member => by simpa using mem_head?_dropWhile (fun c => !sep c) (c :: rest) d member)
      rw [whole] at behind
      exact behind

/-- A text has no token exactly when it consists of separators. -/
theorem tokens_eq_nil_iff (text : List α) : tokens sep text = [] ↔ text.dropWhile sep = [] := by
  constructor
  · intro none
    rcases tokens_scan text with ⟨nothing, -⟩ | ⟨-, some⟩
    · have start := mem_head?_dropWhile sep text
      cases behind : text.dropWhile sep with
      | nil => rfl
      | cons c rest =>
          rw [behind] at nothing start
          have solid : sep c = false := start c rfl
          rw [List.takeWhile_cons_of_pos (by simp [solid])] at nothing
          exact absurd nothing (List.cons_ne_nil c _)
    · rw [none] at some
      exact absurd some.symm (List.cons_ne_nil _ _)
  · intro nothing
    rw [← tokens_dropWhile, nothing, tokens_nil]

/-- The first token of a text, between separators and the tokens behind it. -/
theorem tokens_first {text : List α} (some : tokens sep text ≠ []) :
    ∃ blanks run rest, text = blanks ++ (run ++ rest) ∧ (∀ c ∈ blanks, sep c = true) ∧ run ≠ [] ∧
      (∀ c ∈ rest.head?, sep c = true) ∧ tokens sep text = run :: tokens sep rest := by
  rcases tokens_scan text with ⟨-, none⟩ | ⟨nonempty, first⟩
  · exact absurd none some
  · refine ⟨text.takeWhile sep, _, _, ?_, fun c member => List.mem_takeWhile_imp member, nonempty,
      fun c head => ?_, first⟩
    · rw [List.takeWhile_append_dropWhile, List.takeWhile_append_dropWhile]
    · have stopped := mem_head?_dropWhile (fun c => !sep c) (text.dropWhile sep) c head
      simpa using stopped

end NitroSense.Lib
