import Mathlib.Data.List.TakeWhile

/-!
# Absolute paths

A path of names with a separator in front of each, from the deepest name
upwards: it is taken apart at its last separator, and put together below the
path of its parent.
-/

namespace NitroSense.Lib

variable {α : Type*}

/-- The path of some names, the deepest first. -/
def pathOf (sep : α) : List (List α) → List α
  | [] => []
  | name :: names => pathOf sep names ++ sep :: name

/-- The absolute path of some names: the separator alone when there are none. -/
def rootedPath (sep : α) : List (List α) → List α
  | [] => [sep]
  | name :: names => pathOf sep (name :: names)

/-- Names without the separator, and none of them empty. -/
def PathNames (sep : α) (names : List (List α)) : Prop :=
  ∀ name ∈ names, name ≠ [] ∧ sep ∉ name

section Paths

variable [DecidableEq α] {sep : α}

/-- What stands behind the last separator, and what in front of it. -/
theorem cut_last {name : List α} (free : sep ∉ name) (dir : List α) :
    (dir ++ sep :: name).reverse.takeWhile (· != sep) = name.reverse ∧
      (dir ++ sep :: name).reverse.dropWhile (· != sep) = sep :: dir.reverse := by
  have other : ∀ c ∈ name.reverse, (c != sep) = true := fun c member => by
    simpa using fun same : c = sep => free (same ▸ List.mem_reverse.mp member)
  have shape : (dir ++ sep :: name).reverse = name.reverse ++ sep :: dir.reverse := by simp
  rw [shape]
  constructor
  · rw [List.takeWhile_append_of_pos other, List.takeWhile_cons_of_neg (by simp), List.append_nil]
  · rw [List.dropWhile_append_of_pos other, List.dropWhile_cons_of_neg (by simp)]

omit [DecidableEq α] in
theorem pathOf_ne_nil {names : List (List α)} (some : names ≠ []) : pathOf sep names ≠ [] := by
  cases names with
  | nil => exact absurd rfl some
  | cons name names => simp [pathOf]

omit [DecidableEq α] in
/-- A path of names is longer than its separator. -/
theorem pathOf_ne_root {names : List (List α)} (valid : PathNames sep names) :
    pathOf sep names ≠ [sep] := by
  cases names with
  | nil => simp [pathOf]
  | cons name names =>
      obtain ⟨c, rest, shape⟩ := List.exists_cons_of_ne_nil (valid name List.mem_cons_self).1
      intro same
      have length := congrArg List.length same
      rw [pathOf, shape] at length
      simp at length
      omega

end Paths

end NitroSense.Lib
