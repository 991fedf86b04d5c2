import Mathlib.Logic.Function.Basic
import Mathlib.Data.List.Basic

/-!
# The last update of a key

A list of key-value pairs, oldest first, applied to a map: what the map holds
at a key afterwards is decided by the last update of that key alone.
-/

namespace NitroSense.Lib

variable {κ α β ι : Type*} [DecidableEq κ]

def lastUpdate : List (κ × α) → κ → Option α
  | [], _ => none
  | update :: rest, key =>
      (lastUpdate rest key).or (if update.1 = key then some update.2 else none)

@[simp] theorem lastUpdate_nil (key : κ) : lastUpdate ([] : List (κ × α)) key = none := rfl

theorem lastUpdate_append (first second : List (κ × α)) (key : κ) :
    lastUpdate (first ++ second) key = (lastUpdate second key).or (lastUpdate first key) := by
  induction first with
  | nil => simp
  | cons update rest ih =>
      rw [List.cons_append, lastUpdate, ih, lastUpdate, Option.or_assoc]

/-- A key has a last update exactly when it is updated at all. -/
theorem lastUpdate_isSome {updates : List (κ × α)} {key : κ} :
    (lastUpdate updates key).isSome = true ↔ ∃ update ∈ updates, update.1 = key := by
  induction updates with
  | nil => simp
  | cons update rest ih =>
      rw [lastUpdate, Option.isSome_or, Bool.or_eq_true, ih]
      by_cases here : update.1 = key
      · simp [here]
      · simp [here]

/-- A table of keyed values: the last value of a key belongs to the last index of the key. -/
theorem lastUpdate_map (indices : List ι) (index : ι → κ) (value : ι → α) (key : κ) :
    lastUpdate (indices.map fun i => (index i, value i)) key =
      (lastUpdate (indices.map fun i => (index i, i)) key).map value := by
  induction indices with
  | nil => rfl
  | cons i rest ih =>
      simp only [List.map_cons, lastUpdate, ih, Option.map_or]
      split <;> rfl

/-- In the reversed order the first value of a key is the last update. -/
theorem lastUpdate_reverse (updates : List (κ × α)) (key : κ) :
    lastUpdate updates.reverse key =
      (updates.find? fun update => update.1 = key).map Prod.snd := by
  induction updates with
  | nil => rfl
  | cons update rest ih =>
      rw [List.reverse_cons, lastUpdate_append, ih, List.find?_cons]
      by_cases here : update.1 = key
      · simp [lastUpdate, here]
      · simp [lastUpdate, here]

end NitroSense.Lib
