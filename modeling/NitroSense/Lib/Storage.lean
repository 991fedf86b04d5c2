import Mathlib.Data.List.Basic
import Mathlib.Logic.Function.Basic

/-!
# Cells of a storage

A storage is a table of cells by their index, and values are stored and loaded
in runs of neighbouring cells.
-/

namespace NitroSense.Lib

variable {α : Type*}

/-- The values of the cells from an offset on. -/
def load (cells : Nat → α) (off count : Nat) : List α :=
  (List.range count).map fun index => cells (off + index)

/-- The cells with these values from an offset on. -/
def store (cells : Nat → α) (off : Nat) : List α → Nat → α
  | [] => cells
  | value :: values => store (Function.update cells off value) (off + 1) values

@[simp] theorem load_length (cells : Nat → α) (off count : Nat) :
    (load cells off count).length = count := by
  simp [load]

/-- A longer run is two runs behind each other. -/
theorem load_add (cells : Nat → α) (off first second : Nat) :
    load cells off (first + second) = load cells off first ++ load cells (off + first) second := by
  simp [load, List.range_add, Nat.add_assoc]

theorem load_congr {cells other : Nat → α} {off count : Nat}
    (same : ∀ index, off ≤ index → index < off + count → cells index = other index) :
    load cells off count = load other off count := by
  refine List.map_congr_left fun index member => ?_
  have below := List.mem_range.mp member
  exact same (off + index) (Nat.le_add_right off index) (by omega)

/-- Storing leaves the other cells alone. -/
theorem store_outside {cells : Nat → α} {off index : Nat} {values : List α}
    (outside : index < off ∨ off + values.length ≤ index) :
    store cells off values index = cells index := by
  induction values generalizing cells off with
  | nil => rfl
  | cons value values ih =>
      rw [List.length_cons] at outside
      rw [store, ih (by omega), Function.update_of_ne (by omega)]

theorem store_append (cells : Nat → α) (off : Nat) (first second : List α) :
    store cells off (first ++ second) = store (store cells off first) (off + first.length) second := by
  induction first generalizing cells off with
  | nil => rfl
  | cons value first ih =>
      rw [List.cons_append, store, ih, store, List.length_cons, Nat.add_right_comm, Nat.add_assoc]

/-- What has been stored is loaded. -/
theorem load_store (cells : Nat → α) (off : Nat) (values : List α) :
    load (store cells off values) off values.length = values := by
  induction values generalizing cells off with
  | nil => rfl
  | cons value values ih =>
      have head : store cells off (value :: values) off = value := by
        rw [store, store_outside (Or.inl (Nat.lt_succ_self off)), Function.update_self]
      rw [List.length_cons, Nat.add_comm, load_add]
      have tail : load (store cells off (value :: values)) (off + 1) values.length = values := ih _ _
      have first : load (store cells off (value :: values)) off 1 = [value] := congrArg ([·]) head
      rw [first, tail]
      rfl

/-- The first of the stored values, whatever is stored behind them. -/
theorem load_store_append (cells : Nat → α) (off : Nat) (first second : List α) :
    load (store cells off (first ++ second)) off first.length = first := by
  rw [store_append]
  refine Eq.trans (load_congr fun index _ below => ?_) (load_store cells off first)
  exact store_outside (Or.inl below)

/-- Storing behind a run leaves it alone. -/
theorem load_store_before (cells : Nat → α) {off start count : Nat} (values : List α)
    (before : start + count ≤ off) :
    load (store cells off values) start count = load cells start count :=
  load_congr fun _ _ below => store_outside (Or.inl (by omega))

theorem store_last (cells : Nat → α) (off : Nat) (values : List α) (last : α) :
    store cells off (values ++ [last]) (off + values.length) = last := by
  rw [store_append, store, store, Function.update_self]

end NitroSense.Lib
