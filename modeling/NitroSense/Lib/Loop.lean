import Mathlib.Logic.Function.Basic

/-!
# Counted loops over an indexed table

A bounded loop `for i = 0, ..., n - 1` threads one state through a body that
receives the index.  The invariant rule is stated once here, and a rule for
loops that do the same work on a part of their state.
-/

namespace NitroSense.Lib

variable {σ : Type*}

/-- Run `body 0`, `body 1`, up to `body (n - 1)` in that order. -/
def loop : Nat → (Nat → σ → σ) → σ → σ
  | 0, _, start => start
  | count + 1, body, start => body count (loop count body start)

@[simp] theorem loop_zero (body : Nat → σ → σ) (start : σ) : loop 0 body start = start := rfl

@[simp] theorem loop_succ (count : Nat) (body : Nat → σ → σ) (start : σ) :
    loop (count + 1) body start = body count (loop count body start) := rfl

/-- A property indexed by the number of finished rounds holds after the loop. -/
theorem loop_invariant (Inv : Nat → σ → Prop) {count : Nat} {body : Nat → σ → σ} {start : σ}
    (initial : Inv 0 start)
    (round : ∀ index state, index < count → Inv index state → Inv (index + 1) (body index state)) :
    Inv count (loop count body start) := by
  induction count with
  | zero => exact initial
  | succ count ih =>
      have before := ih fun index state below => round index state (Nat.lt_succ_of_lt below)
      exact round count _ (Nat.lt_succ_self count) before

/-- A property that every round keeps holds after the loop. -/
theorem loop_preserves (Inv : σ → Prop) {count : Nat} {body : Nat → σ → σ} {start : σ}
    (initial : Inv start)
    (round : ∀ index state, index < count → Inv state → Inv (body index state)) :
    Inv (loop count body start) :=
  loop_invariant (fun _ => Inv) initial round

/-- A map that turns the rounds of one loop into those of another turns the loop into the other. -/
theorem loop_map {τ : Type*} (f : σ → τ) {count : Nat} {body : Nat → σ → σ} {image : Nat → τ → τ}
    {start : σ} (round : ∀ index state, f (body index state) = image index (f state)) :
    f (loop count body start) = loop count image (f start) := by
  induction count with
  | zero => rfl
  | succ count ih => rw [loop_succ, loop_succ, round, ih]

/-- The rounds that a test selects, with one round more. -/
theorem countP_range_succ (selected : Nat → Bool) (count : Nat) :
    (List.range (count + 1)).countP selected =
      (List.range count).countP selected + if selected count then 1 else 0 := by
  rw [List.range_succ, List.countP_append, List.countP_singleton]

end NitroSense.Lib
