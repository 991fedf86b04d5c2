import Mathlib.Order.ConditionallyCompleteLattice.Basic
import Mathlib.Data.Int.ConditionallyCompleteOrder

/-!
# Sequences that approach a goal

A sequence follows a function until it gets stuck, if it ever does.  When the
function moves every value below a goal up towards it, and every value above it
stays or drops to the goal at once, such a sequence is monotone, and an integer
one is constant after as many steps as its distance below the goal.
-/

namespace NitroSense.Lib

section Order

variable {α : Type*} [LinearOrder α]

/-- `next` moves values below the goal up, and drops values above it or leaves them. -/
structure Approaches (next : α → α) (goal : α) : Prop where
  reached : next goal = goal
  rises : ∀ value, value < goal → value < next value ∧ next value ≤ goal
  falls : ∀ value, goal < value → next value = value ∨ next value = goal

/-- Each step applies `next`, unless the sequence stays where it is from there on. -/
def Follows (next : α → α) (x : ℕ → α) : Prop :=
  ∀ n, x (n + 1) = next (x n) ∨ ∀ m ≥ n, x m = x n

variable {next : α → α} {goal : α} {x : ℕ → α}

omit [LinearOrder α] in
/-- A sequence that stands at a fixed point stays there. -/
theorem Follows.settled_of_fixed (follows : Follows next x) {n : ℕ} (fixed : next (x n) = x n) :
    ∀ m ≥ n, x m = x n := by
  intro m later
  induction m, later using Nat.le_induction with
  | base => rfl
  | succ m _ ih =>
      rcases follows m with step | stuck
      · rw [step, ih, fixed]
      · rw [stuck (m + 1) (Nat.le_succ m), ih]

/-- Below the goal the sequence rises and stays below it. -/
theorem Follows.rising (follows : Follows next x) (approaches : Approaches next goal)
    (below : x 0 ≤ goal) : ∀ n, x n ≤ x (n + 1) ∧ x n ≤ goal := by
  have step : ∀ n, x n ≤ goal → x n ≤ x (n + 1) ∧ x (n + 1) ≤ goal := by
    intro n inside
    rcases follows n with next | stuck
    · rcases lt_or_eq_of_le inside with rising | reached
      · obtain ⟨up, upTo⟩ := approaches.rises _ rising
        rw [next]
        exact ⟨le_of_lt up, upTo⟩
      · rw [next, reached, approaches.reached]
        exact ⟨le_refl goal, le_refl goal⟩
    · rw [stuck (n + 1) (Nat.le_succ n)]
      exact ⟨le_refl _, inside⟩
  have inside : ∀ n, x n ≤ goal := by
    intro n
    induction n with
    | zero => exact below
    | succ n ih => exact (step n ih).2
  exact fun n => ⟨(step n (inside n)).1, inside n⟩

/-- Above the goal the sequence settles with its first step. -/
theorem Follows.falling (follows : Follows next x) (approaches : Approaches next goal)
    (above : goal < x 0) : x 1 ≤ x 0 ∧ ∀ n ≥ 1, x n = x 1 := by
  rcases follows 0 with step | stuck
  · rcases approaches.falls _ above with fixed | reached
    · have settled := follows.settled_of_fixed fixed
      refine ⟨le_of_eq (settled 1 (Nat.zero_le 1)), fun n _ => ?_⟩
      rw [settled n (Nat.zero_le n), settled 1 (Nat.zero_le 1)]
    · have one : x 1 = goal := step.trans reached
      refine ⟨one ▸ le_of_lt above, follows.settled_of_fixed ?_⟩
      rw [one, approaches.reached]
  · refine ⟨le_of_eq (stuck 1 (Nat.zero_le 1)), fun n _ => ?_⟩
    rw [stuck n (Nat.zero_le n), stuck 1 (Nat.zero_le 1)]

theorem Follows.monotone_or_antitone (follows : Follows next x)
    (approaches : Approaches next goal) : Monotone x ∨ Antitone x := by
  rcases le_or_gt (x 0) goal with below | above
  · exact Or.inl (monotone_nat_of_le_succ fun n => (follows.rising approaches below n).1)
  · obtain ⟨drops, settled⟩ := follows.falling approaches above
    refine Or.inr (antitone_nat_of_succ_le fun n => ?_)
    cases n with
    | zero => exact drops
    | succ n => rw [settled (n + 1 + 1) (by omega), settled (n + 1) (by omega)]

end Order

section Int

variable {next : ℤ → ℤ} {goal : ℤ} {x : ℕ → ℤ}

/-- A sequence that has not settled below its goal has risen by 1 in each step. -/
theorem Follows.progress (follows : Follows next x) (approaches : Approaches next goal)
    (below : x 0 ≤ goal) (n : ℕ) : (∀ m ≥ n, x m = x n) ∨ x 0 + n ≤ x n ∧ x n < goal := by
  induction n with
  | zero =>
      rcases lt_or_eq_of_le below with rising | reached
      · exact Or.inr ⟨by simp, rising⟩
      · refine Or.inl (follows.settled_of_fixed ?_)
        rw [reached, approaches.reached]
  | succ n ih =>
      rcases ih with settled | ⟨risen, rising⟩
      · refine Or.inl fun m later => ?_
        rw [settled m (by omega), settled (n + 1) (Nat.le_succ n)]
      · rcases follows n with step | stuck
        · obtain ⟨up, upTo⟩ := approaches.rises _ rising
          rw [← step] at up upTo
          rcases lt_or_eq_of_le upTo with still | reached
          · refine Or.inr ⟨?_, still⟩
            push_cast
            omega
          · refine Or.inl (follows.settled_of_fixed ?_)
            rw [reached, approaches.reached]
        · refine Or.inl fun m later => ?_
          rw [stuck m (by omega), stuck (n + 1) (Nat.le_succ n)]

/-- The sequence is constant from the step on that covers its distance to the goal. -/
theorem Follows.settled (follows : Follows next x) (approaches : Approaches next goal) {steps : ℕ}
    (some : 1 ≤ steps) (distance : goal - x 0 ≤ steps) : ∀ n ≥ steps, x n = x steps := by
  rcases le_or_gt (x 0) goal with below | above
  · rcases follows.progress approaches below steps with settled | ⟨risen, rising⟩
    · exact settled
    · omega
  · obtain ⟨-, settled⟩ := follows.falling approaches above
    intro n later
    rw [settled n (by omega), settled steps some]

end Int

end NitroSense.Lib
