import Mathlib.Data.List.Basic

/-!
# Polling a device

A driver reads a status until it is good and gives up after a fixed number of
reads.  Reading may change the device.  The rules give what holds after the
poll from what one read preserves, and what the reads were when all are kept.
-/

namespace NitroSense.Lib

variable {σ α β : Type*}

/-- Read until a value is good, at most `limit` times; the result is whether one was. -/
def pollUntil (read : σ → σ × α) (good : α → Bool) : Nat → σ → σ × Bool
  | 0, state => (state, false)
  | limit + 1, state =>
      if good (read state).2 then ((read state).1, true)
      else pollUntil read good limit (read state).1

section Poll

variable {read : σ → σ × α} {good : α → Bool}

/-- What every read preserves holds after the poll. -/
theorem pollUntil_preserves {P : σ → Prop} (keeps : ∀ state, P state → P (read state).1)
    {limit : Nat} {state : σ} (initial : P state) :
    P (pollUntil read good limit state).1 := by
  induction limit generalizing state with
  | zero => exact initial
  | succ limit ih =>
      rw [pollUntil]
      split
      · exact keeps state initial
      · exact ih (keeps state initial)

/-- A poll that succeeds ends with what a good read gives. -/
theorem pollUntil_good {P Q : σ → Prop} (keeps : ∀ state, P state → P (read state).1)
    (gives : ∀ state, P state → good (read state).2 = true → Q (read state).1)
    {limit : Nat} {state : σ} (initial : P state)
    (succeeds : (pollUntil read good limit state).2 = true) :
    Q (pollUntil read good limit state).1 := by
  induction limit generalizing state with
  | zero => cases succeeds
  | succ limit ih =>
      rw [pollUntil] at succeeds ⊢
      split
      · rename_i here
        exact gives state initial here
      · rename_i here
        rw [if_neg here] at succeeds
        exact ih (keeps state initial) succeeds

/-- A poll whose first read is good succeeds at once. -/
theorem pollUntil_first {limit : Nat} {state : σ} (here : good (read state).2 = true) :
    pollUntil read good (limit + 1) state = ((read state).1, true) := by
  rw [pollUntil, if_pos here]

/-- A poll that finds nothing good for as long as it may fails. -/
theorem pollUntil_fails {P : Nat → σ → Prop}
    (stays : ∀ rest state, P (rest + 1) state → good (read state).2 = false ∧
      P rest (read state).1)
    {limit : Nat} {state : σ} (here : P limit state) :
    (pollUntil read good limit state).2 = false := by
  induction limit generalizing state with
  | zero => rfl
  | succ limit ih =>
      obtain ⟨bad, later⟩ := stays limit state here
      rw [pollUntil, if_neg (Bool.eq_false_iff.mp bad)]
      exact ih later

/--
A poll of a device that keeps its reads: the last of them was good, or all the
`limit` reads were bad.
-/
theorem pollUntil_kept {kept : σ → List β} {entry : α → β}
    (keeps : ∀ state, kept (read state).1 = entry (read state).2 :: kept state)
    (limit : Nat) (state : σ) :
    ∃ values, kept (pollUntil read good limit state).1 = values.map entry ++ kept state ∧
      values.length ≤ limit ∧
      if (pollUntil read good limit state).2 then
        ∃ value bad, values = value :: bad ∧ good value = true ∧ ∀ value ∈ bad, good value = false
      else values.length = limit ∧ ∀ value ∈ values, good value = false := by
  induction limit generalizing state with
  | zero => exact ⟨[], rfl, Nat.le_refl 0, rfl, by simp⟩
  | succ limit ih =>
      rw [pollUntil]
      cases here : good (read state).2 with
      | true =>
          refine ⟨[(read state).2], keeps state, Nat.succ_le_succ (Nat.zero_le limit), ?_⟩
          exact ⟨(read state).2, [], rfl, here, by simp⟩
      | false =>
          obtain ⟨values, log, within, ends⟩ := ih (read state).1
          simp only [Bool.false_eq_true, if_false]
          refine ⟨values ++ [(read state).2], ?_, by simpa using within, ?_⟩
          · rw [log, keeps state]
            simp
          · cases done : (pollUntil read good limit (read state).1).2 with
            | true =>
                rw [done] at ends
                obtain ⟨value, bad, shape, valueGood, allBad⟩ := ends
                refine ⟨value, bad ++ [(read state).2], by rw [shape]; rfl, valueGood, ?_⟩
                simpa [here, or_imp, forall_and] using allBad
            | false =>
                rw [done] at ends
                refine ⟨by simpa using ends.1, ?_⟩
                simpa [here, or_imp, forall_and] using ends.2

end Poll

end NitroSense.Lib
