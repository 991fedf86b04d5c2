import Mathlib.Data.List.TakeWhile
import Mathlib.Data.Int.Order.Basic

/-!
# Saturating counters

A counter goes up with every hot value until it reaches its limit, and a cold
value clears it; a value that is neither leaves it alone.  Over a history,
newest value first, it counts the hot values of the current streak, which is
what came after the last value that cleared it.
-/

namespace NitroSense.Lib

variable {α : Type*} (hot cold : α → Bool) (limit : Int)

/-- What one value does to the counter. -/
def count (value : α) (counter : Int) : Int :=
  if hot value then if counter < limit then counter + 1 else counter
  else if cold value then 0
  else counter

/-- The counter after a history, newest value first. -/
def counted : List α → Int
  | [] => 0
  | value :: older => count hot cold limit value (counted older)

/-- The values since the last one that cleared the counter, newest first. -/
def streak (history : List α) : List α := history.takeWhile fun value => hot value || !cold value

/-- Every value of the streak that is newer than a hot one is hot. -/
def Unbroken (history : List α) : Prop :=
  (streak hot cold history).Pairwise fun newer older => hot older = true → hot newer = true

instance (history : List α) : Decidable (Unbroken hot cold history) :=
  inferInstanceAs (Decidable (List.Pairwise _ _))

variable {hot cold limit}

theorem streak_cons_hot {value : α} (heats : hot value = true) (older : List α) :
    streak hot cold (value :: older) = value :: streak hot cold older :=
  List.takeWhile_cons_of_pos (by simp [heats])

theorem streak_cons_cold {value : α} (heats : hot value = false) (cools : cold value = true)
    (older : List α) : streak hot cold (value :: older) = [] :=
  List.takeWhile_cons_of_neg (by simp [heats, cools])

theorem streak_cons_between {value : α} (cools : cold value = false) (older : List α) :
    streak hot cold (value :: older) = value :: streak hot cold older :=
  List.takeWhile_cons_of_pos (by simp [cools])

/-- The counter counts the hot values of the streak, up to its limit. -/
theorem counted_eq (nonneg : 0 ≤ limit) (history : List α) :
    counted hot cold limit history = min limit ((streak hot cold history).countP hot) := by
  induction history with
  | nil => exact (min_eq_right nonneg).symm
  | cons value older ih =>
      rw [counted, count, ih]
      cases heats : hot value with
      | true =>
          rw [streak_cons_hot heats, List.countP_cons_of_pos heats, if_pos rfl]
          push_cast
          split <;> omega
      | false =>
          rw [if_neg Bool.false_ne_true]
          cases cools : cold value with
          | true =>
              rw [streak_cons_cold heats cools, if_pos rfl]
              exact (min_eq_right nonneg).symm
          | false =>
              rw [streak_cons_between cools, List.countP_cons_of_neg (by simp [heats]),
                if_neg Bool.false_ne_true]

/-- One more value adds at most one hot value to the streak. -/
theorem countP_streak_cons_le (value : α) (older : List α) :
    (streak hot cold (value :: older)).countP hot ≤ (streak hot cold older).countP hot + 1 := by
  cases heats : hot value with
  | true => rw [streak_cons_hot heats, List.countP_cons_of_pos heats]
  | false =>
      cases cools : cold value with
      | true => simp [streak_cons_cold heats cools]
      | false =>
          rw [streak_cons_between cools, List.countP_cons_of_neg (by simp [heats])]
          exact Nat.le_succ _

/--
As many values as there are hot ones are all hot exactly when every value newer
than a hot one is hot.
-/
theorem take_countP_iff (values : List α) :
    (∀ value ∈ values.take (values.countP hot), hot value = true) ↔
      values.Pairwise fun newer older => hot older = true → hot newer = true := by
  induction values with
  | nil => simp
  | cons value older ih =>
      rw [List.pairwise_cons]
      by_cases heats : hot value = true
      · rw [List.countP_cons_of_pos heats, List.take_succ_cons, List.forall_mem_cons, ih]
        exact ⟨fun both => ⟨fun _ _ _ => heats, both.2⟩, fun both => ⟨heats, both.2⟩⟩
      · rw [List.countP_cons_of_neg heats]
        constructor
        · intro newest
          have none : older.countP hot = 0 := by
            by_contra some
            obtain ⟨more, counts⟩ := Nat.exists_eq_succ_of_ne_zero some
            rw [counts, List.take_succ_cons] at newest
            exact heats (newest value List.mem_cons_self)
          rw [none] at ih
          refine ⟨fun next member heat => ?_, ih.mp (by simp)⟩
          exact absurd heat (List.countP_eq_zero.mp none next member)
        · rintro ⟨behind, -⟩
          have none : older.countP hot = 0 :=
            List.countP_eq_zero.mpr fun next member heat => heats (behind next member heat)
          simp [none]

/--
When the newest value makes the counter reach its limit, the limit's worth of
newest values are all hot exactly when the streak is unbroken.
-/
theorem newest_hot_iff (nonneg : 0 ≤ limit) {value : α} {older : List α}
    (before : counted hot cold limit older < limit)
    (after : counted hot cold limit (value :: older) = limit) :
    (∃ newest rest, value :: older = newest ++ rest ∧ (newest.length : Int) = limit ∧
      ∀ value ∈ newest, hot value = true) ↔ Unbroken hot cold (value :: older) := by
  obtain ⟨places, rfl⟩ := Int.eq_ofNat_of_zero_le nonneg
  rw [counted_eq nonneg] at before after
  have step := @countP_streak_cons_le _ hot cold value older
  have hots : (streak hot cold (value :: older)).countP hot = places := by omega
  have enough : places ≤ (streak hot cold (value :: older)).length :=
    hots ▸ List.countP_le_length
  have whole : value :: older = streak hot cold (value :: older) ++
      (value :: older).dropWhile fun value => hot value || !cold value :=
    List.takeWhile_append_dropWhile.symm
  have newest : (value :: older).take places = (streak hot cold (value :: older)).take places :=
    (congrArg (List.take places) whole).trans (List.take_append_of_le_length enough)
  have length : places ≤ (value :: older).length :=
    enough.trans (List.takeWhile_sublist _).length_le
  rw [Unbroken, ← take_countP_iff, hots, ← newest]
  constructor
  · rintro ⟨first, rest, split, count, heats⟩
    rw [split, ← Int.ofNat_inj.mp count, List.take_left]
    exact heats
  · intro heats
    exact ⟨_, _, (List.take_append_drop places _).symm,
      congrArg Int.ofNat (List.length_take_of_le length), heats⟩

end NitroSense.Lib
