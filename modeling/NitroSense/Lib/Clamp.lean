import Mathlib.Order.Lattice
import Mathlib.Order.Defs.LinearOrder

/-!
# Clamping into a closed interval

`clamp low high value` is `value` pushed to the nearest end of `[low, high]`.
The bounds need not be ordered for the definition; the order facts assume
`low ≤ high`.
-/

namespace NitroSense.Lib

variable {α : Type*} [LinearOrder α]

def clamp (low high value : α) : α :=
  if value < low then low else if high < value then high else value

theorem le_clamp {low high : α} (bounds : low ≤ high) (value : α) :
    low ≤ clamp low high value := by
  unfold clamp
  split
  · exact le_refl low
  · split
    · exact bounds
    · exact le_of_not_gt ‹_›

theorem clamp_le {low high : α} (bounds : low ≤ high) (value : α) :
    clamp low high value ≤ high := by
  unfold clamp
  split
  · exact bounds
  · split
    · exact le_refl high
    · exact le_of_not_gt ‹_›

/-- A lower bound of the value and of the interval's end is one of the clamped value. -/
theorem le_clamp_of_le {low high value bound : α} (upper : bound ≤ high) (below : bound ≤ value) :
    bound ≤ clamp low high value := by
  unfold clamp
  split
  · rename_i less
    exact le_trans below (le_of_lt less)
  · split
    · exact upper
    · exact below

/-- A value inside the interval is left alone. -/
theorem clamp_of_mem {low high value : α} (lower : low ≤ value) (upper : value ≤ high) :
    clamp low high value = value := by
  rw [clamp, if_neg (not_lt_of_ge lower), if_neg (not_lt_of_ge upper)]

theorem clamp_clamp {low high : α} (bounds : low ≤ high) (value : α) :
    clamp low high (clamp low high value) = clamp low high value :=
  clamp_of_mem (le_clamp bounds value) (clamp_le bounds value)

theorem clamp_mono {low high : α} (bounds : low ≤ high) {first second : α}
    (le : first ≤ second) : clamp low high first ≤ clamp low high second := by
  unfold clamp
  split
  · split
    · exact le_refl low
    · split
      · exact bounds
      · exact le_of_not_gt ‹_›
  · rename_i first_ge
    have second_ge : ¬ second < low := fun below => first_ge (lt_of_le_of_lt le below)
    rw [if_neg second_ge]
    split
    · rename_i first_gt
      rw [if_pos (lt_of_lt_of_le first_gt le)]
    · split
      · exact le_of_not_gt ‹_›
      · exact le

theorem clamp_of_le_low {low high value : α} (bounds : low ≤ high) (below : value ≤ low) :
    clamp low high value = low := by
  rcases lt_or_eq_of_le below with less | same
  · rw [clamp, if_pos less]
  · rw [same, clamp_of_mem (le_refl low) bounds]

theorem clamp_of_high_le {low high value : α} (bounds : low ≤ high) (above : high ≤ value) :
    clamp low high value = high := by
  rcases lt_or_eq_of_le above with less | same
  · rw [clamp, if_neg (not_lt_of_ge (le_trans bounds above)), if_pos less]
  · rw [← same, clamp_of_mem bounds (le_refl high)]

/-- Clamping keeps a strict inequality that meets the interval. -/
theorem clamp_lt_clamp {low high first second : α} (bounds : low < high) (less : first < second)
    (above : low < second) (below : first < high) :
    clamp low high first < clamp low high second := by
  rcases le_total first low with atLow | aboveLow
  · rw [clamp_of_le_low (le_of_lt bounds) atLow]
    rcases le_total high second with atHigh | belowHigh
    · rw [clamp_of_high_le (le_of_lt bounds) atHigh]
      exact bounds
    · rw [clamp_of_mem (le_of_lt above) belowHigh]
      exact above
  · rw [clamp_of_mem aboveLow (le_of_lt below)]
    rcases le_total high second with atHigh | belowHigh
    · rw [clamp_of_high_le (le_of_lt bounds) atHigh]
      exact below
    · rw [clamp_of_mem (le_of_lt above) belowHigh]
      exact less

/-- Two clamped values compare as their arguments do, except at the two ends. -/
theorem clamp_le_clamp_iff {low high : α} (bounds : low < high) (first second : α) :
    clamp low high first ≤ clamp low high second ↔
      first ≤ second ∨ first ≤ low ∨ high ≤ second := by
  constructor
  · intro le
    by_contra apart
    push Not at apart
    obtain ⟨less, above, below⟩ := apart
    exact absurd le (not_le_of_gt (clamp_lt_clamp bounds less above below))
  · rintro (le | atLow | atHigh)
    · exact clamp_mono (le_of_lt bounds) le
    · rw [clamp_of_le_low (le_of_lt bounds) atLow]
      exact le_clamp (le_of_lt bounds) second
    · rw [clamp_of_high_le (le_of_lt bounds) atHigh]
      exact clamp_le (le_of_lt bounds) first

end NitroSense.Lib
