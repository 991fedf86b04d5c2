import Mathlib.Order.Lattice
import Mathlib.Order.Max
import Mathlib.Data.List.Basic

/-!
# Staircases

A table lists points in order, each with a level and a value.  A reading takes
the value of the last point whose level it reaches.  The points that some
reading selects are those that no later point undercuts; the value follows the
reading monotonically exactly when it does so along them.
-/

namespace NitroSense.Lib

variable {ι α β : Type*} [LinearOrder α]

/-- The value of the last point whose level the reading reaches, `first` below all of them. -/
def staircase (level : ι → α) (value : ι → β) (first : β) (table : List ι) (reading : α) : β :=
  table.foldl (fun current point => if reading ≥ level point then value point else current) first

/-- The points of the table without a later point at or below their level. -/
def stairs (level : ι → α) : List ι → List ι
  | [] => []
  | point :: rest =>
      if ∀ later ∈ rest, level point < level later then point :: stairs level rest
      else stairs level rest

variable {level : ι → α} {value : ι → β} {first : β} {table : List ι} {reading : α}

theorem staircase_cons (point : ι) (rest : List ι) :
    staircase level value first (point :: rest) reading =
      staircase level value (if reading ≥ level point then value point else first) rest reading :=
  rfl

/-- Below every level the value is the first one. -/
theorem staircase_below (below : ∀ point ∈ table, reading < level point) :
    staircase level value first table reading = first := by
  induction table with
  | nil => rfl
  | cons point rest ih =>
      rw [staircase_cons, if_neg (not_le_of_gt (below point List.mem_cons_self))]
      exact ih fun later member => below later (List.mem_cons_of_mem point member)

/-- A reached point with only unreached points behind it gives the value. -/
theorem staircase_split {before after : List ι} {point : ι} (reached : level point ≤ reading)
    (unreached : ∀ later ∈ after, reading < level later) :
    staircase level value first (before ++ point :: after) reading = value point := by
  have append : staircase level value first (before ++ point :: after) reading =
      staircase level value (staircase level value first before reading) (point :: after) reading :=
    List.foldl_append
  rw [append, staircase_cons, if_pos reached]
  exact staircase_below unreached

/-- Either no point is reached, or the table splits at the last one that is. -/
theorem exists_last_reached (level : ι → α) (table : List ι) (reading : α) :
    (∀ point ∈ table, reading < level point) ∨
      ∃ before point after, table = before ++ point :: after ∧ level point ≤ reading ∧
        ∀ later ∈ after, reading < level later := by
  induction table with
  | nil => exact Or.inl fun point member => absurd member List.not_mem_nil
  | cons first rest ih =>
      rcases ih with none | ⟨before, point, after, rfl, reached, unreached⟩
      · by_cases here : level first ≤ reading
        · exact Or.inr ⟨[], first, rest, rfl, here, none⟩
        · refine Or.inl fun point member => ?_
          rcases List.mem_cons.mp member with rfl | later
          · exact lt_of_not_ge here
          · exact none point later
      · exact Or.inr ⟨first :: before, point, after, rfl, reached, unreached⟩

/-- Once a point is reached the first value no longer matters. -/
theorem staircase_reached (other : β) (reached : ∃ point ∈ table, level point ≤ reading) :
    staircase level value first table reading = staircase level value other table reading := by
  induction table generalizing first other with
  | nil => exact absurd reached (by simp)
  | cons point rest ih =>
      rw [staircase_cons, staircase_cons]
      by_cases here : reading ≥ level point
      · rw [if_pos here, if_pos here]
      · rw [if_neg here, if_neg here]
        obtain ⟨later, member, below⟩ := reached
        rcases List.mem_cons.mp member with rfl | inside
        · exact absurd below here
        · exact ih other ⟨later, inside, below⟩

/-! ## The points that readings select -/

theorem stairs_subset : stairs level table ⊆ table := by
  induction table with
  | nil => exact List.Subset.refl []
  | cons point rest ih =>
      change (if ∀ later ∈ rest, level point < level later then point :: stairs level rest
        else stairs level rest) ⊆ point :: rest
      split
      · exact List.cons_subset_cons point ih
      · exact List.subset_cons_of_subset point ih

/-- The levels rise along the stairs. -/
theorem stairs_rise : (stairs level table).Pairwise (level · < level ·) := by
  induction table with
  | nil => exact List.Pairwise.nil
  | cons point rest ih =>
      change List.Pairwise _ (if ∀ later ∈ rest, level point < level later
        then point :: stairs level rest else stairs level rest)
      split
      · rename_i above
        exact List.Pairwise.cons (fun later member => above later (stairs_subset member)) ih
      · exact ih

/-- A table with rising levels is made of stairs only. -/
theorem stairs_of_rising (rising : table.Pairwise (level · < level ·)) :
    stairs level table = table := by
  induction table with
  | nil => rfl
  | cons point rest ih =>
      obtain ⟨above, tail⟩ := List.pairwise_cons.mp rising
      change (if ∀ later ∈ rest, level point < level later then point :: stairs level rest
        else stairs level rest) = point :: rest
      rw [if_pos above, ih tail]

/-- The points that are not on the stairs do not count. -/
theorem staircase_stairs :
    staircase level value first (stairs level table) reading =
      staircase level value first table reading := by
  induction table generalizing first with
  | nil => rfl
  | cons point rest ih =>
      change staircase level value first (if ∀ later ∈ rest, level point < level later
        then point :: stairs level rest else stairs level rest) reading = _
      split
      · exact ih
      · rename_i undercut
        rw [ih, staircase_cons]
        by_cases reached : reading ≥ level point
        · -- the undercutting point is reached as well, so this one is forgotten
          obtain ⟨later, member, below⟩ : ∃ later ∈ rest, level later ≤ level point := by
            simpa using undercut
          exact staircase_reached _ ⟨later, member, le_trans below reached⟩
        · rw [if_neg reached]

/-- On a table with rising levels, a reading at a point's level takes that point's value. -/
theorem staircase_level (rising : table.Pairwise (level · < level ·)) {point : ι}
    (member : point ∈ table) : staircase level value first table (level point) = value point := by
  obtain ⟨before, after, rfl⟩ := List.append_of_mem member
  have tail := (List.pairwise_append.mp rising).2.1
  exact staircase_split (le_refl _) (List.pairwise_cons.mp tail).1

/-! ## Monotone staircases -/

section Monotone

variable [Preorder β]

theorem first_le_staircase (values : (first :: table.map value).Pairwise (· ≤ ·)) :
    first ≤ staircase level value first table reading := by
  induction table generalizing first with
  | nil => exact le_refl first
  | cons point rest ih =>
      obtain ⟨above, tail⟩ := List.pairwise_cons.mp values
      rw [staircase_cons]
      split
      · exact le_trans (above _ List.mem_cons_self) (ih tail)
      · refine ih (List.pairwise_cons.mpr ⟨fun later member => ?_, tail.of_cons⟩)
        exact above later (List.mem_cons_of_mem _ member)

/-- Rising values make a staircase of rising levels monotone. -/
theorem staircase_monotone_of_rising (rising : table.Pairwise (level · < level ·))
    (values : (first :: table.map value).Pairwise (· ≤ ·)) :
    Monotone (staircase level value first table) := by
  intro lower higher le
  induction table generalizing first with
  | nil => exact le_refl first
  | cons point rest ih =>
      obtain ⟨above, tail⟩ := List.pairwise_cons.mp values
      rw [staircase_cons, staircase_cons]
      by_cases reached : lower ≥ level point
      · rw [if_pos reached, if_pos (le_trans reached le)]
        exact ih rising.of_cons tail
      · rw [if_neg reached]
        have none : staircase level value first rest lower = first :=
          staircase_below fun later member =>
            lt_trans (lt_of_not_ge reached) ((List.pairwise_cons.mp rising).1 later member)
        rw [none]
        split
        · exact le_trans (above _ List.mem_cons_self) (first_le_staircase tail)
        · refine first_le_staircase (List.pairwise_cons.mpr ⟨fun later member => ?_, tail.of_cons⟩)
          exact above later (List.mem_cons_of_mem _ member)

/-- Some reading is below every level of a rising table with a point. -/
theorem exists_reading_below [NoMinOrder α] (rising : table.Pairwise (level · < level ·)) {point : ι}
    (member : point ∈ table) : ∃ reading, ∀ other ∈ table, reading < level other := by
  cases table with
  | nil => exact absurd member List.not_mem_nil
  | cons lowest rest =>
      obtain ⟨reading, below⟩ := exists_lt (level lowest)
      refine ⟨reading, fun other inside => ?_⟩
      rcases List.mem_cons.mp inside with rfl | later
      · exact below
      · exact lt_trans below ((List.pairwise_cons.mp rising).1 other later)

/-- A staircase is monotone exactly when the values rise along its stairs, the first one included. -/
theorem staircase_monotone_iff [NoMinOrder α] :
    Monotone (staircase level value first table) ↔
      (first :: (stairs level table).map value).Pairwise (· ≤ ·) := by
  have same : staircase level value first table =
      staircase level value first (stairs level table) := funext fun _ => staircase_stairs.symm
  have rising : (stairs level table).Pairwise (level · < level ·) := stairs_rise
  rw [same]
  constructor
  · intro monotone
    refine List.pairwise_cons.mpr ⟨fun later member => ?_, List.pairwise_map.mpr ?_⟩
    · obtain ⟨point, inside, rfl⟩ := List.mem_map.mp member
      obtain ⟨reading, below⟩ := exists_reading_below rising inside
      have climbs := monotone (le_of_lt (below point inside))
      rw [staircase_below below, staircase_level rising inside] at climbs
      exact climbs
    · refine rising.imp_of_mem fun {lower higher} before after less => ?_
      have climbs := monotone (le_of_lt less)
      rw [staircase_level rising before, staircase_level rising after] at climbs
      exact climbs
  · exact staircase_monotone_of_rising rising

end Monotone

end NitroSense.Lib
