import Mathlib.Data.List.Forall2
import Mathlib.Data.Set.Insert
import Mathlib.Order.Bounds.Basic

/-!
# The greatest of some values

A scan that keeps the greatest value it meets ends with the greatest value of
its items, in whatever order it meets them.  Scans nest: an item of the outer
scan may be scanned for values itself.
-/

namespace NitroSense.Lib

variable {α ι : Type*}

/-- The greatest value of a set, or a default when there is none. -/
def GreatestOr [LE α] (fallback : α) (values : Set α) (result : α) : Prop :=
  IsGreatest values result ∨ values = ∅ ∧ result = fallback

section Order

variable [LinearOrder α] {fallback : α} {values others : Set α} {result other : α}

/-- The default counts as a value below all others. -/
theorem isGreatest_insert_iff (below : ∀ value ∈ values, fallback < value) :
    IsGreatest (insert fallback values) result ↔ GreatestOr fallback values result := by
  constructor
  · rintro ⟨member, upper⟩
    rcases Set.mem_insert_iff.mp member with rfl | inside
    · refine Or.inr ⟨Set.eq_empty_of_forall_notMem fun value inside => ?_, rfl⟩
      exact absurd (upper (Set.mem_insert_of_mem _ inside)) (not_le_of_gt (below value inside))
    · exact Or.inl ⟨inside, fun value known => upper (Set.mem_insert_of_mem _ known)⟩
  · rintro (⟨inside, upper⟩ | ⟨rfl, rfl⟩)
    · refine ⟨Set.mem_insert_of_mem _ inside, ?_⟩
      rintro value (rfl | known)
      · exact le_of_lt (below result inside)
      · exact upper known
    · rw [insert_empty_eq]
      exact isGreatest_singleton

/-- There is one greatest value. -/
theorem GreatestOr.unique (first : GreatestOr fallback values result)
    (second : GreatestOr fallback values other) : result = other := by
  rcases first with first | ⟨rfl, rfl⟩
  · rcases second with second | ⟨rfl, rfl⟩
    · exact first.unique second
    · exact absurd first.1 (Set.notMem_empty result)
  · rcases second with second | ⟨-, rfl⟩
    · exact absurd second.1 (Set.notMem_empty other)
    · rfl

/-- More values have no smaller greatest one. -/
theorem GreatestOr.mono (subset : values ⊆ others) (below : ∀ value ∈ others, fallback < value)
    (first : GreatestOr fallback values result) (second : GreatestOr fallback others other) :
    result ≤ other := by
  have upper := ((isGreatest_insert_iff below).mpr second).2
  rcases first with ⟨member, -⟩ | ⟨-, rfl⟩
  · exact upper (Set.mem_insert_of_mem _ (subset member))
  · exact upper (Set.mem_insert _ _)

/-- The greatest of all values is the greater of the greatest ones of two parts. -/
theorem GreatestOr.union (belowValues : ∀ value ∈ values, fallback < value)
    (belowOthers : ∀ value ∈ others, fallback < value)
    (first : GreatestOr fallback values result) (second : GreatestOr fallback others other) :
    GreatestOr fallback (values ∪ others) (max result other) := by
  have below : ∀ value ∈ values ∪ others, fallback < value := by
    rintro value (inside | inside)
    · exact belowValues value inside
    · exact belowOthers value inside
  rw [← isGreatest_insert_iff below, Set.insert_union_distrib]
  exact ((isGreatest_insert_iff belowValues).mpr first).union
    ((isGreatest_insert_iff belowOthers).mpr second)

/-- Nothing to find leaves the value at its start. -/
theorem isGreatest_insert_of_empty (start : α) (none : values = ∅) :
    IsGreatest (insert start values) start := by
  rw [none, insert_empty_eq]
  exact isGreatest_singleton

/-- The greatest value found so far stands for the values it was found among. -/
theorem isGreatest_insert_union {start : α} (first : IsGreatest (insert start values) result)
    (second : IsGreatest (insert result others) other) :
    IsGreatest (insert start (values ∪ others)) other := by
  obtain ⟨found, above⟩ := first
  obtain ⟨later, upper⟩ := second
  have higher : result ≤ other := upper (Set.mem_insert _ _)
  constructor
  · rcases Set.mem_insert_iff.mp later with same | inside
    · rw [same]
      exact Set.insert_subset_insert Set.subset_union_left found
    · exact Set.mem_insert_of_mem _ (Or.inr inside)
  · rintro value (rfl | inside | inside)
    · exact le_trans (above (Set.mem_insert _ _)) higher
    · exact le_trans (above (Set.mem_insert_of_mem _ inside)) higher
    · exact upper (Set.mem_insert_of_mem _ inside)

end Order

/-! ## Scans -/

/-- From the floor upwards, the step keeps the greatest of the value so far and its item's. -/
def KeepsGreatest [LE α] (floor : α) (step : α → ι → α) (values : ι → Set α) : Prop :=
  ∀ best, floor ≤ best → ∀ item, IsGreatest (insert best (values item)) (step best item)

def valuesOf (values : ι → Set α) (items : List ι) : Set α :=
  {value | ∃ item ∈ items, value ∈ values item}

theorem valuesOf_nil (values : ι → Set α) : valuesOf values [] = ∅ := by
  simp [valuesOf]

theorem valuesOf_cons (values : ι → Set α) (item : ι) (items : List ι) :
    valuesOf values (item :: items) = values item ∪ valuesOf values items := by
  ext value
  simp [valuesOf]

/-- The items' order does not matter. -/
theorem valuesOf_perm {values : ι → Set α} {items others : List ι} (perm : items.Perm others) :
    valuesOf values items = valuesOf values others := by
  ext value
  simp [valuesOf, perm.mem_iff]

/-- Items may be exchanged for others with the same values. -/
theorem valuesOf_forall₂ {values : ι → Set α} {items others : List ι}
    (same : List.Forall₂ (fun item other => values item = values other) items others) :
    valuesOf values items = valuesOf values others := by
  induction same with
  | nil => rfl
  | cons first _ ih => rw [valuesOf_cons, valuesOf_cons, first, ih]

section Scan

variable [LinearOrder α] {floor : α} {step : α → ι → α} {values : ι → Set α}

/-- A scan ends with the greatest of its start and the values of its items. -/
theorem KeepsGreatest.foldl (keeps : KeepsGreatest floor step values) (items : List ι) {best : α}
    (above : floor ≤ best) :
    IsGreatest (insert best (valuesOf values items)) (items.foldl step best) := by
  induction items generalizing best with
  | nil => exact isGreatest_insert_of_empty best (valuesOf_nil values)
  | cons item items ih =>
      have first := keeps best above item
      have higher : floor ≤ step best item := le_trans above (first.2 (Set.mem_insert _ _))
      rw [valuesOf_cons]
      exact isGreatest_insert_union first (ih higher)

end Scan

end NitroSense.Lib
