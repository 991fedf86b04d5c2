import NitroSense.Lib.Greatest
import NitroSense.Sensors

/-!
# The hottest reading of a sensor group

A group is a set of temperatures: the readable inputs of the chips it matches,
and NVML's reading for the groups that ask for it.  A read of the group is the
hottest of them, whatever order the directories are listed in.
-/

namespace NitroSense

open Lib

/-! ## Temperatures -/

/-- The temperature of an input that can be read: the others read as a negative number. -/
def HwmonInput.temperatures (input : HwmonInput) : Set Int :=
  {temp | "temp".toList.isPrefixOf input.entry = true ∧
    stringContainsCase input.entry "_input".toList = true ∧
    readTempFileC input.text = temp ∧ 0 ≤ temp}

def HwmonChip.temperatures (group : CString) (chip : HwmonChip) : Set Int :=
  {temp | chip.entry.head? ≠ some '.' ∧
    (∃ name ∈ chip.name, sensorGroupMatches group (name.take 128) = true) ∧
    ∃ inputs ∈ chip.inputs, temp ∈ valuesOf HwmonInput.temperatures inputs}

/-- NVML's temperature, for the groups that ask for it. -/
def nvmlTemperatures (group : CString) (nvml : Option NvmlTemperature) : Set Int :=
  {temp | (group = "gpu".toList ∨ group = "max".toList) ∧
    ∃ reading ∈ nvml, (reading.degrees : Int) = temp}

def groupTemperatures (group : CString) (nvml : Option NvmlTemperature)
    (chips : List HwmonChip) : Set Int :=
  nvmlTemperatures group nvml ∪ valuesOf (HwmonChip.temperatures group) chips

/-- Temperatures lie above the -1 of a failed read. -/
theorem groupTemperatures_above {group : CString} {nvml : Option NvmlTemperature}
    {chips : List HwmonChip} {temp : Int} (inside : temp ∈ groupTemperatures group nvml chips) :
    -1 < temp := by
  rcases inside with ⟨-, reading, -, rfl⟩ | ⟨chip, -, -, -, inputs, -, input, -, -, -, -, positive⟩
  · omega
  · omega

/-- Group `max` matches the chips of both components. -/
theorem HwmonChip.temperatures_max (chip : HwmonChip) :
    chip.temperatures "max".toList =
      chip.temperatures "cpu".toList ∪ chip.temperatures "gpu".toList := by
  have matched (name : CString) : sensorGroupMatches "max".toList name = true ↔
      sensorGroupMatches "cpu".toList name = true ∨
        sensorGroupMatches "gpu".toList name = true := by
    rw [sensorGroupMatches, if_pos rfl, Bool.or_eq_true]
    rfl
  ext temp
  simp only [temperatures, Set.mem_union, Set.mem_ofPred_eq, matched, and_or_left, exists_or,
    or_and_right]

/-- Group `max` has the temperatures of both components. -/
theorem groupTemperatures_max (nvml : Option NvmlTemperature) (chips : List HwmonChip) :
    groupTemperatures "max".toList nvml chips =
      groupTemperatures "cpu".toList nvml chips ∪ groupTemperatures "gpu".toList nvml chips := by
  have nvmlMax : nvmlTemperatures "max".toList nvml =
      nvmlTemperatures "cpu".toList nvml ∪ nvmlTemperatures "gpu".toList nvml := by
    ext temp
    simp [nvmlTemperatures]
  have chipsMax : valuesOf (HwmonChip.temperatures "max".toList) chips =
      valuesOf (HwmonChip.temperatures "cpu".toList) chips ∪
        valuesOf (HwmonChip.temperatures "gpu".toList) chips := by
    ext temp
    simp only [valuesOf, Set.mem_union, Set.mem_ofPred_eq, HwmonChip.temperatures_max, and_or_left,
      exists_or]
  rw [groupTemperatures, nvmlMax, chipsMax]
  exact Set.union_union_union_comm _ _ _ _

/-- Every group's temperatures are temperatures of group `max`. -/
theorem groupTemperatures_subset_max (group : CString) (nvml : Option NvmlTemperature)
    (chips : List HwmonChip) :
    groupTemperatures group nvml chips ⊆ groupTemperatures "max".toList nvml chips := by
  rintro temp (⟨-, reading⟩ | ⟨chip, known, listed, ⟨name, named, matched⟩, inside⟩)
  · exact Or.inl ⟨Or.inr rfl, reading⟩
  · exact Or.inr ⟨chip, known, listed, ⟨name, named, sensorGroupMatches_max matched⟩, inside⟩

/-! ## Listings -/

/-- A chip, its directory listed in another order. -/
structure HwmonChip.Relisted (chip other : HwmonChip) : Prop where
  entry : chip.entry = other.entry
  name : chip.name = other.name
  inputs : Option.Rel List.Perm chip.inputs other.inputs

/-- A hwmon tree, listed in another order. -/
def Relisted (chips others : List HwmonChip) : Prop :=
  ∃ ordered, List.Forall₂ HwmonChip.Relisted chips ordered ∧ ordered.Perm others

theorem HwmonChip.Relisted.temperatures {chip other : HwmonChip} (relisted : chip.Relisted other)
    (group : CString) : chip.temperatures group = other.temperatures group := by
  obtain ⟨entry, name, inputs, path⟩ := chip
  obtain ⟨otherEntry, otherName, otherInputs, otherPath⟩ := other
  obtain ⟨sameEntry, sameName, listings⟩ := relisted
  cases sameEntry
  cases sameName
  cases listings with
  | some perm =>
      ext temp
      simp [HwmonChip.temperatures, valuesOf_perm perm]
  | none => rfl

/-- Both listings show the same temperatures. -/
theorem groupTemperatures_relisted {chips others : List HwmonChip}
    (relisted : Relisted chips others) (group : CString) (nvml : Option NvmlTemperature) :
    groupTemperatures group nvml chips = groupTemperatures group nvml others := by
  obtain ⟨ordered, chipwise, perm⟩ := relisted
  have same : List.Forall₂ (fun chip other => HwmonChip.temperatures group chip =
      HwmonChip.temperatures group other) chips ordered :=
    chipwise.imp fun _ _ chip => chip.temperatures group
  rw [groupTemperatures, groupTemperatures, valuesOf_forall₂ same, valuesOf_perm perm]

/-! ## Reads -/

theorem inputBest_keeps : KeepsGreatest (-1) inputBest HwmonInput.temperatures := by
  intro best floor input
  unfold inputBest
  split
  · rename_i skipped
    refine isGreatest_insert_of_empty best ?_
    refine Set.eq_empty_of_forall_notMem fun temp inside => ?_
    rw [inside.1, inside.2.1] at skipped
    exact absurd skipped (by decide)
  · rename_i taken
    simp only [Bool.or_eq_true, Bool.not_eq_true', not_or, Bool.not_eq_false] at taken
    split
    · rename_i hotter
      refine ⟨Or.inr ⟨taken.1, taken.2, rfl, by omega⟩, ?_⟩
      rintro temp (rfl | ⟨-, -, rfl, -⟩)
      · exact le_of_lt hotter
      · exact le_refl _
    · rename_i colder
      refine ⟨Or.inl rfl, ?_⟩
      rintro temp (rfl | ⟨-, -, rfl, -⟩)
      · exact le_refl _
      · exact le_of_not_gt colder

/-- A chip that the scan passes by has no temperatures. -/
theorem HwmonChip.temperatures_passed {group : CString} {chip : HwmonChip}
    (passed : ∀ name ∈ chip.name, ∀ inputs ∈ chip.inputs, chip.entry.head? ≠ some '.' →
      sensorGroupMatches group (name.take 128) ≠ true) :
    chip.temperatures group = ∅ := by
  refine Set.eq_empty_of_forall_notMem fun temp inside => ?_
  obtain ⟨listed, ⟨name, named, matched⟩, inputs, opened, -⟩ := inside
  exact passed name named inputs opened listed matched

theorem chipBest_keeps (group : CString) :
    KeepsGreatest (-1) (chipBest group) (HwmonChip.temperatures group) := by
  intro best floor chip
  have passing : chip.temperatures group = ∅ →
      IsGreatest (insert best (chip.temperatures group)) best :=
    isGreatest_insert_of_empty best
  unfold chipBest
  split
  · rename_i hidden
    exact passing (HwmonChip.temperatures_passed fun _ _ _ _ listed => absurd hidden listed)
  · rename_i listed
    split
    · rename_i name inputs named opened
      split
      · rename_i matched
        have scanned : chip.temperatures group = valuesOf HwmonInput.temperatures inputs := by
          ext temp
          simp [HwmonChip.temperatures, listed, named, opened, matched]
        rw [scanned]
        exact inputBest_keeps.foldl inputs floor
      · rename_i unmatched
        refine passing (HwmonChip.temperatures_passed fun other known _ _ _ => ?_)
        rw [named] at known
        cases known
        exact unmatched
    · rename_i unread
      refine passing (HwmonChip.temperatures_passed fun name named inputs opened => ?_)
      exact absurd opened (unread name inputs named)

/-- A read starts from NVML's temperature, or from -1. -/
theorem nvmlStart_greatest (sensors : Sensors) (group : CString) :
    IsGreatest (insert (-1) (nvmlTemperatures group sensors.nvml))
      (if group = "gpu".toList ∨ group = "max".toList then sensorReadNvidiaMlC sensors else -1) := by
  split
  · rename_i asks
    unfold sensorReadNvidiaMlC
    split
    · rename_i absent
      exact isGreatest_insert_of_empty (-1) (by simp [nvmlTemperatures, absent])
    · rename_i reading present
      refine ⟨Or.inr ⟨asks, reading, present, rfl⟩, ?_⟩
      rintro temp (rfl | ⟨-, other, known, rfl⟩)
      · omega
      · rw [present] at known
        cases known
        exact le_refl _
  · rename_i asksNot
    exact isGreatest_insert_of_empty (-1)
      (Set.eq_empty_of_forall_notMem fun temp inside => asksNot inside.1)

/-- The hottest reading of a group. -/
theorem sensorReadGroupMaxC_greatest {sensors : Sensors} {chips : List HwmonChip}
    (noFakes : sensors.NoFakes) (opened : sensors.hwmon = some chips) (group : CString) :
    GreatestOr (-1) (groupTemperatures group sensors.nvml chips)
      (sensorReadGroupMaxC sensors group) := by
  have start := nvmlStart_greatest sensors group
  rw [← isGreatest_insert_iff fun _ => groupTemperatures_above, sensorReadGroupMaxC,
    fakeTempC_of_noFakes noFakes]
  simp only [opened]
  rw [if_neg (by decide)]
  exact isGreatest_insert_union start
    ((chipBest_keeps group).foldl chips (start.2 (Set.mem_insert _ _)))

theorem sensorReadGroupMaxC_closed {sensors : Sensors} (noFakes : sensors.NoFakes)
    (closed : sensors.hwmon = none) (group : CString) : sensorReadGroupMaxC sensors group = -1 := by
  rw [sensorReadGroupMaxC, fakeTempC_of_noFakes noFakes]
  simp only [closed]
  exact if_neg (by decide)

/-- Without fake temperatures no reading is below -1. -/
theorem sensorReadGroupMaxC_ge {sensors : Sensors} (noFakes : sensors.NoFakes) (group : CString) :
    -1 ≤ sensorReadGroupMaxC sensors group := by
  cases tree : sensors.hwmon with
  | none => rw [sensorReadGroupMaxC_closed noFakes tree]
  | some chips =>
      have greatest := sensorReadGroupMaxC_greatest noFakes tree group
      rw [← isGreatest_insert_iff fun _ => groupTemperatures_above] at greatest
      exact greatest.2 (Set.mem_insert _ _)

/-- No group reads hotter than group `max`. -/
theorem group_le_max {sensors : Sensors} (noFakes : sensors.NoFakes) (group : CString) :
    sensorReadGroupMaxC sensors group ≤ sensorReadGroupMaxC sensors "max".toList := by
  cases tree : sensors.hwmon with
  | none =>
      rw [sensorReadGroupMaxC_closed noFakes tree, sensorReadGroupMaxC_closed noFakes tree]
  | some chips =>
      exact (sensorReadGroupMaxC_greatest noFakes tree group).mono
        (groupTemperatures_subset_max group _ chips) (fun _ => groupTemperatures_above)
        (sensorReadGroupMaxC_greatest noFakes tree _)

/-- A group's reading is its hottest temperature, or -1 if it has none.  The order of the
listings does not matter, and group `max` reads as the hotter component. -/
theorem sensorReadGroupMaxC_hottest {sensors : Sensors} {chips : List HwmonChip}
    (noFakes : sensors.NoFakes) (opened : sensors.hwmon = some chips) :
    (∀ group, GreatestOr (-1) (groupTemperatures group sensors.nvml chips)
      (sensorReadGroupMaxC sensors group)) ∧
    (∀ others, Relisted chips others → ∀ group,
      sensorReadGroupMaxC { sensors with hwmon := some others } group =
        sensorReadGroupMaxC sensors group) ∧
    sensorReadGroupMaxC sensors "max".toList =
      max (sensorReadGroupMaxC sensors "cpu".toList) (sensorReadGroupMaxC sensors "gpu".toList) := by
  have hottest := sensorReadGroupMaxC_greatest noFakes opened
  refine ⟨hottest, fun others relisted group => ?_, ?_⟩
  · have noFakesThere : Sensors.NoFakes { sensors with hwmon := some others } := noFakes
    have there := sensorReadGroupMaxC_greatest noFakesThere rfl group
    rw [← groupTemperatures_relisted relisted] at there
    exact there.unique (hottest group)
  · have both := GreatestOr.union (fun _ => groupTemperatures_above)
      (fun _ => groupTemperatures_above) (hottest "cpu".toList) (hottest "gpu".toList)
    rw [← groupTemperatures_max] at both
    exact (hottest "max".toList).unique both

/-- A processor at 61 degrees and a graphics chip with one failing input. -/
def laptopSensors : Sensors where
  hwmon := some [
    { entry := "hwmon0".toList
      name := some "coretemp\n".toList
      inputs := some [⟨"temp1_input".toList, some "61000\n".toList⟩,
        ⟨"temp1_max".toList, some "100000\n".toList⟩] },
    { entry := "hwmon1".toList
      name := some "amdgpu\n".toList
      inputs := some [⟨"temp1_input".toList, none⟩, ⟨"temp2_input".toList, some "48500\n".toList⟩] }]

theorem sensorReadGroupMaxC_hottest_laptop :
    max (sensorReadGroupMaxC laptopSensors "cpu".toList)
      (sensorReadGroupMaxC laptopSensors "gpu".toList) = 61 := by
  have noFakes : laptopSensors.NoFakes := ⟨rfl, rfl⟩
  obtain ⟨-, -, components⟩ := sensorReadGroupMaxC_hottest noFakes rfl
  have read : sensorReadGroupMaxC laptopSensors "max".toList = 61 := by decide
  exact components.symm.trans read

end NitroSense
