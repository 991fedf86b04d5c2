import NitroSense.Platform.Power

/-!
# The power source in any order

`read_power_source` stops at the first mains supply that is online and
otherwise keeps two flags.  Its answer depends on which supplies there are,
not on the order that `readdir` lists them in.
-/

namespace NitroSense

/-- The text that `read_trimmed_file` reads, before it is copied to a buffer. -/
def trimmedFile (file : Option CString) : Option CString :=
  file.map fun text => trimAscii (text.take 4096)

def PowerSupply.HasType (supply : PowerSupply) (type : CString) : Prop :=
  supply.entry.head? ≠ some '.' ∧ trimmedFile supply.type = some type

def PowerSupply.IsBattery (supply : PowerSupply) : Prop := supply.HasType "Battery".toList

def PowerSupply.IsMains (supply : PowerSupply) : Prop :=
  ∃ type, powerSupplyTypeIsMains type = true ∧ supply.HasType type

def PowerSupply.IsOnlineMains (supply : PowerSupply) : Prop :=
  supply.IsMains ∧ trimmedFile supply.online = some "1".toList

open Classical in
/-- The rule of the detection. -/
noncomputable def sourceWhen (online battery mains : Prop) : PowerSource :=
  if online then .ac else if battery then .battery else if mains then .ac else .unknown

noncomputable def powerSourceOf (supplies : List PowerSupply) : PowerSource :=
  sourceWhen (∃ supply ∈ supplies, supply.IsOnlineMains)
    (∃ supply ∈ supplies, supply.IsBattery) (∃ supply ∈ supplies, supply.IsMains)

/-- The order of the supplies does not matter. -/
theorem powerSourceOf_perm {supplies others : List PowerSupply} (perm : supplies.Perm others) :
    powerSourceOf supplies = powerSourceOf others := by
  simp only [powerSourceOf, perm.mem_iff]

/-! ## Types -/

/-- The buffers are longer than the texts they are compared with. -/
theorem readTrimmedFile_eq_iff {outLen : Nat} {text : CString} (short : text.length + 1 < outLen)
    (file : Option CString) :
    readTrimmedFile file outLen = some text ↔ trimmedFile file = some text := by
  cases file with
  | none => simp [readTrimmedFile, trimmedFile]
  | some content => simp [readTrimmedFile, trimmedFile, stringCopy_eq_iff short]

theorem powerSupplyTypeIsMains_short {type : CString} (mains : powerSupplyTypeIsMains type = true) :
    type.length + 1 < 64 := by
  simp only [powerSupplyTypeIsMains, Bool.or_eq_true, decide_eq_true_eq] at mains
  rcases mains with ((rfl | rfl) | rfl) | rfl <;> decide

theorem PowerSupply.isBattery_iff {supply : PowerSupply} (listed : supply.entry.head? ≠ some '.') :
    supply.IsBattery ↔ readTrimmedFile supply.type 64 = some "Battery".toList := by
  rw [readTrimmedFile_eq_iff (by decide)]
  exact and_iff_right listed

theorem PowerSupply.isMains_iff {supply : PowerSupply} (listed : supply.entry.head? ≠ some '.') :
    supply.IsMains ↔
      ∃ type, powerSupplyTypeIsMains type = true ∧ readTrimmedFile supply.type 64 = some type := by
  refine exists_congr fun type => and_congr_right fun mains => ?_
  rw [readTrimmedFile_eq_iff (powerSupplyTypeIsMains_short mains)]
  exact and_iff_right listed

/-! ## The scan -/

/-- The scan goes on after a supply with the flags that the supply leaves. -/
def PassesOn (supply : PowerSupply) (hasBattery hasMains battery mains : Bool) : Prop :=
  ¬ supply.IsOnlineMains ∧ (battery = true ↔ hasBattery = true ∨ supply.IsBattery) ∧
    (mains = true ↔ hasMains = true ∨ supply.IsMains)

/-- A supply without a type leaves the flags as they are. -/
theorem passesOn_typeless {supply : PowerSupply} (typeless : ∀ type, ¬ supply.HasType type)
    (hasBattery hasMains : Bool) : PassesOn supply hasBattery hasMains hasBattery hasMains := by
  simp [PassesOn, PowerSupply.IsOnlineMains, PowerSupply.IsMains, PowerSupply.IsBattery, typeless]

/-- One supply ends the scan, or sets the flag of its kind. -/
theorem scanPowerSupplies_cons (supply : PowerSupply) (rest : List PowerSupply)
    (hasBattery hasMains : Bool) :
    supply.IsOnlineMains ∧ scanPowerSupplies (supply :: rest) hasBattery hasMains = .ac ∨
    ∃ battery mains, PassesOn supply hasBattery hasMains battery mains ∧
      scanPowerSupplies (supply :: rest) hasBattery hasMains =
        scanPowerSupplies rest battery mains := by
  rw [scanPowerSupplies]
  split
  · rename_i hidden
    exact Or.inr ⟨_, _, passesOn_typeless (fun type has => has.1 hidden) _ _, rfl⟩
  · rename_i listed
    split
    · rename_i unread
      have typeless (type : CString) : ¬ supply.HasType type := by
        intro has
        rw [readTrimmedFile, Option.map_eq_none_iff] at unread
        simp [PowerSupply.HasType, trimmedFile, unread] at has
      exact Or.inr ⟨_, _, passesOn_typeless typeless _ _, rfl⟩
    · rename_i type read
      have isBattery : supply.IsBattery ↔ type = "Battery".toList := by
        rw [PowerSupply.isBattery_iff listed, read, Option.some.injEq]
      have isMains : supply.IsMains ↔ powerSupplyTypeIsMains type = true := by
        simp [PowerSupply.isMains_iff listed, read]
      split
      · rename_i battery
        have mainsNot : ¬ supply.IsMains := by
          rw [isMains, battery]
          decide
        exact Or.inr ⟨_, _, ⟨fun online => mainsNot online.1,
          iff_of_true rfl (Or.inr (isBattery.mpr battery)), (or_iff_left mainsNot).symm⟩, rfl⟩
      · rename_i other
        have batteryNot : ¬ supply.IsBattery := fun battery => other (isBattery.mp battery)
        split
        · rename_i neither
          have mainsNot : ¬ supply.IsMains := by
            rw [isMains]
            simpa using neither
          exact Or.inr ⟨_, _, ⟨fun online => mainsNot online.1,
            (or_iff_left batteryNot).symm, (or_iff_left mainsNot).symm⟩, rfl⟩
        · rename_i known
          have mains : supply.IsMains := isMains.mpr (by simpa using known)
          split
          · rename_i online
            exact Or.inl ⟨⟨mains, (readTrimmedFile_eq_iff (by decide) _).mp online⟩, rfl⟩
          · rename_i offline
            exact Or.inr ⟨_, _,
              ⟨fun found => offline ((readTrimmedFile_eq_iff (by decide) _).mpr found.2),
                (or_iff_left batteryNot).symm, iff_of_true rfl (Or.inr mains)⟩, rfl⟩

/-- The scan finds what there is among the remaining supplies. -/
theorem scanPowerSupplies_eq (supplies : List PowerSupply) (hasBattery hasMains : Bool) :
    scanPowerSupplies supplies hasBattery hasMains =
      sourceWhen (∃ supply ∈ supplies, supply.IsOnlineMains)
        (hasBattery = true ∨ ∃ supply ∈ supplies, supply.IsBattery)
        (hasMains = true ∨ ∃ supply ∈ supplies, supply.IsMains) := by
  induction supplies generalizing hasBattery hasMains with
  | nil => simp [scanPowerSupplies, sourceWhen]
  | cons supply rest ih =>
      simp only [List.exists_mem_cons_iff, ← or_assoc]
      rcases scanPowerSupplies_cons supply rest hasBattery hasMains with
        ⟨online, ended⟩ | ⟨battery, mains, ⟨onlineNot, isBattery, isMains⟩, passed⟩
      · rw [ended, sourceWhen, if_pos (Or.inl online)]
      · rw [passed, ih, isBattery, isMains]
        simp only [onlineNot, false_or]

/-- AC if some mains supply is online, otherwise battery if there is one, otherwise AC if there is a
mains supply: the order of the listing does not matter. -/
theorem readPowerSource_anyOrder {supplies : PowerSupplies}
    (noFake : fakePowerSource supplies = .unknown) {entries others : List PowerSupply}
    (listed : supplies.entries = some entries) (perm : entries.Perm others) :
    readPowerSource supplies = powerSourceOf entries ∧
      readPowerSource { supplies with entries := some others } = readPowerSource supplies := by
  have noFakeThere : fakePowerSource { supplies with entries := some others } = .unknown := noFake
  have scanned (listing : List PowerSupply) :
      scanPowerSupplies listing false false = powerSourceOf listing := by
    rw [scanPowerSupplies_eq, powerSourceOf]
    simp only [Bool.false_eq_true, false_or]
  have here : readPowerSource supplies = powerSourceOf entries := by
    rw [readPowerSource, noFake, if_neg (by decide), listed]
    exact scanned entries
  refine ⟨here, ?_⟩
  rw [readPowerSource, noFakeThere, if_neg (by decide), here, powerSourceOf_perm perm]
  exact scanned others

/-- An adapter that is not plugged in, and a battery. -/
def unpluggedSupplies : PowerSupplies where
  entries := some [⟨"ACAD".toList, some "Mains\n".toList, some "0\n".toList⟩,
    ⟨"BAT1".toList, some "Battery\n".toList, none⟩]

theorem readPowerSource_anyOrder_unplugged :
    readPowerSource { unpluggedSupplies with entries := unpluggedSupplies.entries.map List.reverse } =
      .battery := by
  have noFake : fakePowerSource unpluggedSupplies = .unknown := by decide
  have reversed := (readPowerSource_anyOrder noFake rfl (List.reverse_perm _).symm).2
  exact reversed.trans (by decide)

end NitroSense
