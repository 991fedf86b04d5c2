import Mathlib.Data.Int.Order.Basic
import NitroSense.Text

/-!
# Temperature sensors

`sensors/`: the hottest reading of a sensor group, taken from the hwmon tree
and NVML, and the runtime power policy of the matching devices.  The tree is
data: directory entries in the order `readdir` lists them, with the texts the
files hold and `none` for what cannot be opened.
-/

namespace NitroSense

/-- A directory entry of a chip, with the file's text when it can be read. -/
structure HwmonInput where
  entry : CString
  text : Option CString
  deriving DecidableEq, Repr

/-- A hwmon chip, with the `power/control` path that `find_power_control_path` finds for it. -/
structure HwmonChip where
  entry : CString
  name : Option CString
  inputs : Option (List HwmonInput)
  powerControlPath : Option CString := none
  deriving DecidableEq, Repr

/-- NVML reports degrees Celsius, so the cast to `int` keeps the value. -/
structure NvmlTemperature where
  degrees : Nat
  isInt : degrees < 2 ^ 31

structure PowerControlFile where
  text : Option CString
  writable : Bool

/-- Everything `sensors/` looks at. -/
structure Sensors where
  hwmon : Option (List HwmonChip)
  nvml : Option NvmlTemperature := none
  powerControl : CString → PowerControlFile := fun _ => ⟨none, false⟩
  fakeCpuTempC : Option CString := none
  fakeGpuTempC : Option CString := none

/-- Neither fake-temperature variable is set. -/
def Sensors.NoFakes (sensors : Sensors) : Prop :=
  sensors.fakeCpuTempC = none ∧ sensors.fakeGpuTempC = none

/-- The chip names of the two components. -/
def componentMatches (component name : CString) : Bool :=
  if component = "cpu".toList then
    stringContainsCase name "coretemp".toList || stringContainsCase name "k10temp".toList ||
      stringContainsCase name "zenpower".toList
  else if component = "gpu".toList then
    stringContainsCase name "amdgpu".toList || stringContainsCase name "nvidia".toList ||
      stringContainsCase name "nouveau".toList || stringContainsCase name "radeon".toList
  else false

/-- `sensor_group_matches`: group `max` is both components. -/
def sensorGroupMatches (group name : CString) : Bool :=
  if group = "max".toList then
    componentMatches "cpu".toList name || componentMatches "gpu".toList name
  else componentMatches group name

/-- The fake temperature of one component, -1 unless the variable is a numeral in 0-130. -/
def fakeComponentTempC (sensors : Sensors) (component : CString) : Int :=
  let env :=
    if component = "cpu".toList then sensors.fakeCpuTempC
    else if component = "gpu".toList then sensors.fakeGpuTempC
    else none
  match env with
  | none => -1
  | some text =>
      let temp := strtol 10 text
      if text = [] || !temp.converted || temp.rest ≠ [] || temp.value < 0 || temp.value > 130 then
        -1
      else temp.value

def sensorReadFakeTempC (sensors : Sensors) (group : CString) : Int :=
  if group = "max".toList then
    let cpuTemp := fakeComponentTempC sensors "cpu".toList
    let gpuTemp := fakeComponentTempC sensors "gpu".toList
    if cpuTemp < 0 then gpuTemp
    else if gpuTemp < 0 then cpuTemp
    else if cpuTemp > gpuTemp then cpuTemp else gpuTemp
  else fakeComponentTempC sensors group

def sensorReadNvidiaMlC (sensors : Sensors) : Int :=
  match sensors.nvml with
  | none => -1
  | some temp => temp.degrees

/-- `read_temp_file_c`: the first 64 bytes as millidegrees, cast to a 32-bit `int`. -/
def readTempFileC (file : Option CString) : Int :=
  match file with
  | none => -1
  | some text =>
      let milli := strtol 10 (text.take 64)
      if !milli.inRange || !milli.converted || milli.value ≤ 0 then -1
      else (milli.value / 1000).bmod (2 ^ 32)

/-- One entry of a chip directory. -/
def inputBest (best : Int) (input : HwmonInput) : Int :=
  if !"temp".toList.isPrefixOf input.entry || !stringContainsCase input.entry "_input".toList then
    best
  else if readTempFileC input.text > best then readTempFileC input.text else best

/-- One entry of `/sys/class/hwmon`. -/
def chipBest (group : CString) (best : Int) (chip : HwmonChip) : Int :=
  if chip.entry.head? = some '.' then best
  else
    match chip.name, chip.inputs with
    | some name, some inputs =>
        if sensorGroupMatches group (name.take 128) then inputs.foldl inputBest best else best
    | _, _ => best

def sensorReadGroupMaxC (sensors : Sensors) (group : CString) : Int :=
  let fakeTemp := sensorReadFakeTempC sensors group
  if fakeTemp ≥ 0 then fakeTemp
  else
    match sensors.hwmon with
    | none => -1
    | some chips =>
        chips.foldl (chipBest group)
          (if group = "gpu".toList ∨ group = "max".toList then sensorReadNvidiaMlC sensors else -1)

/-! ## Groups -/

theorem fakeTempC_of_noFakes {sensors : Sensors} (noFakes : sensors.NoFakes) (group : CString) :
    sensorReadFakeTempC sensors group = -1 := by
  have component (name : CString) : fakeComponentTempC sensors name = -1 := by
    simp [fakeComponentTempC, noFakes.1, noFakes.2]
  simp [sensorReadFakeTempC, component]

/-- Every chip a group matches is matched by group `max`. -/
theorem sensorGroupMatches_max {group name : CString}
    (matched : sensorGroupMatches group name = true) :
    sensorGroupMatches "max".toList name = true := by
  rw [sensorGroupMatches, if_pos rfl, Bool.or_eq_true]
  rw [sensorGroupMatches] at matched
  split at matched
  · exact Bool.or_eq_true _ _ ▸ matched
  · by_cases cpu : group = "cpu".toList
    · exact Or.inl (cpu ▸ matched)
    · by_cases gpu : group = "gpu".toList
      · exact Or.inr (gpu ▸ matched)
      · rw [componentMatches, if_neg cpu, if_neg gpu] at matched
        cases matched

/-! ## Runtime power policy -/

def sensorHwmonEntryPowerControlPath (chip : HwmonChip) (group : CString) : Option CString :=
  if chip.entry.head? = some '.' then none
  else
    match chip.name with
    | none => none
    | some name =>
        if sensorGroupMatches group (name.take 128) then chip.powerControlPath else none

/-- `write_entry_power_control`: the new files, and whether the write succeeded. -/
def writeEntryPowerControl (files : CString → PowerControlFile) (chip : HwmonChip)
    (group control : CString) : (CString → PowerControlFile) × Bool :=
  match sensorHwmonEntryPowerControlPath chip group with
  | none => (files, false)
  | some path =>
      if (files path).writable then
        (fun other => if other = path then ⟨some (control ++ "\n".toList), true⟩ else files other,
          true)
      else (files, false)

/-- `sensor_set_group_power_control`: the number of files written, -1 without a hwmon tree. -/
def sensorSetGroupPowerControl (sensors : Sensors) (group control : CString) : Sensors × Int :=
  match sensors.hwmon with
  | none => (sensors, -1)
  | some chips =>
      let written := chips.foldl (fun acc chip =>
        let entry := writeEntryPowerControl acc.1 chip group control
        (entry.1, if entry.2 then acc.2 + 1 else acc.2)) (sensors.powerControl, (0 : Int))
      ({ sensors with powerControl := written.1 }, written.2)

/-- `read_power_control`: the trimmed text, when it fits the caller's buffer. -/
def readPowerControl (file : PowerControlFile) (outLen : Nat) : Option CString :=
  file.text.bind fun text =>
    let trimmed := trimAscii (text.take 64)
    if trimmed.length < outLen then some trimmed else none

/-- `sensor_read_group_power_control`: the first matching entry that can be read. -/
def sensorReadGroupPowerControl (sensors : Sensors) (group : CString) (outLen : Nat) :
    Option CString :=
  (sensors.hwmon.getD []).findSome? fun chip =>
    (sensorHwmonEntryPowerControlPath chip group).bind fun path =>
      readPowerControl (sensors.powerControl path) outLen

end NitroSense
