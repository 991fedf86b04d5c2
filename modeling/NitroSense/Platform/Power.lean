import NitroSense.Config
import NitroSense.Ec
import NitroSense.Sensors
import NitroSense.Lib.Loop

/-!
# Platform profiles, the power source and sensor power

`platform/profile.c`, `platform/power_source.c` and `platform/sensor_power.c`.
-/

namespace NitroSense

open Lib EcDevice

def applyPlatformProfile (ec : EcDevice) (cfg : AnsConfig) (profile : CString) : EcDevice × Bool :=
  if cfg.platformProfiles.available = false then (ec, false)
  else
    match configFindPlatformProfile cfg profile with
    | none => (ec, false)
    | some entry => ecWriteByte ec cfg.platformProfiles.reg entry.value

def platformProfileValueName (cfg : AnsConfig) (value : Int) : CString :=
  match cfg.platformProfiles.profiles.find? fun profile => profile.value = value with
  | none => "unknown".toList
  | some profile => profile.id

/-- `read_platform_profile`: -1 when the read failed or there are no profiles. -/
def readPlatformProfile (ec : EcDevice) (cfg : AnsConfig) : EcDevice × Int :=
  if cfg.platformProfiles.available = false then (ec, -1)
  else ecReadByte ec cfg.platformProfiles.reg

inductive PowerSource where
  | unknown
  | ac
  | battery
  deriving DecidableEq, Repr

def PowerSource.name : PowerSource → CString
  | unknown => "unknown".toList
  | ac => "ac".toList
  | battery => "battery".toList

/-- A directory of `/sys/class/power_supply`, with the files that can be read. -/
structure PowerSupply where
  entry : CString
  type : Option CString
  online : Option CString
  deriving DecidableEq, Repr

structure PowerSupplies where
  entries : Option (List PowerSupply) := none
  fake : Option CString := none
  deriving DecidableEq, Repr

/-- `read_trimmed_file` into a buffer of `outLen` bytes. -/
def readTrimmedFile (file : Option CString) (outLen : Nat) : Option CString :=
  file.map fun text => (stringCopy outLen (trimAscii (text.take 4096))).1

def powerSupplyTypeIsMains (type : CString) : Bool :=
  type = "Mains".toList || type = "USB".toList || type = "USB-C".toList || type = "USB_PD".toList

/-- The loop of `read_power_source` over the remaining entries. -/
def scanPowerSupplies : List PowerSupply → Bool → Bool → PowerSource
  | [], hasBattery, hasMains =>
      if hasBattery then .battery else if hasMains then .ac else .unknown
  | supply :: rest, hasBattery, hasMains =>
      if supply.entry.head? = some '.' then scanPowerSupplies rest hasBattery hasMains
      else
        match readTrimmedFile supply.type 64 with
        | none => scanPowerSupplies rest hasBattery hasMains
        | some type =>
            if type = "Battery".toList then scanPowerSupplies rest true hasMains
            else if !powerSupplyTypeIsMains type then scanPowerSupplies rest hasBattery hasMains
            else if readTrimmedFile supply.online 16 = some "1".toList then .ac
            else scanPowerSupplies rest hasBattery true

def fakePowerSource (supplies : PowerSupplies) : PowerSource :=
  if supplies.fake = some "ac".toList then .ac
  else if supplies.fake = some "battery".toList then .battery
  else .unknown

def readPowerSource (supplies : PowerSupplies) : PowerSource :=
  if fakePowerSource supplies ≠ .unknown then fakePowerSource supplies
  else
    match supplies.entries with
    | none => .unknown
    | some entries => scanPowerSupplies entries false false

def powerSourceProfilePolicyAvailable (cfg : AnsConfig) : Bool :=
  cfg.platformProfiles.available && cfg.powerSourceProfiles.acProfile ≠ [] &&
    cfg.powerSourceProfiles.batteryProfile ≠ []

def powerSourceProfileFor (cfg : AnsConfig) (source : PowerSource) : Option CString :=
  if powerSourceProfilePolicyAvailable cfg = false then none
  else
    match source with
    | .ac => some cfg.powerSourceProfiles.acProfile
    | .battery => some cfg.powerSourceProfiles.batteryProfile
    | .unknown => none

def applyPowerSourceProfile (ec : EcDevice) (cfg : AnsConfig) (source : PowerSource) :
    EcDevice × Bool :=
  match powerSourceProfileFor cfg source with
  | none => (ec, false)
  | some profile => applyPlatformProfile ec cfg profile

/-- The policy `apply_sensor_power_control` picks for one fan; empty means none. -/
def sensorPowerTarget (fan : FanConfig) (control : CString) : CString :=
  if control = "auto".toList ∧ fan.sensorPowerControl ≠ [] then "auto".toList
  else if fan.sensorPowerControl ≠ [] then fan.sensorPowerControl
  else if fan.keepAwake then control
  else []

def applySensorPowerControl (cfg : AnsConfig) (sensors : Sensors) (control : CString) : Sensors :=
  loop cfg.fanLen
    (fun i sensors =>
      let target := sensorPowerTarget (cfg.fan i) control
      if target = [] then sensors
      else (sensorSetGroupPowerControl sensors (cfg.fan i).sensorGroup target).1)
    sensors

/-- In an accepted profile every power source with a policy names a platform profile. -/
theorem powerSourceProfileFor_found {cfg : AnsConfig} (valid : cfg.Valid) {source : PowerSource}
    {profile : CString} (target : powerSourceProfileFor cfg source = some profile) :
    cfg.platformProfiles.available = true ∧
      (configFindPlatformProfile cfg profile).isSome = true := by
  unfold powerSourceProfileFor at target
  split at target
  · cases target
  · rename_i policy
    have present : powerSourceProfilePolicyAvailable cfg = true := by simpa using policy
    simp only [powerSourceProfilePolicyAvailable, Bool.and_eq_true, decide_eq_true_eq] at present
    obtain ⟨⟨available, hasAc⟩, _⟩ := present
    rcases valid.powerSourceProfiles with ⟨noAc, _⟩ | ⟨_, acFound, batteryFound⟩
    · exact absurd noAc hasAc
    · cases source with
      | unknown => cases target
      | ac => exact ⟨available, Option.some.inj target ▸ acFound⟩
      | battery => exact ⟨available, Option.some.inj target ▸ batteryFound⟩

/-- Applying the profile of a power source succeeds exactly when its write does. -/
theorem applyPowerSourceProfile_ok {cfg : AnsConfig} (valid : cfg.Valid) (ec : EcDevice)
    {source : PowerSource} {profile : CString}
    (target : powerSourceProfileFor cfg source = some profile) :
    (applyPowerSourceProfile ec cfg source).2 = ec.nextWriteOk := by
  obtain ⟨available, found⟩ := powerSourceProfileFor_found valid target
  obtain ⟨entry, known⟩ := Option.isSome_iff_exists.mp found
  simp [applyPowerSourceProfile, target, applyPlatformProfile, available, known]

/-! ## What profiles touch -/

theorem applyPlatformProfile_writesWithin {allowed : Int → Prop} {ec : EcDevice} {cfg : AnsConfig}
    (profile : CString)
    (inside : cfg.platformProfiles.available = true → allowed cfg.platformProfiles.reg) :
    WritesWithin allowed ec (applyPlatformProfile ec cfg profile).1 := by
  unfold applyPlatformProfile
  cases available : cfg.platformProfiles.available with
  | false => exact WritesWithin.refl ec
  | true =>
      rw [if_neg (by decide)]
      split
      · exact WritesWithin.refl ec
      · exact ecWriteByte_writesWithin ec _ (inside available)

theorem applyPowerSourceProfile_writesWithin {allowed : Int → Prop} {ec : EcDevice}
    {cfg : AnsConfig} (source : PowerSource)
    (inside : cfg.platformProfiles.available = true → allowed cfg.platformProfiles.reg) :
    WritesWithin allowed ec (applyPowerSourceProfile ec cfg source).1 := by
  unfold applyPowerSourceProfile
  split
  · exact WritesWithin.refl ec
  · exact applyPlatformProfile_writesWithin _ inside

theorem readPlatformProfile_onlyRead (ec : EcDevice) (cfg : AnsConfig) :
    OnlyRead ec (readPlatformProfile ec cfg).1 := by
  unfold readPlatformProfile
  split
  · exact OnlyRead.refl ec
  · exact ecReadByte_onlyRead ec _

end NitroSense
