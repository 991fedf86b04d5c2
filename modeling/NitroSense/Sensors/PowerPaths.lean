import NitroSense.Lib.Paths
import NitroSense.Sensors

/-!
# Where a power policy is written

`sensors/power_paths.c`: from the directory of a hwmon chip the search goes up
to the nearest PCI device that has a `power/control` file.
-/

namespace NitroSense

open Lib

def parentDir (path : CString) : CString :=
  match path.reverse.dropWhile (· != '/') with
  | [] | ['/'] => "/".toList
  | _ :: dir => dir.reverse

/-- What stands behind the last slash. -/
def baseName (path : CString) : CString := (path.reverse.takeWhile (· != '/')).reverse

def isXDigit (c : Char) : Bool := decide (digitValue c < 16)

def isPciDeviceDirName (name : CString) : Bool :=
  name.length == 12 && name[4]? == some ':' && name[7]? == some ':' && name[10]? == some '.' &&
    (List.range 12).all fun i => i == 4 || i == 7 || i == 10 || (name[i]?.map isXDigit).getD false

/-- `sensor_path_join`, when there is memory for it. -/
def sensorPathJoin (left right : CString) : CString :=
  if left ≠ [] ∧ left.getLast? ≠ some '/' then left ++ ('/' :: right) else left ++ right

theorem parentDir_shorter (path : CString) :
    parentDir path = "/".toList ∨ (parentDir path).length < path.length := by
  unfold parentDir
  split
  · exact Or.inl rfl
  · exact Or.inl rfl
  · rename_i c dir _ found
    refine Or.inr ?_
    have suffix := (List.dropWhile_suffix (l := path.reverse) (· != '/')).length_le
    rw [found, List.length_reverse] at suffix
    rw [List.length_reverse]
    exact suffix

def findPowerControlLoop (exists_ : CString → Bool) (outLen : Nat) (path : CString) :
    Option CString :=
  if _below : path ≠ "/".toList then
    let candidate := sensorPathJoin path "power/control".toList
    if isPciDeviceDirName (baseName path) ∧ exists_ candidate then
      if candidate.length ≥ outLen then none else some candidate
    else findPowerControlLoop exists_ outLen (parentDir path)
  else none
termination_by if path = "/".toList then 0 else path.length + 1
decreasing_by
  rw [if_neg _below]
  rcases parentDir_shorter path with root | shorter
  · rw [root, if_pos rfl]
    exact Nat.succ_pos _
  · split
    · exact Nat.succ_pos _
    · omega

/-- `find_power_control_path`, with the paths that `realpath` resolves. -/
def findPowerControlPath (realpath : CString → Option CString) (exists_ : CString → Bool)
    (outLen : Nat) (base : CString) : Option CString :=
  findPowerControlLoop exists_ outLen ((realpath base).getD (stringCopy 4096 base).1)

/-! ## The nearest device -/

def controlFile (names : List CString) : CString :=
  pathOf '/' names ++ "/power/control".toList

/-- A PCI device directory with a `power/control` file. -/
def controlledDevice (exists_ : CString → Bool) : List CString → Bool
  | [] => false
  | name :: names => isPciDeviceDirName name && exists_ (controlFile (name :: names))

/-- The control file of the nearest device at or above a directory. -/
def nearestControl (exists_ : CString → Bool) (outLen : Nat) (names : List CString) :
    Option CString :=
  ((names.tails.find? (controlledDevice exists_)).map controlFile).filter (·.length < outLen)

theorem baseName_cons {name : CString} (free : '/' ∉ name) (names : List CString) :
    baseName (pathOf '/' (name :: names)) = name := by
  rw [baseName, pathOf, (cut_last free (pathOf '/' names)).1, List.reverse_reverse]

/-- The parent of a path of names is the path of the names above. -/
theorem parentDir_cons {name : CString} (free : '/' ∉ name) (names : List CString) :
    parentDir (pathOf '/' (name :: names)) = rootedPath '/' names := by
  unfold parentDir
  rw [pathOf, (cut_last free (pathOf '/' names)).2]
  cases names with
  | nil => rfl
  | cons above names =>
      have behind : (pathOf '/' (above :: names)).reverse ≠ [] := by
        simpa using @pathOf_ne_nil _ '/' _ (List.cons_ne_nil above names)
      split
      · rename_i impossible
        cases impossible
      · rename_i impossible
        exact absurd (List.cons.inj impossible).2 behind
      · rename_i found
        rw [← (List.cons.inj found).2, List.reverse_reverse, rootedPath]

theorem sensorPathJoin_control {name : CString} (valid : name ≠ [] ∧ '/' ∉ name)
    (names : List CString) :
    sensorPathJoin (pathOf '/' (name :: names)) "power/control".toList =
      controlFile (name :: names) := by
  have last : (pathOf '/' (name :: names)).getLast? = name.getLast? := by
    rw [pathOf, List.getLast?_append, List.getLast?_cons,
      List.getLast?_eq_some_getLast valid.1]
    rfl
  have other : name.getLast? ≠ some '/' := fun same =>
    valid.2 (List.mem_of_getLast? same)
  rw [sensorPathJoin, if_pos ⟨pathOf_ne_nil (List.cons_ne_nil name names), last ▸ other⟩]
  rfl

/-- The loop finds the nearest device. -/
theorem findPowerControlLoop_nearest (exists_ : CString → Bool) (outLen : Nat)
    {names : List CString} (valid : PathNames '/' names) :
    findPowerControlLoop exists_ outLen (rootedPath '/' names) =
      nearestControl exists_ outLen names := by
  induction names with
  | nil =>
      have root : rootedPath '/' ([] : List CString) = "/".toList := rfl
      rw [findPowerControlLoop, dif_neg (not_not.mpr root)]
      rfl
  | cons name names ih =>
      obtain ⟨here, above⟩ := List.forall_mem_cons.mp valid
      have below : pathOf '/' (name :: names) ≠ "/".toList := pathOf_ne_root valid
      rw [rootedPath, findPowerControlLoop, dif_pos below, baseName_cons here.2,
        sensorPathJoin_control here, parentDir_cons here.2, ih above]
      dsimp only
      unfold nearestControl
      rw [List.tails, List.find?_cons]
      by_cases device : controlledDevice exists_ (name :: names) = true
      · rw [if_pos (Bool.and_eq_true _ _ ▸ device), device]
        by_cases long : (controlFile (name :: names)).length ≥ outLen
        · rw [if_pos long]
          simp [Option.filter, Nat.not_lt.mpr long]
        · rw [if_neg long]
          simp [Option.filter, Nat.not_le.mp long]
      · rw [if_neg (fun found => device (Bool.and_eq_true _ _ ▸ found)),
          Bool.eq_false_iff.mpr device]

/-! ## The devices of a sensor group -/

/-- What the search asks the file system. -/
structure DeviceTree where
  realpath : CString → Option CString
  fileExists : CString → Bool

/-- The directory that `readdir` lists for a chip. -/
def HwmonChip.base (chip : HwmonChip) : CString :=
  sensorPathJoin "/sys/class/hwmon".toList chip.entry

/-- The chip carries the path that the search finds in the tree. -/
def HwmonChip.Resolved (tree : DeviceTree) (chip : HwmonChip) : Prop :=
  chip.powerControlPath = findPowerControlPath tree.realpath tree.fileExists 4096 chip.base

/-- The real directory of a chip, or its entry when `realpath` fails. -/
inductive DeviceTree.Device (tree : DeviceTree) (chip : HwmonChip) : List CString → Prop
  | real {names : List CString} (valid : PathNames '/' names)
      (found : tree.realpath chip.base = some (rootedPath '/' names)) : tree.Device chip names
  | bare (valid : chip.entry ≠ [] ∧ '/' ∉ chip.entry) (short : chip.entry.length ≤ 255)
      (missing : tree.realpath chip.base = none) :
      tree.Device chip [chip.entry, "hwmon".toList, "class".toList, "sys".toList]

/-- The chips that a group's policy is written for. -/
def HwmonChip.inGroup (group : CString) (chip : HwmonChip) : Bool :=
  chip.entry.head? != some '.' &&
    (chip.name.map fun name => sensorGroupMatches group (name.take 128)).getD false

theorem findPowerControlPath_device {tree : DeviceTree} {chip : HwmonChip}
    {names : List CString} (device : tree.Device chip names) (outLen : Nat) :
    findPowerControlPath tree.realpath tree.fileExists outLen chip.base =
      nearestControl tree.fileExists outLen names := by
  cases device with
  | real valid found =>
      rw [findPowerControlPath, found]
      exact findPowerControlLoop_nearest _ _ valid
  | bare valid short missing =>
      have base : chip.base = rootedPath '/'
          [chip.entry, "hwmon".toList, "class".toList, "sys".toList] := rfl
      have roots : PathNames '/' ["hwmon".toList, "class".toList, "sys".toList] := by
        unfold PathNames
        decide
      have fits : chip.base.length < 4096 := by
        have length : chip.base.length = 17 + chip.entry.length := by
          change ("/sys/class/hwmon/".toList ++ chip.entry).length = _
          rw [List.length_append]
          rfl
        omega
      rw [findPowerControlPath, missing, Option.getD_none, stringCopy_of_lt fits, base]
      exact findPowerControlLoop_nearest _ _ (List.forall_mem_cons.mpr ⟨valid, roots⟩)

theorem sensorHwmonEntryPowerControlPath_eq (chip : HwmonChip) (group : CString) :
    sensorHwmonEntryPowerControlPath chip group =
      if chip.inGroup group then chip.powerControlPath else none := by
  unfold sensorHwmonEntryPowerControlPath HwmonChip.inGroup
  by_cases hidden : chip.entry.head? = some '.'
  · simp [hidden]
  · cases chip.name <;> simp [hidden]

/-! ## Writing a policy -/

theorem writeEntryPowerControl_eq (files : CString → PowerControlFile) (chip : HwmonChip)
    (group control : CString) (path : CString) :
    (writeEntryPowerControl files chip group control).1 path =
      if (files path).writable = true ∧ chip.inGroup group = true ∧
          chip.powerControlPath = some path then
        ⟨some (control ++ "\n".toList), true⟩
      else files path := by
  rw [writeEntryPowerControl, sensorHwmonEntryPowerControlPath_eq]
  cases chip.inGroup group with
  | false => simp
  | true =>
      cases found : chip.powerControlPath with
      | none => simp
      | some written =>
          by_cases same : path = written
          · subst same
            by_cases writable : (files path).writable = true
            · simp [writable]
            · simp [writable]
          · by_cases writable : (files written).writable = true
            · simp [writable, same, Ne.symm same]
            · simp [writable, Ne.symm same]

/-- A chip of the group counts when its file can be written. -/
theorem writeEntryPowerControl_counts (files : CString → PowerControlFile) (chip : HwmonChip)
    (group control : CString) :
    (writeEntryPowerControl files chip group control).2 =
      (chip.inGroup group &&
        (chip.powerControlPath.map fun path => (files path).writable).getD false) := by
  rw [writeEntryPowerControl, sensorHwmonEntryPowerControlPath_eq]
  cases chip.inGroup group with
  | false => rfl
  | true =>
      cases found : chip.powerControlPath with
      | none => rfl
      | some written =>
          cases writable : (files written).writable <;> simp [writable]

theorem writeEntryPowerControl_writable (files : CString → PowerControlFile) (chip : HwmonChip)
    (group control : CString) (path : CString) :
    ((writeEntryPowerControl files chip group control).1 path).writable =
      (files path).writable := by
  rw [writeEntryPowerControl_eq]
  split
  · rename_i written
    exact written.1.symm
  · rfl

/-- Some chip of the group has its control file at the path. -/
def groupControls (chips : List HwmonChip) (group path : CString) : Prop :=
  ∃ chip ∈ chips, chip.inGroup group = true ∧ chip.powerControlPath = some path

instance (chips : List HwmonChip) (group path : CString) :
    Decidable (groupControls chips group path) :=
  inferInstanceAs (Decidable (∃ chip ∈ chips, _))

def groupPolicyFiles (files : CString → PowerControlFile) (chips : List HwmonChip)
    (group control : CString) (path : CString) : PowerControlFile :=
  if (files path).writable = true ∧ groupControls chips group path then
    ⟨some (control ++ "\n".toList), true⟩
  else files path

/-- A chip whose control file takes the policy. -/
def takesPolicy (files : CString → PowerControlFile) (group : CString) (chip : HwmonChip) : Bool :=
  chip.inGroup group &&
    (chip.powerControlPath.map fun path => (files path).writable).getD false

theorem groupPolicyFiles_cons (files : CString → PowerControlFile) (chip : HwmonChip)
    (chips : List HwmonChip) (group control : CString) :
    groupPolicyFiles (writeEntryPowerControl files chip group control).1 chips group control =
      groupPolicyFiles files (chip :: chips) group control := by
  funext path
  unfold groupPolicyFiles
  rw [writeEntryPowerControl_writable, writeEntryPowerControl_eq]
  have either : groupControls (chip :: chips) group path ↔
      (chip.inGroup group = true ∧ chip.powerControlPath = some path) ∨
        groupControls chips group path := List.exists_mem_cons_iff ..
  by_cases writable : (files path).writable = true
  · by_cases here : chip.inGroup group = true ∧ chip.powerControlPath = some path
    · simp [writable, either, here]
    · simp [writable, either, here]
  · simp [writable]

/-- Writing a policy leaves open who takes one. -/
theorem takesPolicy_written (files : CString → PowerControlFile) (chip : HwmonChip)
    (group control : CString) :
    takesPolicy (writeEntryPowerControl files chip group control).1 group =
      takesPolicy files group := by
  funext other
  unfold takesPolicy
  simp only [writeEntryPowerControl_writable]

/-- One pass over the chips writes every file of the group that can be written. -/
theorem foldl_writeEntryPowerControl (chips : List HwmonChip) (group control : CString) :
    ∀ (files : CString → PowerControlFile) (count : Int),
      chips.foldl (fun acc chip =>
        let entry := writeEntryPowerControl acc.1 chip group control
        (entry.1, if entry.2 then acc.2 + 1 else acc.2)) (files, count) =
      (groupPolicyFiles files chips group control,
        count + ↑(chips.countP (takesPolicy files group))) := by
  induction chips with
  | nil =>
      intro files count
      have none : ∀ path, ¬ groupControls [] group path := by
        rintro path ⟨chip, member, -⟩
        cases member
      have same : groupPolicyFiles files [] group control = files := by
        funext path
        rw [groupPolicyFiles, if_neg (fun found => none path found.2)]
      rw [same, List.countP_nil]
      simp
  | cons chip chips ih =>
      intro files count
      have counted : (writeEntryPowerControl files chip group control).2 =
          takesPolicy files group chip := writeEntryPowerControl_counts ..
      rw [List.foldl_cons, ih, groupPolicyFiles_cons, takesPolicy_written, counted,
        List.countP_cons]
      split
      · refine congrArg _ ?_
        dsimp only
        omega
      · rfl

theorem sensorSetGroupPowerControl_eq {sensors : Sensors} {chips : List HwmonChip}
    (listed : sensors.hwmon = some chips) (group control : CString) :
    sensorSetGroupPowerControl sensors group control =
      ({ sensors with
          powerControl := groupPolicyFiles sensors.powerControl chips group control },
        ↑(chips.countP (takesPolicy sensors.powerControl group))) := by
  unfold sensorSetGroupPowerControl
  rw [listed]
  dsimp only
  rw [foldl_writeEntryPowerControl, zero_add]

/-- A group's policy goes to the control files of the PCI devices above its chips, to each one
that can be written and to no other file; the count is of the chips served. -/
theorem sensorSetGroupPowerControl_devices {tree : DeviceTree} {sensors : Sensors}
    {chips : List HwmonChip} {device : HwmonChip → List CString}
    (listed : sensors.hwmon = some chips)
    (resolved : ∀ chip ∈ chips, chip.Resolved tree ∧ tree.Device chip (device chip))
    (group control : CString) :
    let above := fun chip => nearestControl tree.fileExists 4096 (device chip)
    let changed := sensorSetGroupPowerControl sensors group control
    changed.1 = { sensors with powerControl := changed.1.powerControl } ∧
      (∀ path, changed.1.powerControl path =
        if (sensors.powerControl path).writable = true ∧
            ∃ chip ∈ chips, chip.inGroup group = true ∧ above chip = some path then
          ⟨some (control ++ "\n".toList), true⟩
        else sensors.powerControl path) ∧
      changed.2 = ↑(chips.countP fun chip => chip.inGroup group &&
        ((above chip).map fun path => (sensors.powerControl path).writable).getD false) := by
  have found : ∀ chip ∈ chips,
      chip.powerControlPath = nearestControl tree.fileExists 4096 (device chip) :=
    fun chip member => (resolved chip member).1.trans
      (findPowerControlPath_device (resolved chip member).2 4096)
  dsimp only
  rw [sensorSetGroupPowerControl_eq listed]
  refine ⟨rfl, fun path => ?_, ?_⟩
  · have same : groupControls chips group path ↔ ∃ chip ∈ chips, chip.inGroup group = true ∧
        nearestControl tree.fileExists 4096 (device chip) = some path :=
      exists_congr fun chip => and_congr_right fun member => by rw [found chip member]
    change groupPolicyFiles _ chips group control path = _
    unfold groupPolicyFiles
    simp only [same]
  · refine congrArg Nat.cast (List.countP_congr fun chip member => ?_)
    rw [takesPolicy, found chip member]

/-- A laptop whose GPU sits below a PCI device, next to a CPU sensor. -/
def laptopTree : DeviceTree where
  realpath := fun path =>
    if path = "/sys/class/hwmon/hwmon3".toList then
      some "/sys/devices/pci0000:00/0000:01:00.0/hwmon/hwmon3".toList
    else none
  fileExists := fun path => path = "/sys/devices/pci0000:00/0000:01:00.0/power/control".toList

def laptopChips : List HwmonChip :=
  [⟨"hwmon1".toList, some "coretemp\n".toList, none, none⟩,
    ⟨"hwmon3".toList, some "nouveau\n".toList, none,
      some "/sys/devices/pci0000:00/0000:01:00.0/power/control".toList⟩]

def laptopHost : Sensors where
  hwmon := some laptopChips
  powerControl := fun _ => ⟨some "auto\n".toList, true⟩

def laptopDevice (chip : HwmonChip) : List CString :=
  if chip.entry = "hwmon3".toList then
    ["hwmon3".toList, "hwmon".toList, "0000:01:00.0".toList, "pci0000:00".toList,
      "devices".toList, "sys".toList]
  else [chip.entry, "hwmon".toList, "class".toList, "sys".toList]

theorem laptopDevice_device : ∀ chip ∈ laptopChips, laptopTree.Device chip (laptopDevice chip) := by
  unfold laptopChips
  refine List.forall_mem_cons.mpr ⟨.bare (by decide) (by decide) rfl,
    List.forall_mem_cons.mpr ⟨.real ?_ rfl, nofun⟩⟩
  unfold PathNames
  decide

theorem sensorSetGroupPowerControl_devices_laptop :
    ((sensorSetGroupPowerControl laptopHost "gpu".toList "on".toList).1.powerControl
        "/sys/devices/pci0000:00/0000:01:00.0/power/control".toList).text =
          some "on\n".toList ∧
      (sensorSetGroupPowerControl laptopHost "gpu".toList "on".toList).2 = 1 := by
  have above : ∀ chip ∈ laptopChips, chip.powerControlPath =
      nearestControl laptopTree.fileExists 4096 (laptopDevice chip) := by
    unfold laptopChips
    refine List.forall_mem_cons.mpr ⟨by decide, List.forall_mem_cons.mpr ⟨by decide, nofun⟩⟩
  obtain ⟨-, files, count⟩ := @sensorSetGroupPowerControl_devices laptopTree laptopHost
    laptopChips laptopDevice rfl
    (fun chip member => ⟨(above chip member).trans
      (findPowerControlPath_device (laptopDevice_device chip member) 4096).symm,
        laptopDevice_device chip member⟩) "gpu".toList "on".toList
  rw [files, count]
  decide

/-- Items that all answer the same, when they answer. -/
theorem findSome?_agree {ι β : Type*} {items : List ι} {answer : ι → Option β} {takes : ι → Bool}
    {value : β} (agree : ∀ i ∈ items, answer i = if takes i then some value else none) :
    items.findSome? answer = if 0 < items.countP takes then some value else none := by
  induction items with
  | nil => rfl
  | cons i items ih =>
      rw [List.findSome?_cons, agree i List.mem_cons_self, List.countP_cons]
      cases takes i with
      | false => exact ih fun j member => agree j (List.mem_cons_of_mem i member)
      | true => rfl

/-- A policy reads back from a group whose control files can all be written. -/
theorem sensorReadGroupPowerControl_set {sensors : Sensors} {chips : List HwmonChip}
    {group control : CString} {outLen : Nat} (listed : sensors.hwmon = some chips)
    (writable : ∀ path, groupControls chips group path →
      (sensors.powerControl path).writable = true)
    (policy : control = "auto".toList ∨ control = "on".toList) (room : 4 < outLen) :
    let changed := sensorSetGroupPowerControl sensors group control
    sensorReadGroupPowerControl changed.1 group outLen =
      if 0 < changed.2 then some control else none := by
  have written : readPowerControl ⟨some (control ++ "\n".toList), true⟩ outLen = some control := by
    have trimmed : trimAscii ((control ++ "\n".toList).take 64) = control := by
      rcases policy with rfl | rfl <;> rfl
    have fits : control.length < outLen := by
      rcases policy with rfl | rfl
      · exact room
      · exact Nat.lt_trans (by decide) room
    rw [readPowerControl, Option.bind_some, trimmed, if_pos fits]
  have read : ∀ chip ∈ chips,
      ((sensorHwmonEntryPowerControlPath chip group).bind fun path =>
        readPowerControl (groupPolicyFiles sensors.powerControl chips group control path) outLen) =
      if takesPolicy sensors.powerControl group chip then some control else none := by
    intro chip member
    rw [sensorHwmonEntryPowerControlPath_eq, takesPolicy]
    cases matched : chip.inGroup group with
    | false => rfl
    | true =>
        cases found : chip.powerControlPath with
        | none => rfl
        | some path =>
            have controls : groupControls chips group path := ⟨chip, member, matched, found⟩
            have file : groupPolicyFiles sensors.powerControl chips group control path =
                ⟨some (control ++ "\n".toList), true⟩ := if_pos ⟨writable path controls, controls⟩
            rw [if_pos rfl, Option.bind_some, file, written, Option.map_some, Option.getD_some,
              writable path controls]
            rfl
  dsimp only
  rw [sensorSetGroupPowerControl_eq listed, sensorReadGroupPowerControl]
  dsimp only
  rw [listed, Option.getD_some]
  rw [findSome?_agree read]
  simp only [Int.natCast_pos]

theorem sensorReadGroupPowerControl_set_laptop :
    sensorReadGroupPowerControl
      (sensorSetGroupPowerControl laptopHost "gpu".toList "on".toList).1 "gpu".toList 32 =
        some "on".toList := by
  rw [@sensorReadGroupPowerControl_set laptopHost laptopChips "gpu".toList "on".toList 32 rfl
    (fun _ _ => rfl) (Or.inr rfl) (by decide)]
  decide

end NitroSense
