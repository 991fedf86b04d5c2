import NitroSense.Config.Load
import NitroSense.Format
import NitroSense.Lib.Lines

/-!
# Names of the hardware

`hardware/gpu.c`, `hardware/cpu.c` and `load_dmi_model` of `hardware/dmi.c`: what
the status shows for the components, read from `lspci -Dmm`, `/proc/cpuinfo` and
sysfs.
-/

namespace NitroSense

open Lib

/-! ## `hardware/dmi.c` -/

/-- `append_model_part`, for a buffer of 256 bytes. -/
def appendModelPart (model text : CString) : CString :=
  if model.length ≥ 256 - 1 then model
  else model ++ snprintf (256 - model.length) ((if model ≠ [] then " ".toList else []) ++ text)

/-- `load_dmi_model`, with the files by their paths. -/
def loadDmiModel (files : CString → Option (List Char)) : CString :=
  let paths := ["/sys/class/dmi/id/product_name".toList, "/sys/class/dmi/id/board_name".toList]
  trimAscii (paths.foldl
    (fun model path =>
      match files path with
      | none => model
      | some bytes =>
          let text := trimAscii (readTextFile 256 bytes)
          if text = [] then model else appendModelPart model text) [])

/-! ## `hardware/cpu.c` -/

/-- `load_cpu_name`, for a buffer of 160 bytes. -/
def loadCpuName (cpuInfo : Option (List Char)) : CString :=
  match cpuInfo with
  | none => "CPU".toList
  | some bytes =>
      match findSub "model name".toList (readTextFile (256 * 1024) bytes) with
      | none => "CPU".toList
      | some line =>
          match line.dropWhile (· != ':') with
          | [] => "CPU".toList
          | _ :: behind =>
              let value := behind.dropWhile fun c => c == ' ' || c == '\t'
              let ending := line.dropWhile (· != '\n')
              -- an end in front of the value becomes a huge length
              let length :=
                if ending.length ≤ value.length then value.length - ending.length
                else value.length
              trimAscii (stringCopy 160 (value.take length)).1

/-! ## `hardware/gpu.c` -/

def extractLspciField (outLen : Nat) : Nat → CString → Option CString
  | index, line =>
      match line.dropWhile (· != '"') with
      | [] => none
      | _ :: start =>
          match start.dropWhile (· != '"') with
          | [] => none
          | _ :: behind =>
              match index with
              | 0 => some ((stringCopy outLen (start.takeWhile (· != '"'))).1)
              | index + 1 => extractLspciField outLen index behind

/-- `parse_lspci_gpu_fields`: the class, the vendor and the device. -/
def parseLspciGpuFields (line : CString) : Option (CString × CString × CString) :=
  match extractLspciField 96 0 line, extractLspciField 128 1 line, extractLspciField 160 2 line with
  | some kind, some vendor, some device => some (kind, vendor, device)
  | _, _, _ => none

def isGpuClass (kind : CString) : Bool :=
  stringContainsCase kind "vga".toList || stringContainsCase kind "3d".toList ||
    stringContainsCase kind "display".toList

def isNvidia (vendor : CString) : Bool := stringContainsCase vendor "nvidia".toList

def formatNamePair (outLen : Nat) (left right : CString) : CString :=
  snprintf outLen (left ++ (" ".toList ++ right))

/-- The model in brackets, if there is one that is not empty. -/
def bracketedModel (device : CString) : Option CString :=
  match device.dropWhile (· != '[') with
  | [] => none
  | _ :: inside =>
      let model := inside.takeWhile (· != ']')
      if inside.dropWhile (· != ']') ≠ [] ∧ model ≠ [] then some model else none

/-- `simplify_gpu_name`, for a buffer of 160 bytes. -/
def simplifyGpuName (vendor device : CString) : CString :=
  let brand := if isNvidia vendor then "NVIDIA".toList else vendor
  trimAscii
    (match bracketedModel device with
    | some model => formatNamePair 160 brand (stringCopy 128 model).1
    | none => formatNamePair 160 brand device)

def loadGpuRows : List CString → CString → CString
  | [], fallback => (stringCopy 160 fallback).1
  | line :: lines, fallback =>
      match parseLspciGpuFields line with
      | none => loadGpuRows lines fallback
      | some (kind, vendor, device) =>
          if isGpuClass kind = false then loadGpuRows lines fallback
          else
            let name := simplifyGpuName vendor device
            let fallback := if fallback = "GPU".toList then (stringCopy 160 name).1 else fallback
            if isNvidia vendor then (stringCopy 160 name).1 else loadGpuRows lines fallback

/-- `fgets` with a buffer of 512 bytes: a line with its newline, or as much as there is room for. -/
def fgetsRow (text : CString) : CString :=
  let room := text.take (512 - 1)
  room.takeWhile (· != '\n') ++ (room.dropWhile (· != '\n')).take 1

theorem fgetsRow_drop_lt {text : CString} (more : text ≠ []) :
    (text.drop (fgetsRow text).length).length < text.length := by
  have filled := List.length_pos_iff.mpr more
  have positive : 0 < (fgetsRow text).length := by
    have split := congrArg List.length
      (@List.takeWhile_append_dropWhile _ (· != '\n') (text.take (512 - 1)))
    have room : (text.take (512 - 1)).length = min (512 - 1) text.length := List.length_take
    rw [List.length_append] at split
    rw [fgetsRow, List.length_append, List.length_take]
    omega
  rw [List.length_drop]
  omega

/-- The rows that `fgets` reads until the end, as strings. -/
def fgetsRows (text : CString) : List CString :=
  if _more : text ≠ [] then
    (fgetsRow text).takeWhile (· != nul) :: fgetsRows (text.drop (fgetsRow text).length)
  else []
termination_by text.length
decreasing_by exact fgetsRow_drop_lt _more

/-- `load_gpu_name`; `none` is an `lspci` that cannot be run. -/
def loadGpuName (output : Option CString) : CString :=
  match output with
  | none => "GPU".toList
  | some text => loadGpuRows (fgetsRows text) "GPU".toList

/-! ## The rows of `lspci -Dmm` -/

/-- A row: the slot, the quoted class, vendor and device, and what follows them. -/
structure LspciRow where
  slot : CString
  kind : CString
  vendor : CString
  device : CString
  rest : CString

namespace LspciRow

/-- The text of a row, without its newline. -/
def text (row : LspciRow) : CString :=
  row.slot ++ '"' :: (row.kind ++ '"' :: (' ' :: '"' :: (row.vendor ++ '"' ::
    (' ' :: '"' :: (row.device ++ '"' :: row.rest)))))

/-- A row as `lspci` prints it, that fits the buffer of the daemon. -/
structure Valid (row : LspciRow) : Prop where
  slot : '"' ∉ row.slot
  fields : '"' ∉ row.kind ∧ '"' ∉ row.vendor ∧ '"' ∉ row.device
  line : '\n' ∉ row.text
  noNul : nul ∉ row.text
  fits : row.text.length ≤ 510

def isDisplay (row : LspciRow) : Bool := isGpuClass (stringCopy 96 row.kind).1

def isNvidiaRow (row : LspciRow) : Bool := isNvidia (stringCopy 128 row.vendor).1

def name (row : LspciRow) : CString :=
  simplifyGpuName (stringCopy 128 row.vendor).1 (stringCopy 160 row.device).1

end LspciRow

section Rows

theorem dropWhile_quote {before : CString} (free : '"' ∉ before) (behind : CString) :
    (before ++ '"' :: behind).dropWhile (· != '"') = '"' :: behind ∧
      (before ++ '"' :: behind).takeWhile (· != '"') = before := by
  have other : ∀ c ∈ before, (c != '"') = true := fun c member => by
    simpa using fun same : c = '"' => free (same ▸ member)
  constructor
  · rw [List.dropWhile_append_of_pos other]
    rfl
  · rw [List.takeWhile_append_of_pos other]
    exact List.append_nil before

/-- A field is found behind what has no quotes, and the others behind it. -/
theorem extractLspciField_quoted {before field : CString} (free : '"' ∉ before)
    (fieldFree : '"' ∉ field) (outLen : Nat) (behind : CString) :
    extractLspciField outLen 0 (before ++ '"' :: (field ++ '"' :: behind)) =
        some (stringCopy outLen field).1 ∧
      ∀ index, extractLspciField outLen (index + 1) (before ++ '"' :: (field ++ '"' :: behind)) =
        extractLspciField outLen index behind := by
  obtain ⟨drop, -⟩ := dropWhile_quote free (field ++ '"' :: behind)
  obtain ⟨dropField, takeField⟩ := dropWhile_quote fieldFree behind
  refine ⟨?_, fun index => ?_⟩
  · rw [extractLspciField, drop]
    dsimp only
    rw [dropField]
    dsimp only
    rw [takeField]
  · rw [extractLspciField, drop]
    dsimp only
    rw [dropField]

theorem parseLspciGpuFields_row {row : LspciRow} (valid : row.Valid) (ending : CString) :
    parseLspciGpuFields (row.text ++ ending) =
      some ((stringCopy 96 row.kind).1, (stringCopy 128 row.vendor).1,
        (stringCopy 160 row.device).1) := by
  obtain ⟨kind, vendor, device⟩ := valid.fields
  have blank : '"' ∉ " ".toList := by decide
  have text : row.text ++ ending = row.slot ++ '"' :: (row.kind ++ '"' :: (" ".toList ++ '"' ::
      (row.vendor ++ '"' :: (" ".toList ++ '"' :: (row.device ++ '"' :: (row.rest ++ ending)))))) := by
    simp [LspciRow.text]
  have first (outLen : Nat) := extractLspciField_quoted valid.slot kind outLen
  have second (outLen : Nat) := extractLspciField_quoted blank vendor outLen
  have third (outLen : Nat) := extractLspciField_quoted blank device outLen
  rw [parseLspciGpuFields, text, (first 96 _).1, (first 128 _).2, (second 128 _).1,
    (first 160 _).2, (second 160 _).2, (third 160 _).1]

theorem fgetsRows_line {line : CString} (noNewline : '\n' ∉ line) (noNul : nul ∉ line)
    (fits : line.length ≤ 510) (rest : CString) :
    fgetsRows (line ++ '\n' :: rest) = (line ++ ['\n']) :: fgetsRows rest := by
  have other : ∀ c ∈ line, (c != '\n') = true := fun c member => by
    simpa using fun same : c = '\n' => noNewline (same ▸ member)
  obtain ⟨room, split⟩ := Nat.exists_eq_add_of_le fits
  have taken : (line ++ '\n' :: rest).take (512 - 1) = line ++ '\n' :: rest.take room := by
    rw [show 512 - 1 = line.length + (room + 1) by omega, List.take_append, List.take_of_length_le]
    · simp
    · omega
  have row : fgetsRow (line ++ '\n' :: rest) = line ++ ['\n'] := by
    rw [fgetsRow, taken]
    rw [List.takeWhile_append_of_pos other, List.dropWhile_append_of_pos other,
      List.takeWhile_cons_of_neg (by simp), List.dropWhile_cons_of_neg (by simp), List.append_nil]
    rfl
  have string : (line ++ ['\n']).takeWhile (· != nul) = line ++ ['\n'] := by
    rw [List.takeWhile_eq_self_iff]
    intro c member
    rcases List.mem_append.mp member with inside | last
    · simpa using fun same : c = nul => noNul (same ▸ inside)
    · rw [List.mem_singleton.mp last]
      decide
  have dropped : (line ++ '\n' :: rest).drop (line ++ ['\n']).length = rest := by
    have split : line ++ '\n' :: rest = (line ++ ['\n']) ++ rest := by simp
    rw [split]
    exact List.drop_left
  rw [fgetsRows, dif_pos (by simp), row, string, dropped]

theorem fgetsRows_listing {rows : List LspciRow} (valid : ∀ row ∈ rows, row.Valid) :
    fgetsRows (rows.flatMap fun row => row.text ++ ['\n']) =
      rows.map fun row => row.text ++ ['\n'] := by
  induction rows with
  | nil => rw [List.flatMap_nil, fgetsRows, dif_neg (by simp), List.map_nil]
  | cons row rows ih =>
      obtain ⟨here, later⟩ := List.forall_mem_cons.mp valid
      rw [List.flatMap_cons, List.append_assoc, List.singleton_append,
        fgetsRows_line here.line here.noNul here.fits, ih later, List.map_cons]

theorem trimAscii_length (text : CString) : (trimAscii text).length ≤ text.length := by
  rw [trimAscii, List.length_reverse]
  refine (List.dropWhile_suffix _).length_le.trans ?_
  rw [List.length_reverse]
  exact (List.dropWhile_suffix _).length_le

/-- Names fit their buffers. -/
theorem LspciRow.name_lt (row : LspciRow) : row.name.length < 160 := by
  have pair (left right : CString) : (formatNamePair 160 left right).length < 160 := by
    rw [formatNamePair, snprintf, List.length_take]
    omega
  rw [LspciRow.name, simplifyGpuName]
  refine Nat.lt_of_le_of_lt (trimAscii_length _) ?_
  split
  · exact pair _ _
  · exact pair _ _

theorem LspciRow.name_copy (row : LspciRow) : (stringCopy 160 row.name).1 = row.name := by
  rw [stringCopy_of_lt row.name_lt]

/-- The name that is shown when the first display device may still be unknown. -/
def gpuNameOf (rows : List LspciRow) (fallback : CString) : CString :=
  let displays := rows.filter LspciRow.isDisplay
  match displays.find? LspciRow.isNvidiaRow with
  | some row => row.name
  | none =>
      if fallback = "GPU".toList then
        ((displays.map LspciRow.name).find? (· ≠ "GPU".toList)).getD "GPU".toList
      else fallback

theorem loadGpuRows_listing {rows : List LspciRow} (valid : ∀ row ∈ rows, row.Valid)
    {fallback : CString} (short : fallback.length < 160) :
    loadGpuRows (rows.map fun row => row.text ++ ['\n']) fallback = gpuNameOf rows fallback := by
  induction rows generalizing fallback with
  | nil =>
      rw [List.map_nil, loadGpuRows, stringCopy_of_lt short]
      by_cases unknown : fallback = "GPU".toList
      · rw [unknown]
        rfl
      · exact (if_neg unknown).symm
  | cons row rows ih =>
      obtain ⟨here, later⟩ := List.forall_mem_cons.mp valid
      rw [List.map_cons, loadGpuRows, parseLspciGpuFields_row here]
      dsimp only
      change (if row.isDisplay = false then _ else _) = _
      cases display : row.isDisplay with
      | false =>
          rw [if_pos rfl, ih later short, gpuNameOf, gpuNameOf,
            List.filter_cons_of_neg (by rw [display]; nofun)]
      | true =>
          rw [if_neg nofun, gpuNameOf, List.filter_cons_of_pos display]
          change (if row.isNvidiaRow = true then (stringCopy 160 row.name).1 else
            loadGpuRows _ (if fallback = "GPU".toList then (stringCopy 160 row.name).1
              else fallback)) = _
          rw [row.name_copy]
          cases nvidia : row.isNvidiaRow with
          | true => rw [if_pos rfl, List.find?_cons_of_pos nvidia]
          | false =>
              have next : (if fallback = "GPU".toList then row.name else fallback).length < 160 := by
                split
                · exact row.name_lt
                · exact short
              rw [if_neg nofun, ih later next, gpuNameOf,
                List.find?_cons_of_neg (by rw [nvidia]; nofun)]
              cases List.find? LspciRow.isNvidiaRow (rows.filter LspciRow.isDisplay) with
              | some _ => rfl
              | none =>
                  -- only the name of this row can become the fallback
                  by_cases unknown : fallback = "GPU".toList
                  · rw [if_pos unknown, if_pos unknown, List.map_cons]
                    by_cases plain : row.name = "GPU".toList
                    · rw [if_pos plain, List.find?_cons_of_neg (by simp [plain])]
                    · rw [if_neg plain, List.find?_cons_of_pos (by simpa using plain),
                        Option.getD_some]
                  · rw [if_neg unknown, if_neg unknown, if_neg unknown]

end Rows

/-- Of a whole listing the name shown is that of the first NVIDIA display device, and
without one that of the first display device with a name of its own. -/
theorem loadGpuName_listing {rows : List LspciRow} (valid : ∀ row ∈ rows, row.Valid) :
    loadGpuName (some (rows.flatMap fun row => row.text ++ ['\n'])) =
      match (rows.filter LspciRow.isDisplay).find? LspciRow.isNvidiaRow with
      | some row => row.name
      | none =>
          (((rows.filter LspciRow.isDisplay).map LspciRow.name).find? (· ≠ "GPU".toList)).getD
            "GPU".toList := by
  have room : "GPU".toList.length < 160 := by decide
  rw [loadGpuName]
  rw [fgetsRows_listing valid, loadGpuRows_listing valid room, gpuNameOf]
  rfl

/-- An integrated and a discrete device, as they are listed on a supported laptop. -/
def laptopRows : List LspciRow :=
  [⟨"00:02.0 ".toList, "VGA compatible controller".toList, "Intel Corporation".toList,
      "UHD Graphics".toList, " -r02".toList⟩,
    ⟨"01:00.0 ".toList, "3D controller".toList, "NVIDIA Corporation".toList,
      "TU117M [GeForce GTX 1650]".toList, " -ra1".toList⟩]

/-- The discrete device is shown, by the model in its brackets. -/
theorem loadGpuName_listing_laptop :
    loadGpuName (some (laptopRows.flatMap fun row => row.text ++ ['\n'])) =
      "NVIDIA GeForce GTX 1650".toList := by
  have valid : ∀ row ∈ laptopRows, row.Valid := by
    simp only [laptopRows, List.forall_mem_cons, List.not_mem_nil, false_implies, implies_true,
      and_true]
    exact ⟨⟨by decide, by decide, by decide, by decide, by decide⟩,
      ⟨by decide, by decide, by decide, by decide, by decide⟩⟩
  rw [loadGpuName_listing valid]
  decide

end NitroSense
