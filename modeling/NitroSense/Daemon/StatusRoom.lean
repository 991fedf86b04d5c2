import NitroSense.Daemon.CacheRoundTrip
import NitroSense.Daemon.StatusDocument

/-!
# The room of the status file

`write_status` formats into 8192 bytes and writes nothing when they are not
enough.  They are enough for all values of the C types, escapes included.
-/

namespace NitroSense

open Lib

/-- A string kept in a `char` array. -/
def InArray (size : Nat) (text : CString) : Prop := text.length < size

instance (size : Nat) (text : CString) : Decidable (InArray size text) :=
  inferInstanceAs (Decidable (_ < _))

/-- A fan state with values of its C types. -/
structure FanState.InTypes (state : FanState) : Prop where
  rpm : IsInt state.rpm
  tempC : IsInt state.tempC
  sensorTempC : IsInt state.sensorTempC
  controlTempC : IsInt state.controlTempC
  controlSensorTempC : IsInt state.controlSensorTempC
  percent : IsInt state.percent
  requestedPercent : IsInt state.requestedPercent
  writeValue : IsInt state.writeValue
  criticalTempSamples : IsInt state.criticalTempSamples
  ecReadFailures : IsInt state.ecReadFailures
  ecWriteFailures : IsInt state.ecWriteFailures

/-- A report whose values are of their C types: strings in their arrays, `int` and `long`. -/
structure StatusReport.InTypes (report : StatusReport) : Prop where
  model : InArray 96 report.cfg.model
  backend : InArray 32 report.backend
  preset : InArray 32 report.preset
  profiles : ∀ profile ∈ report.cfg.platformProfiles.profiles, InArray 32 profile.id
  acProfile : InArray 32 report.cfg.powerSourceProfiles.acProfile
  batteryProfile : InArray 32 report.cfg.powerSourceProfiles.batteryProfile
  timeoutSeconds : IsInt report.cfg.keyboardBacklight.timeoutSeconds
  fanLen : report.cfg.fanLen ≤ 2
  fans : ∀ fan ∈ report.cfg.fans, InArray 16 fan.id ∧ InArray 64 fan.name
  names : InArray 160 report.names.cpu ∧ InArray 160 report.names.gpu
  restorePercent : IsInt report.runtime.keyboardBacklightRestorePercent
  now : -2 ^ 63 ≤ report.now ∧ report.now ≤ 2 ^ 63 - 1
  states : ∀ index < report.cfg.fanLen, (report.states index).InTypes
  keyboardName : InArray 128 report.keyboard.name
  keyboardBackend : InArray 32 report.keyboard.backend
  keyboardInts : IsInt report.keyboard.brightness ∧ IsInt report.keyboard.maxBrightness ∧
    IsInt report.keyboard.percent ∧ IsInt report.keyboard.reg

/-! ## Lengths -/

theorem jsonEscape_length (c : Char) : (jsonEscape c).length ≤ 6 := by
  rcases jsonEscape_forms c with ⟨-, same⟩ | ⟨letter, same, -⟩ | ⟨high, low, same, -⟩
  · rw [same]
    exact (by decide : 1 ≤ 6)
  · rw [same]
    exact (by decide : 2 ≤ 6)
  · rw [same]
    exact Nat.le_refl 6

theorem jsonEscaped_length (value : CString) : (jsonEscaped value).length ≤ 6 * value.length := by
  induction value with
  | nil => exact Nat.le_refl 0
  | cons c value ih =>
      have first := jsonEscape_length c
      rw [jsonEscaped, List.flatMap_cons, List.length_append, List.length_cons]
      rw [jsonEscaped] at ih
      omega

/-- A plain string is spelled as it is. -/
theorem jsonEscaped_plain {value : CString} (plain : PlainText value) : jsonEscaped value = value := by
  have escaped : value.flatMap jsonEscape = value.flatMap fun c => [c] :=
    List.flatMap_congr fun c member => jsonEscape_of_isPlain (List.all_eq_true.mp plain c member)
  rw [jsonEscaped, escaped, List.flatMap_singleton']

theorem length_flatMap_le {α : Type} {elements : List α} {line : α → CString} {limit : Nat}
    (short : ∀ element ∈ elements, (line element).length ≤ limit) :
    (elements.flatMap line).length ≤ elements.length * limit := by
  induction elements with
  | nil => simp
  | cons element rest ih =>
      obtain ⟨here, others⟩ := List.forall_mem_cons.mp short
      have more := ih others
      rw [List.flatMap_cons, List.length_append, List.length_cons, Nat.succ_mul]
      omega

/-- A named value that is printed in at most so many bytes. -/
def Within (scalar : String × Scalar) (limit : Nat) : Prop := scalar.2.text.length ≤ limit

section Within

variable {name : String}

theorem within_bool (value : Bool) : Within (name, .bool value) 5 := by
  cases value with
  | true => exact (by decide : 4 ≤ 5)
  | false => exact Nat.le_refl 5

theorem within_int {value : Int} (int : IsInt value) : Within (name, .int value) 11 :=
  decimal_int_length int

theorem within_string {value : CString} {size : Nat} (fits : InArray (size + 1) value) :
    Within (name, .string value) (6 * size + 2) := by
  have escaped := jsonEscaped_length value
  have short : value.length ≤ size := Nat.le_of_lt_succ fits
  rw [Within, Scalar.text, List.length_cons, List.length_append, List.length_singleton]
  omega

/-- A plain text of the program. -/
def Word (size : Nat) (text : CString) : Prop := PlainText text ∧ text.length ≤ size

instance (size : Nat) (text : CString) : Decidable (Word size text) :=
  inferInstanceAs (Decidable (_ ∧ _))

theorem within_word {value : CString} {size : Nat} (word : Word size value) :
    Within (name, .string value) (size + 2) := by
  rw [Within, Scalar.text, jsonEscaped_plain word.1, List.length_cons, List.length_append,
    List.length_singleton]
  exact Nat.add_le_add_right word.2 2

/-- The lines of named values are no longer than their keys and the limits of their values. -/
theorem scalarLines_length {layout : String} {scalars : List (String × Scalar)} {limits : List Nat}
    (within : List.Forall₂ Within scalars limits) :
    (scalarLines layout scalars).length ≤
      ((scalars.map Prod.fst).map fun key => (jsonKey layout key).length).sum + limits.sum := by
  induction within with
  | nil => exact Nat.le_refl 0
  | cons here _ ih =>
      rw [Within] at here
      rw [scalarLines_cons, List.length_append, List.length_append, List.map_cons, List.map_cons,
        List.sum_cons, List.sum_cons]
      omega

end Within

/-! ## The texts of the state -/

theorem controlMode_word (autoMode : Bool) (preset : CString) :
    Word 13 (controlMode autoMode preset) := by
  rw [controlMode]
  split
  · decide
  · split
    · decide
    · split
      · decide
      · decide

theorem fanModeValueName_word (fanModes : FanModeConfig) (cpu : Bool) (value : Int) :
    Word 11 (fanModeValueName fanModes cpu value) := by
  rw [fanModeValueName]
  generalize (if cpu = true then fanModes.cpuValue else fanModes.gpuValue) = modeValue
  split
  · decide
  · split
    · decide
    · split
      · decide
      · decide

theorem keyboardBacklightReason_word (status : KeyboardBacklightStatus) :
    Word 21 (keyboardBacklightReason status) := by
  rw [keyboardBacklightReason]
  split
  · decide
  · split
    · decide
    · split
      · decide
      · decide

theorem powerSource_word (source : PowerSource) : Word 7 source.name := by
  cases source <;> decide

theorem safetyReason_word (reason : SafetyReason) : Word 20 reason.text := by
  cases reason <;> decide

theorem statusFanControlSource_word (firmwareMode safetyActive : Bool) :
    Word 8 (statusFanControlSource firmwareMode safetyActive) := by
  cases firmwareMode <;> cases safetyActive <;> decide

theorem fallbackText_array {size : Nat} {text fallback : CString} (fits : InArray size text)
    (other : InArray size fallback) : InArray size (fallbackText text fallback) := by
  rw [fallbackText]
  split
  · exact other
  · exact fits

namespace StatusReport

variable {report : StatusReport}

theorem fanModeText_word (report : StatusReport) (cpu : Bool) : Word 11 (report.fanModeText cpu) := by
  rw [fanModeText]
  split
  · decide
  · rename_i values
    cases cpu with
    | true =>
        simp only [if_true]
        split
        · exact fanModeValueName_word _ _ _
        · decide
    | false =>
        simp only [Bool.false_eq_true, if_false]
        split
        · exact fanModeValueName_word _ _ _
        · decide

theorem InTypes.platformProfileText (types : report.InTypes) :
    InArray 32 report.platformProfileText := by
  rw [StatusReport.platformProfileText]
  split
  · rw [platformProfileValueName]
    split
    · exact (by decide : 7 < 32)
    · rename_i profile found
      exact types.profiles profile (List.mem_of_find?_eq_some found)
  · exact (by decide : 11 < 32)

/-- What the head of the file takes at most. -/
theorem InTypes.scalars_length (types : report.InTypes) :
    (scalarLines "\n  " report.scalars).length ≤ 3645 := by
  have timeout : Within ("keyboard_backlight_timeout_seconds",
      .int (if report.cfg.keyboardBacklight.timeoutSupported then
        report.cfg.keyboardBacklight.timeoutSeconds else 0)) 11 := by
    split
    · exact within_int types.timeoutSeconds
    · exact within_int ⟨by decide, by decide⟩
  have timestamp : Within ("timestamp", .int report.now) 20 := by
    obtain ⟨lower, upper⟩ := types.now
    exact @decimal_length_le report.now 19 (by decide) (by omega)
  have backend : Word 14 (if report.cfg.keyboardBacklight.timeoutSupported then
      "input-activity".toList else "unsupported".toList) := by
    split
    · decide
    · decide
  have limits : List.Forall₂ Within report.scalars
      [572, 188, 5, 15, 188, 5, 5, 5, 13, 13, 5, 188, 9, 5, 5, 188, 188, 5, 764, 11, 11, 11, 188,
        11, 5, 5, 11, 16, 5, 11, 23, 20] := by
    obtain ⟨brightness, maxBrightness, percent, reg⟩ := types.keyboardInts
    refine .cons (within_string types.model) (.cons (within_string types.backend)
      (.cons (within_bool _) (.cons (within_word (controlMode_word _ _))
      (.cons (within_string types.preset) (.cons (within_bool _) (.cons (within_bool _)
      (.cons (within_bool _) (.cons (within_word (report.fanModeText_word true))
      (.cons (within_word (report.fanModeText_word false)) (.cons (within_bool _)
      (.cons (within_string types.platformProfileText) (.cons (within_word (powerSource_word _))
      (.cons (within_bool _) (.cons (within_bool _) ?_))))))))))))))
    refine .cons (within_string (fallbackText_array types.acProfile (by decide)))
      (.cons (within_string (fallbackText_array types.batteryProfile (by decide)))
      (.cons (within_bool _) (.cons (within_string (fallbackText_array types.keyboardName
        (by decide))) (.cons (within_int brightness) (.cons (within_int maxBrightness)
      (.cons (within_int percent) (.cons (within_string (fallbackText_array types.keyboardBackend
        (by decide))) (.cons (within_int reg) (.cons (within_bool _) (.cons (within_bool _)
      (.cons timeout (.cons (within_word backend) (.cons (within_bool _)
      (.cons (within_int types.restorePercent)
      (.cons (within_word (keyboardBacklightReason_word _)) (.cons timestamp .nil))))))))))))))))
  refine (scalarLines_length limits).trans ?_
  rw [report.scalars_keys]
  decide

theorem InTypes.componentName_array (types : report.InTypes) {index : Nat}
    (below : index < report.cfg.fanLen) :
    InArray 160 (componentNameForFan report.names (report.cfg.fan index)) := by
  rw [componentNameForFan]
  split
  · exact types.names.1
  · split
    · exact types.names.2
    · exact Nat.lt_trans (types.fans _ (AnsConfig.fan_mem below)).2 (by decide)

/-- What the line of a fan takes at most. -/
theorem InTypes.fan_length (types : report.InTypes) {index : Nat}
    (below : index < report.cfg.fanLen) :
    ((fanStatusPieces report.cfg report.states report.names report.firmwareMode index).flatMap
      JsonPiece.spelled).length ≤ 2100 := by
  obtain ⟨id, name⟩ := types.fans _ (AnsConfig.fan_mem below)
  have state := types.states index below
  have active : Within ("active_percent",
      if statusFanFirmwareControlled report.firmwareMode (report.states index).safetyActive then
        Scalar.null else .int (report.states index).percent) 11 := by
    split
    · exact (by decide : 4 ≤ 11)
    · exact within_int state.percent
  have requested : Within ("requested_percent",
      .int (report.states index).statusRequestedPercent) 11 := by
    rw [FanState.statusRequestedPercent]
    split
    · exact within_int state.requestedPercent
    · exact within_int state.percent
  have limits : List.Forall₂ Within
      (fanScalars report.cfg report.states report.names report.firmwareMode index)
      [92, 380, 956, 11, 11, 11, 11, 11, 5, 5, 10, 11, 5, 11, 11, 11, 11, 11, 11, 11, 5, 22] := by
    refine .cons (within_string id) (.cons (within_string name)
      (.cons (within_string (types.componentName_array below)) (.cons (within_int state.rpm)
      (.cons (within_int state.tempC) (.cons (within_int state.sensorTempC)
      (.cons (within_int state.controlTempC) (.cons (within_int state.controlSensorTempC)
      (.cons (within_bool _) (.cons (within_bool _)
      (.cons (within_word (statusFanControlSource_word _ _)) ?_))))))))))
    exact .cons active (.cons (within_bool _) (.cons (within_int state.percent) (.cons requested
      (.cons (within_int state.percent) (.cons (within_int state.writeValue)
      (.cons (within_int state.criticalTempSamples) (.cons (within_int state.ecReadFailures)
      (.cons (within_int state.ecWriteFailures) (.cons (within_bool _)
      (.cons (within_word (safetyReason_word _)) .nil))))))))))
  have lines : (scalarLines " "
      (fanScalars report.cfg report.states report.names report.firmwareMode index)).length ≤ 2040 := by
    refine (scalarLines_length limits).trans ?_
    rw [fanScalars_keys]
    decide
  have comma : (if index = report.cfg.fanLen - 1 then ([] : CString) else ",".toList).length ≤ 1 := by
    split
    · exact Nat.zero_le 1
    · exact Nat.le_refl 1
  have layout : ("    ".toList.length = 4 ∧ " \x7d".toList.length = 2) ∧ "\n".toList.length = 1 := by
    decide
  rw [fanStatusPieces_spelled]
  simp only [List.length_append, List.length_cons, List.length_tail]
  omega

/-- The whole text fits. -/
theorem InTypes.fits (types : report.InTypes) :
    (report.document.text ++ "\n".toList).length < 8192 := by
  have fans : ((List.range report.cfg.fanLen).flatMap fun index =>
      (fanStatusPieces report.cfg report.states report.names report.firmwareMode index).flatMap
        JsonPiece.spelled).length ≤ 2 * 2100 := by
    refine Nat.le_trans (length_flatMap_le fun index member =>
      types.fan_length (List.mem_range.mp member)) ?_
    rw [List.length_range]
    exact Nat.mul_le_mul_right 2100 types.fanLen
  have head := types.scalars_length
  have layout : (lineKey "fans").length = 12 ∧ "[\n".toList.length = 2 ∧
      "  ]\n\x7d\n".toList.length = 6 := by decide
  rw [← report.pieces_spelled, pieces, List.flatMap_append, List.flatMap_append, List.flatMap_assoc,
    headPieces_spelled]
  simp only [List.length_append, List.length_cons, List.length_tail, List.flatMap_cons,
    List.flatMap_nil, List.append_nil, JsonPiece.spelled]
  omega

end StatusReport

/--
With values of their C types the status file is written at every update: its
text fits the buffer of `write_status`, whatever has to be escaped in it, and
is a document that says what the state is.
-/
theorem status_file_fits {report : StatusReport} (types : report.InTypes) :
    ∃ document : Json, report.format 8192 = some (document.text ++ "\n".toList) ∧
      document.data? = some report.data := by
  refine ⟨report.document, ?_, report.document_data⟩
  rw [report.format_eq, if_pos types.fits]

/-- What a daemon with the shipped profile reads, and a component name with characters to escape. -/
def AcerNitroAn517.statusReport : StatusReport :=
  (readStatusReport config "fake".toList
    { cpu := "CPU \"8\\16\"".toList, gpu := "GPU\t1".toList } (heldDaemon true "auto".toList)).2

theorem statusReport_inTypes : AcerNitroAn517.statusReport.InTypes := by
  have profiles : AcerNitroAn517.config.platformProfiles.profiles.all
      (fun profile => decide (InArray 32 profile.id)) = true := by decide
  have fans : AcerNitroAn517.config.fans.all
      (fun fan => decide (InArray 16 fan.id ∧ InArray 64 fan.name)) = true := by decide
  have zero : IsInt 0 := ⟨by decide, by decide⟩
  have half : IsInt 50 := ⟨by decide, by decide⟩
  exact {
    model := by decide
    backend := by decide
    preset := by decide
    profiles := fun profile member => of_decide_eq_true (List.all_eq_true.mp profiles profile member)
    acProfile := by decide
    batteryProfile := by decide
    timeoutSeconds := ⟨by decide, by decide⟩
    fanLen := by decide
    fans := fun fan member => of_decide_eq_true (List.all_eq_true.mp fans fan member)
    names := by decide
    restorePercent := zero
    now := by decide
    states := fun _ _ => {
      rpm := zero
      tempC := zero
      sensorTempC := zero
      controlTempC := zero
      controlSensorTempC := zero
      percent := half
      requestedPercent := half
      writeValue := zero
      criticalTempSamples := zero
      ecReadFailures := zero
      ecWriteFailures := zero }
    keyboardName := by decide
    keyboardBackend := by decide
    keyboardInts := ⟨⟨by decide, by decide⟩, ⟨by decide, by decide⟩, ⟨by decide, by decide⟩,
      ⟨by decide, by decide⟩⟩ }

theorem status_file_fits_shipped :
    ∃ document : Json,
      AcerNitroAn517.statusReport.format 8192 = some (document.text ++ "\n".toList) ∧
        document.data? = some AcerNitroAn517.statusReport.data :=
  status_file_fits statusReport_inTypes

end NitroSense
