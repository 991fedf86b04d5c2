import NitroSense.Daemon.StatusJson
import NitroSense.Json.Data

/-!
# The status file as a document

What the status file is to say, as named values, and that its text is a JSON
document that says so, for every string and every number in it.
-/

namespace NitroSense

open Lib

/-! ## The values of the file -/

/-- What the file says about a fan. -/
def fanScalars (cfg : AnsConfig) (states : FanStates) (names : HardwareNames) (firmwareMode : Bool)
    (index : Nat) : List (String × Scalar) :=
  let state := states index
  let fan := cfg.fan index
  let firmwareControlled := statusFanFirmwareControlled firmwareMode state.safetyActive
  [("id", .string fan.id), ("name", .string fan.name),
    ("component_name", .string (componentNameForFan names fan)),
    ("rpm", .int state.rpm), ("temp_c", .int state.tempC),
    ("sensor_temp_c", .int state.sensorTempC), ("control_temp_c", .int state.controlTempC),
    ("control_sensor_temp_c", .int state.controlSensorTempC),
    ("temp_available", .bool state.tempAvailable),
    ("control_temp_available", .bool state.controlTempAvailable),
    ("control", .string (statusFanControlSource firmwareMode state.safetyActive)),
    ("active_percent", if firmwareControlled then .null else .int state.percent),
    ("firmware_controlled", .bool firmwareControlled), ("percent", .int state.percent),
    ("requested_percent", .int state.statusRequestedPercent),
    ("effective_percent", .int state.percent), ("write_value", .int state.writeValue),
    ("critical_temp_samples", .int state.criticalTempSamples),
    ("ec_read_failures", .int state.ecReadFailures),
    ("ec_write_failures", .int state.ecWriteFailures),
    ("safety_active", .bool state.safetyActive),
    ("safety_reason", .string state.safetyReason.text)]

namespace StatusReport

variable (report : StatusReport)

/-- What the file says besides the fans. -/
def scalars : List (String × Scalar) :=
  let cfg := report.cfg
  let keyboard := report.keyboard
  let timeoutSupported := cfg.keyboardBacklight.timeoutSupported
  [("model", .string cfg.model), ("backend", .string report.backend),
    ("auto", .bool report.autoMode), ("mode", .string (controlMode report.autoMode report.preset)),
    ("preset", .string report.preset), ("coolboost_available", .bool cfg.fanModes.available),
    ("coolboost", .bool report.coolboostEnabled),
    ("fan_mode_available", .bool cfg.fanModes.available),
    ("fan_mode_cpu", .string (report.fanModeText true)),
    ("fan_mode_gpu", .string (report.fanModeText false)),
    ("platform_profile_available", .bool cfg.platformProfiles.available),
    ("platform_profile", .string report.platformProfileText),
    ("power_source", .string report.powerSource.name),
    ("power_source_profile_policy_available", .bool (powerSourceProfilePolicyAvailable cfg)),
    ("power_source_profile_auto_apply", .bool report.runtime.powerSourceAutoApply),
    ("power_source_ac_profile",
      .string (fallbackText cfg.powerSourceProfiles.acProfile "unavailable".toList)),
    ("power_source_battery_profile",
      .string (fallbackText cfg.powerSourceProfiles.batteryProfile "unavailable".toList)),
    ("keyboard_backlight_available", .bool keyboard.available),
    ("keyboard_backlight_name", .string (fallbackText keyboard.name "unavailable".toList)),
    ("keyboard_backlight_brightness", .int keyboard.brightness),
    ("keyboard_backlight_max_brightness", .int keyboard.maxBrightness),
    ("keyboard_backlight_percent", .int keyboard.percent),
    ("keyboard_backlight_backend", .string (fallbackText keyboard.backend "none".toList)),
    ("keyboard_backlight_register", .int keyboard.reg),
    ("keyboard_backlight_timeout_supported", .bool timeoutSupported),
    ("keyboard_backlight_timeout_enabled", .bool report.runtime.keyboardBacklightTimeoutEnabled),
    ("keyboard_backlight_timeout_seconds",
      .int (if timeoutSupported then cfg.keyboardBacklight.timeoutSeconds else 0)),
    ("keyboard_backlight_timeout_backend",
      .string (if timeoutSupported then "input-activity".toList else "unsupported".toList)),
    ("keyboard_backlight_timed_off", .bool report.runtime.keyboardBacklightTimedOff),
    ("keyboard_backlight_restore_percent",
      .int report.runtime.keyboardBacklightRestorePercent),
    ("keyboard_backlight_reason", .string (keyboardBacklightReason keyboard)),
    ("timestamp", .int report.now)]

def data : JsonData :=
  .object (scalarObject report.scalars ++
    [("fans".toList, .array ((List.range report.cfg.fanLen).map fun index =>
      .object (scalarObject
        (fanScalars report.cfg report.states report.names report.firmwareMode index))))])

end StatusReport

/-! ## The text of the appends -/

section Text

theorem headPieces_spelled (report : StatusReport) :
    report.headPieces.flatMap JsonPiece.spelled =
      '\x7b' :: ((scalarLines "\n  " report.scalars).tail ++ (lineKey "fans" ++ "[\n".toList)) := by
  have first : "\x7b\n  \"model\": ".toList = '\x7b' :: (lineKey "model").tail := rfl
  simp only [StatusReport.headPieces, StatusReport.scalars, scalarLines_cons, scalarLines_nil,
    List.flatMap_cons, List.flatMap_nil, JsonPiece.spelled, Scalar.text, List.flatten_cons,
    List.flatten_nil, List.append_assoc, List.append_nil, List.cons_append, jsonKey_tail, first,
    lineKey]

theorem fanStatusPieces_spelled (cfg : AnsConfig) (states : FanStates) (names : HardwareNames)
    (firmwareMode : Bool) (index : Nat) :
    (fanStatusPieces cfg states names firmwareMode index).flatMap JsonPiece.spelled =
      "    ".toList ++ ('\x7b' ::
        ((scalarLines " " (fanScalars cfg states names firmwareMode index)).tail ++
          (" \x7d".toList ++ ((if index = cfg.fanLen - 1 then [] else ",".toList) ++
            "\n".toList)))) := by
  have first : "    \x7b \"id\": ".toList = "    ".toList ++ ('\x7b' :: (fanKey "id").tail) := rfl
  have active : statusActivePercentText firmwareMode (states index).safetyActive
      (states index).percent "null".toList =
      (if statusFanFirmwareControlled firmwareMode (states index).safetyActive then Scalar.null
        else .int (states index).percent).text := by
    rw [statusActivePercentText]
    split
    · rfl
    · rfl
  simp only [fanStatusPieces, fanScalars, scalarLines_cons, scalarLines_nil, List.flatMap_cons,
    List.flatMap_nil, JsonPiece.spelled, Scalar.text, List.flatten_cons, List.flatten_nil,
    List.append_assoc, List.append_nil, List.cons_append, jsonKey_tail, first, fanKey, active]

end Text

/-! ## The document -/

namespace StatusReport

variable (report : StatusReport)

def fanObject (index : Nat) : Json :=
  inlineObject (fanScalars report.cfg report.states report.names report.firmwareMode index)

/-- The space in front of a line of the document. -/
def lineStart : Space := ⟨"\n  ".toList, Eq.refl true⟩

/-- The space behind its last line. -/
def lineEnd : Space := { text := "\n".toList }

def document : Json :=
  .object .none (Json.layMembers lineStart lineEnd
    (report.scalars.map scalarMember ++
      [(StringToken.key "fans", lineArray ((List.range report.cfg.fanLen).map report.fanObject))]))

def keys : List String :=
  ["model", "backend", "auto", "mode", "preset", "coolboost_available", "coolboost",
    "fan_mode_available", "fan_mode_cpu", "fan_mode_gpu", "platform_profile_available",
    "platform_profile", "power_source", "power_source_profile_policy_available",
    "power_source_profile_auto_apply", "power_source_ac_profile", "power_source_battery_profile",
    "keyboard_backlight_available", "keyboard_backlight_name", "keyboard_backlight_brightness",
    "keyboard_backlight_max_brightness", "keyboard_backlight_percent",
    "keyboard_backlight_backend", "keyboard_backlight_register",
    "keyboard_backlight_timeout_supported", "keyboard_backlight_timeout_enabled",
    "keyboard_backlight_timeout_seconds", "keyboard_backlight_timeout_backend",
    "keyboard_backlight_timed_off", "keyboard_backlight_restore_percent",
    "keyboard_backlight_reason", "timestamp"]

def fanKeys : List String :=
  ["id", "name", "component_name", "rpm", "temp_c", "sensor_temp_c", "control_temp_c",
    "control_sensor_temp_c", "temp_available", "control_temp_available", "control",
    "active_percent", "firmware_controlled", "percent", "requested_percent", "effective_percent",
    "write_value", "critical_temp_samples", "ec_read_failures", "ec_write_failures",
    "safety_active", "safety_reason"]

theorem scalars_keys : report.scalars.map Prod.fst = keys := rfl

theorem fanScalars_keys (cfg : AnsConfig) (states : FanStates) (names : HardwareNames)
    (firmwareMode : Bool) (index : Nat) :
    (fanScalars cfg states names firmwareMode index).map Prod.fst = fanKeys := rfl

theorem scalars_plain : PlainKeys report.scalars := by
  rw [PlainKeys, report.scalars_keys]
  decide

theorem fanScalars_plain (index : Nat) :
    PlainKeys (fanScalars report.cfg report.states report.names report.firmwareMode index) := by
  rw [PlainKeys, fanScalars_keys]
  decide

/-- The loop over the fans writes the array of their objects. -/
theorem fanPieces_spelled :
    "[\n".toList ++ ((List.range report.cfg.fanLen).flatMap (fun i =>
      (fanStatusPieces report.cfg report.states report.names report.firmwareMode i).flatMap
        JsonPiece.spelled) ++ "  ]".toList) =
      (lineArray ((List.range report.cfg.fanLen).map report.fanObject)).text := by
  rw [← lineArray_text]
  refine congrArg (fun lines => "[\n".toList ++ (lines ++ "  ]".toList)) ?_
  refine List.flatMap_congr fun i _ => ?_
  have nonempty : fanScalars report.cfg report.states report.names report.firmwareMode i ≠ [] :=
    List.cons_ne_nil _ _
  rw [fanStatusPieces_spelled, fanObject, inlineObject_text nonempty (report.fanScalars_plain i)]
  simp only [List.append_assoc, List.cons_append]

/-- The appends put the document together. -/
theorem pieces_spelled :
    report.pieces.flatMap JsonPiece.spelled = report.document.text ++ "\n".toList := by
  let fans := lineArray ((List.range report.cfg.fanLen).map report.fanObject)
  have plain : PlainText "fans".toList := by decide
  have laid : lineStart.text = "\n  ".toList := rfl
  have fansLine : ',' :: Json.memberLine lineStart (StringToken.key "fans", fans) =
      lineKey "fans" ++ fans.text := memberLine_scalar laid plain rfl
  have closing : "  ]\n\x7d\n".toList = "  ]".toList ++ ("\n".toList ++ "\x7d\n".toList) := rfl
  have nonempty : report.scalars.map scalarMember ++ [(StringToken.key "fans", fans)] ≠ [] := by
    simp
  have lines : (report.scalars.map scalarMember ++ [(StringToken.key "fans", fans)]).flatMap
      (fun member => ',' :: Json.memberLine lineStart member) =
      scalarLines "\n  " report.scalars ++ (lineKey "fans" ++ fans.text) := by
    rw [List.flatMap_append, scalarMembers_lines laid report.scalars_plain, List.flatMap_cons,
      List.flatMap_nil, List.append_nil, fansLine]
  have members : Json.membersText (Json.layMembers lineStart lineEnd
      (report.scalars.map scalarMember ++ [(StringToken.key "fans", fans)])) =
      (scalarLines "\n  " report.scalars).tail ++ (lineKey "fans" ++ (fans.text ++ "\n".toList)) := by
    have filled : scalarLines "\n  " report.scalars ≠ [] := List.cons_ne_nil _ _
    rw [membersText_lines nonempty, lines, List.tail_append_of_ne_nil filled, List.append_assoc,
      List.append_assoc]
    rfl
  have text : report.document.text = '\x7b' :: ((scalarLines "\n  " report.scalars).tail ++
      (lineKey "fans" ++ (fans.text ++ "\n\x7d".toList))) := by
    rw [document, Json.text, members]
    simp only [Space.none, List.nil_append, List.append_assoc]
    rfl
  rw [pieces, List.flatMap_append, List.flatMap_append, List.flatMap_assoc, headPieces_spelled, text,
    show fans.text = _ from (report.fanPieces_spelled).symm, List.flatMap_cons, List.flatMap_nil,
    JsonPiece.spelled, closing]
  simp only [List.append_assoc, List.cons_append, List.append_nil]
  rfl

/-- What the document says. -/
theorem document_data : report.document.data? = some report.data := by
  have fans : (lineArray ((List.range report.cfg.fanLen).map report.fanObject)).data? =
      some (.array ((List.range report.cfg.fanLen).map fun index => .object (scalarObject
        (fanScalars report.cfg report.states report.names report.firmwareMode index)))) :=
    lineArray_data fun index _ => inlineObject_data (report.fanScalars_plain index)
  have key : (StringToken.key "fans").value = "fans".toList := (key_plain (by decide)).2
  have members := layMembers_data_concat lineStart lineEnd
    (scalarMembers_data report.scalars_plain) key fans
  rw [document, Json.data?, members]
  rfl

theorem format_eq (bufLen : Nat) :
    report.format bufLen =
      if (report.document.text ++ "\n".toList).length < bufLen then
        some (report.document.text ++ "\n".toList)
      else none := by
  have nonempty : report.pieces ≠ [] := List.cons_ne_nil _ _
  have text := TextBuffer.appendPieces_text nonempty bufLen
  rw [report.pieces_spelled] at text
  exact text

end StatusReport

/--
Whatever the strings and the numbers of the daemon's state: the text that
`format_status_json` puts together is a JSON document and a line break, the
document says what the state is, and the text is kept exactly when it fits.
-/
theorem status_json_document (report : StatusReport) :
    ∃ document : Json, document.data? = some report.data ∧
      ∀ bufLen, report.format bufLen =
        if (document.text ++ "\n".toList).length < bufLen then some (document.text ++ "\n".toList)
        else none :=
  ⟨report.document, report.document_data, report.format_eq⟩

end NitroSense
