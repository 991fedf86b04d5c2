import NitroSense.Daemon.State
import NitroSense.Json.Scalars

/-!
# The saved state read back

The text `write_control_state` produces is a list of quoted strings with their
layouts, and the reader finds a key at the first string with that text, key or
value.
-/

namespace NitroSense

open Lib

/-! ## The text as items -/

/-- What follows a fan's percent. -/
def percentLayout (percent : Int) (comma next : CString) : CString :=
  ": ".toList ++ decimal percent ++ " \x7d".toList ++ comma ++ "\n".toList ++ next

theorem percentLayout_eq (percent : Int) (comma next : CString) :
    percentLayout percent comma next =
      ": ".toList ++ decimal percent ++ " \x7d".toList ++ comma ++ "\n".toList ++ next := rfl

def fanItem (fan : CString × Int) (comma next : CString) : List (CString × CString) :=
  [("id".toList, ": ".toList), (fan.1, ", ".toList),
    ("percent".toList, percentLayout fan.2 comma next)]

/-- The items of the fan lines, from the first `id` to the end of the text. -/
def fanItems : List (CString × Int) → List (CString × CString)
  | [] => []
  | [fan] => fanItem fan [] "  ]\n\x7d\n".toList
  | fan :: rest => fanItem fan ",".toList "    \x7b ".toList ++ fanItems rest

/-- The items of the whole text, which starts with a brace and an indent. -/
def savedItems (daemon : Daemon) (fans : List (CString × Int)) :
    List (CString × CString) :=
  controlStateItems daemon.autoMode daemon.preset daemon.runtime daemon.host.time ++
    ("fans".toList, ": [\n".toList ++ "    \x7b ".toList) :: fanItems fans

theorem controlStateFan_append (fan : CString × Int) (comma next : CString) :
    controlStateFan fan.1 fan.2 comma ++ next =
      "    \x7b ".toList ++ jsonItems (fanItem fan comma next) := by
  have line : controlStateFan fan.1 fan.2 comma ++ next =
      "    \x7b ".toList ++ (jsonItems ([("id".toList, ": ".toList), (fan.1, ", ".toList)] ++
        [("percent".toList, ": ".toList ++ decimal fan.2 ++ " \x7d".toList ++ comma ++
          "\n".toList)]) ++ next) := List.append_assoc _ _ _
  rw [line, jsonItems_concat_append]
  rfl

theorem controlStateFans_flatten {fans : List (CString × Int)} (nonempty : fans ≠ []) :
    (controlStateFans fans ++ ["  ]\n\x7d\n".toList]).flatten =
      "    \x7b ".toList ++ jsonItems (fanItems fans) := by
  induction fans with
  | nil => exact absurd rfl nonempty
  | cons fan rest ih =>
      cases rest with
      | nil => exact controlStateFan_append fan [] _
      | cons next rest =>
          have tail := ih (List.cons_ne_nil next rest)
          have line : (controlStateFans (fan :: next :: rest) ++ ["  ]\n\x7d\n".toList]).flatten =
              controlStateFan fan.1 fan.2 ",".toList ++
                (controlStateFans (next :: rest) ++ ["  ]\n\x7d\n".toList]).flatten := rfl
          rw [line, tail, ← List.append_assoc, controlStateFan_append]
          exact (List.append_assoc _ _ _).trans (congrArg _ (jsonItems_append _ _).symm)

def savedJson (daemon : Daemon) (fans : List (CString × Int)) : CString :=
  "\x7b\n  ".toList ++ jsonItems (savedItems daemon fans)

theorem controlState_flatten (daemon : Daemon) {fans : List (CString × Int)}
    (nonempty : fans ≠ []) :
    (controlStateHeader daemon.autoMode daemon.preset daemon.runtime daemon.host.time ::
        (controlStateFans fans ++ ["  ]\n\x7d\n".toList])).flatten =
      savedJson daemon fans := by
  have whole : savedJson daemon fans = "\x7b\n  ".toList ++
      (jsonItems (controlStateItems daemon.autoMode daemon.preset daemon.runtime
          daemon.host.time) ++
        (quoted "fans".toList ++ (": [\n".toList ++ "    \x7b ".toList) ++
          jsonItems (fanItems fans))) := by
    rw [savedJson, savedItems, jsonItems_append, jsonItems_cons]
  have header : controlStateHeader daemon.autoMode daemon.preset daemon.runtime
      daemon.host.time = "\x7b\n  ".toList ++ jsonItems (controlStateItems daemon.autoMode
        daemon.preset daemon.runtime daemon.host.time) ++ quoted "fans".toList ++
        ": [\n".toList := rfl
  rw [List.flatten_cons, controlStateFans_flatten nonempty, whole, header]
  simp only [List.append_assoc]

/-! ## The text fits its buffer and is well laid out -/

theorem controlMode_cases (autoMode : Bool) (preset : CString) :
    controlMode autoMode preset = "auto".toList ∨
      controlMode autoMode preset = firmwareAutoPreset ∨
      controlMode autoMode preset = "manual".toList ∨
      controlMode autoMode preset = "preset".toList := by
  unfold controlMode
  split
  · exact Or.inl rfl
  · split
    · exact Or.inr (Or.inl rfl)
    · split
      · exact Or.inr (Or.inr (Or.inl rfl))
      · exact Or.inr (Or.inr (Or.inr rfl))

theorem decimal_noQuote (value : Int) : '"' ∉ decimal value := by
  intro member
  rcases mem_decimal member with sign | digit
  · cases sign
  · cases digit

theorem plainText_noQuote {text : CString} (plain : PlainText text) : '"' ∉ text := by
  intro member
  exact of_decide_eq_true (plain.noQuote _ member) rfl

theorem laidOut_item {key layout : CString} (keyFree : '"' ∉ key) (layoutFree : '"' ∉ layout)
    (mark : layout.head? = some ':' ∨ layout.head? = some ',') : LaidOut (key, layout) :=
  ⟨keyFree, layoutFree, mark⟩

/-- A boolean's layout. -/
theorem boolItem_laidOut {key : CString} (keyFree : '"' ∉ key) (value : Bool) :
    LaidOut (key, ": ".toList ++ boolText value ++ ",\n  ".toList) := by
  cases value <;> exact laidOut_item keyFree (by decide) (Or.inl rfl)

/-- A numeral's layout. -/
theorem decimalItem_laidOut {key layout : CString} (keyFree : '"' ∉ key) (layoutFree : '"' ∉ layout)
    (value : Int) : LaidOut (key, ": ".toList ++ decimal value ++ layout) := by
  have colon : '"' ∉ ": ".toList := by decide
  refine ⟨keyFree, ?_, Or.inl rfl⟩
  simp only [List.mem_append, not_or]
  exact ⟨⟨colon, decimal_noQuote value⟩, layoutFree⟩

theorem controlStateItems_laidOut (autoMode : Bool) {preset : CString} (runtime : RuntimeState)
    (time : Int64) (presetFree : '"' ∉ preset) :
    ∀ item ∈ controlStateItems autoMode preset runtime time, LaidOut item := by
  have mode : LaidOut (controlMode autoMode preset, ",\n  ".toList) := by
    rcases controlMode_cases autoMode preset with same | same | same | same <;> rw [same] <;>
      exact ⟨by decide, by decide, Or.inr rfl⟩
  simp only [controlStateItems, List.forall_mem_cons]
  exact ⟨⟨by decide, by decide, Or.inl rfl⟩, ⟨by decide, by decide, Or.inl rfl⟩, mode,
    boolItem_laidOut (by decide) _, ⟨by decide, by decide, Or.inl rfl⟩,
    laidOut_item presetFree (by decide) (Or.inr rfl), ⟨by decide, by decide, Or.inl rfl⟩,
    boolItem_laidOut (by decide) _, boolItem_laidOut (by decide) _,
    decimalItem_laidOut (by decide) (by decide) _, fun _ none => nomatch none⟩

theorem fanItem_laidOut {fan : CString × Int} {comma next : CString} (idFree : '"' ∉ fan.1)
    (commaFree : '"' ∉ comma) (nextFree : '"' ∉ next) :
    ∀ item ∈ fanItem fan comma next, LaidOut item := by
  have brace : '"' ∉ " \x7d".toList := by decide
  have line : '"' ∉ "\n".toList := by decide
  have layout : '"' ∉ " \x7d".toList ++ comma ++ "\n".toList ++ next := by
    simp only [List.mem_append, not_or]
    exact ⟨⟨⟨brace, commaFree⟩, line⟩, nextFree⟩
  have percent := decimalItem_laidOut (by decide : '"' ∉ "percent".toList) layout fan.2
  have same : percentLayout fan.2 comma next = ": ".toList ++ decimal fan.2 ++
      (" \x7d".toList ++ comma ++ "\n".toList ++ next) := by
    simp only [percentLayout_eq, List.append_assoc]
  simp only [fanItem, List.forall_mem_cons]
  exact ⟨⟨by decide, by decide, Or.inl rfl⟩, laidOut_item idFree (by decide) (Or.inr rfl),
    same ▸ percent, fun _ none => nomatch none⟩

theorem fanItems_laidOut {fans : List (CString × Int)} (idsFree : ∀ fan ∈ fans, '"' ∉ fan.1) :
    ∀ item ∈ fanItems fans, LaidOut item := by
  induction fans with
  | nil => exact fun _ none => nomatch none
  | cons fan rest ih =>
      obtain ⟨idFree, restFree⟩ := List.forall_mem_cons.mp idsFree
      cases rest with
      | nil => exact fanItem_laidOut idFree (by decide) (by decide)
      | cons next rest =>
          intro item member
          rcases List.mem_append.mp member with here | later
          · exact fanItem_laidOut idFree (by decide) (by decide) item here
          · exact ih restFree item later

theorem savedItems_laidOut {daemon : Daemon} {fans : List (CString × Int)}
    (presetFree : '"' ∉ daemon.preset) (idsFree : ∀ fan ∈ fans, '"' ∉ fan.1) :
    ∀ item ∈ savedItems daemon fans, LaidOut item := by
  intro item member
  rcases List.mem_append.mp member with header | rest
  · exact controlStateItems_laidOut _ _ _ presetFree item header
  · rcases List.mem_cons.mp rest with rfl | later
    · exact ⟨by decide, by decide, Or.inl rfl⟩
    · exact fanItems_laidOut idsFree item later

/-- Items that are short make a short text. -/
theorem jsonItems_length_le {bound : Nat} {items : List (CString × CString)}
    (short : ∀ item ∈ items, item.1.length + item.2.length + 2 ≤ bound) :
    (jsonItems items).length ≤ items.length * bound := by
  induction items with
  | nil => simp [jsonItems]
  | cons item items ih =>
      obtain ⟨here, later⟩ := List.forall_mem_cons.mp short
      have tail := ih later
      have string : (quoted item.1).length = item.1.length + 2 := by simp [quoted]
      rw [jsonItems_cons, List.length_append, List.length_append, string, List.length_cons,
        Nat.add_mul]
      omega

theorem controlStateItems_short (autoMode : Bool) {preset : CString} (runtime : RuntimeState)
    (time : Int64) (presetShort : preset.length < 32) :
    ∀ item ∈ controlStateItems autoMode preset runtime time,
      item.1.length + item.2.length + 2 ≤ 48 := by
  have mode : (controlMode autoMode preset).length + ",\n  ".toList.length + 2 ≤ 48 := by
    rcases controlMode_cases autoMode preset with same | same | same | same <;> rw [same] <;> decide
  have bool {key : CString} (keyShort : key.length ≤ 34) (value : Bool) :
      key.length + (": ".toList ++ boolText value ++ ",\n  ".toList).length + 2 ≤ 48 := by
    have layout : (": ".toList ++ boolText value ++ ",\n  ".toList).length ≤ 11 := by
      cases value <;> decide
    omega
  have stamp : "timestamp".toList.length +
      (": ".toList ++ decimal time.toInt ++ ",\n  ".toList).length + 2 ≤ 48 := by
    have lower := time.le_toInt
    have upper := time.toInt_lt
    have digits : (decimal time.toInt).length ≤ 19 + 1 :=
      decimal_length_le (by decide) (by omega)
    have key : "timestamp".toList.length = 9 := rfl
    have colon : ": ".toList.length = 2 := rfl
    have comma : ",\n  ".toList.length = 4 := rfl
    rw [List.length_append, List.length_append]
    omega
  have name : preset.length + ",\n  ".toList.length + 2 ≤ 48 := by
    have comma : ",\n  ".toList.length = 4 := rfl
    omega
  simp only [controlStateItems, List.forall_mem_cons]
  exact ⟨by decide, by decide, mode, bool (by decide) _, by decide, name, by decide,
    bool (by decide) _, bool (by decide) _, stamp, fun _ none => nomatch none⟩

/-- A fan that can be saved: an id that fits its buffer, and a percent. -/
structure SavableFan (fan : CString × Int) : Prop where
  plain : PlainText fan.1
  short : fan.1.length < 16
  percent : 1 ≤ fan.2 ∧ fan.2 ≤ 100

theorem fanItem_short {fan : CString × Int} (savable : SavableFan fan) {comma next : CString}
    (commaShort : comma.length ≤ 1) (nextShort : next.length ≤ 6) :
    ∀ item ∈ fanItem fan comma next, item.1.length + item.2.length + 2 ≤ 40 := by
  have id : fan.1.length + ", ".toList.length + 2 ≤ 40 := by
    have short := savable.short
    have comma : ", ".toList.length = 2 := rfl
    omega
  have percent : "percent".toList.length + (percentLayout fan.2 comma next).length + 2 ≤ 40 := by
    have digits : (decimal fan.2).length ≤ 3 + 1 :=
      decimal_length_le (by decide) (by have := savable.percent; omega)
    have key : "percent".toList.length = 7 := rfl
    have colon : ": ".toList.length = 2 := rfl
    have brace : " \x7d".toList.length = 2 := rfl
    have line : "\n".toList.length = 1 := rfl
    simp only [percentLayout_eq, List.length_append]
    omega
  simp only [fanItem, List.forall_mem_cons]
  exact ⟨by decide, id, percent, fun _ none => nomatch none⟩

theorem fanItems_short {fans : List (CString × Int)} (savable : ∀ fan ∈ fans, SavableFan fan) :
    (∀ item ∈ fanItems fans, item.1.length + item.2.length + 2 ≤ 40) ∧
      (fanItems fans).length = 3 * fans.length := by
  induction fans with
  | nil => exact ⟨fun _ none => (nomatch none), rfl⟩
  | cons fan rest ih =>
      obtain ⟨here, later⟩ := List.forall_mem_cons.mp savable
      cases rest with
      | nil => exact ⟨fanItem_short here (by decide) (by decide), rfl⟩
      | cons next rest =>
          obtain ⟨short, length⟩ := ih later
          refine ⟨fun item member => ?_, ?_⟩
          · rcases List.mem_append.mp member with first | tail
            · exact fanItem_short here (by decide) (by decide) item first
            · exact short item tail
          · have items : (fanItems (fan :: next :: rest)).length =
                3 + (fanItems (next :: rest)).length := by
              rw [fanItems, List.length_append]
              · rfl
              · exact List.cons_ne_nil next rest
            rw [items, length]
            simp only [List.length_cons]
            omega

/-- What the writer of an accepted profile gets to save. -/
structure Savable (daemon : Daemon) (fans : List (CString × Int)) : Prop where
  preset : PlainText daemon.preset
  presetShort : daemon.preset.length < 32
  each : ∀ fan ∈ fans, SavableFan fan
  fanLen : 1 ≤ fans.length ∧ fans.length ≤ 2

section Saved

variable {daemon : Daemon} {fans : List (CString × Int)}

theorem Savable.laidOut (savable : Savable daemon fans) :
    ∀ item ∈ savedItems daemon fans, LaidOut item :=
  savedItems_laidOut (plainText_noQuote savable.preset)
    fun fan member => plainText_noQuote (savable.each fan member).plain

theorem Savable.nonempty (savable : Savable daemon fans) : fans ≠ [] := by
  rintro rfl
  exact absurd savable.fanLen.1 (by decide)

/-- The text of an accepted profile always fits its buffer. -/
theorem savedJson_length (savable : Savable daemon fans) : (savedJson daemon fans).length < 1024 := by
  have header := jsonItems_length_le (controlStateItems_short daemon.autoMode daemon.runtime
    daemon.host.time savable.presetShort)
  obtain ⟨fanShort, fanCount⟩ := fanItems_short savable.each
  have lines := jsonItems_length_le fanShort
  have count : (controlStateItems daemon.autoMode daemon.preset daemon.runtime
      daemon.host.time).length = 10 := rfl
  have start : "\x7b\n  ".toList.length = 4 := rfl
  have fansItem : (quoted "fans".toList ++ (": [\n".toList ++ "    \x7b ".toList)).length = 16 := rfl
  have few := savable.fanLen.2
  rw [count] at header
  rw [fanCount] at lines
  rw [savedJson, savedItems, jsonItems_append, jsonItems_cons, List.length_append,
    List.length_append, List.length_append, fansItem, start]
  omega

theorem controlStateText_eq {cfg : AnsConfig}
    (savable : Savable daemon (savedFans cfg daemon.states)) :
    controlStateText cfg daemon = some (savedJson daemon (savedFans cfg daemon.states)) := by
  have flat := controlState_flatten daemon savable.nonempty
  have fits := savedJson_length savable
  rw [controlStateText, TextBuffer.appendAll_of_lt (by rw [flat]; simpa using fits), flat]
  rfl

theorem startFree : '"' ∉ "\x7b\n  ".toList := by decide

theorem comma_append (rest : CString) : ",\n  ".toList ++ rest = ',' :: ("\n  ".toList ++ rest) := rfl

theorem boolLayout_solid (value : Bool) (after : List (CString × CString)) :
    (boolText value ++ ",\n  ".toList ++ jsonItems after).dropWhile isBlank =
      boolText value ++ ",\n  ".toList ++ jsonItems after := by
  cases value <;> rfl

/-- A boolean behind the first item with its key is read back. -/
theorem savedBool (savable : Savable daemon fans) {key : CString} {value fallback : Bool}
    {before after : List (CString × CString)} (keyText : KeyText key)
    (split : savedItems daemon fans =
      before ++ (key, ": ".toList ++ (boolText value ++ ",\n  ".toList)) :: after)
    (absent : ∀ item ∈ before, item.1 ≠ key) :
    jsonBoolKey (savedJson daemon fans) key fallback = value := by
  have laidOut := savable.laidOut
  rw [split] at laidOut
  have found := jsonValue_items _ _ keyText startFree laidOut absent (boolLayout_solid value after)
  rw [List.append_assoc, comma_append] at found
  rw [jsonBoolKey, savedJson, split, jsonBoolKeyChecked_of_value found, Option.getD_some]

/-- The flag `auto` is read back, in auto mode from behind the mode of that name. -/
theorem saved_auto (savable : Savable daemon fans) {fallback : Bool} :
    jsonBoolKey (savedJson daemon fans) "auto".toList fallback = daemon.autoMode := by
  cases mode : daemon.autoMode with
  | true =>
      have laidOut := savable.laidOut
      obtain ⟨after, split⟩ : ∃ after, savedItems daemon fans =
          [("schema".toList, ": 1,\n  ".toList), ("mode".toList, ": ".toList)] ++
            ("auto".toList, ",\n  ".toList) ::
              ("auto".toList, ": ".toList ++ (boolText true ++ ",\n  ".toList)) :: after := by
        rw [savedItems, mode]
        exact ⟨_, rfl⟩
      rw [split] at laidOut
      have found := jsonValue_shadowed _ _ (by decide) startFree laidOut (by decide) (by decide)
        (by decide) (boolLayout_solid true after)
      rw [List.append_assoc, comma_append] at found
      rw [jsonBoolKey, savedJson, split, jsonBoolKeyChecked_of_value found, Option.getD_some]
  | false =>
      have other : controlMode false daemon.preset ≠ "auto".toList := by
        rw [controlMode, if_neg (by decide)]
        split
        · decide
        · split <;> decide
      obtain ⟨after, split⟩ : ∃ after, savedItems daemon fans =
          [("schema".toList, ": 1,\n  ".toList), ("mode".toList, ": ".toList),
            (controlMode false daemon.preset, ",\n  ".toList)] ++
            ("auto".toList, ": ".toList ++ (boolText false ++ ",\n  ".toList)) :: after := by
        rw [savedItems, mode]
        exact ⟨_, rfl⟩
      refine savedBool savable (by decide) split ?_
      simp only [List.forall_mem_cons]
      exact ⟨by decide, by decide, other, fun _ none => nomatch none⟩

theorem controlMode_ne {key : CString} (autoMode : Bool) (preset : CString)
    (other : key ∉ ["auto".toList, firmwareAutoPreset, "manual".toList, "preset".toList]) :
    controlMode autoMode preset ≠ key := by
  rintro rfl
  refine other ?_
  rcases controlMode_cases autoMode preset with same | same | same | same <;> rw [same] <;> decide

theorem saved_powerSource (savable : Savable daemon fans) {fallback : Bool}
    (other : daemon.preset ≠ "power_source_auto_apply".toList) :
    jsonBoolKey (savedJson daemon fans) "power_source_auto_apply".toList fallback =
      daemon.runtime.powerSourceAutoApply := by
  obtain ⟨after, split⟩ : ∃ after, savedItems daemon fans =
      [("schema".toList, ": 1,\n  ".toList), ("mode".toList, ": ".toList),
        (controlMode daemon.autoMode daemon.preset, ",\n  ".toList),
        ("auto".toList, ": ".toList ++ (boolText daemon.autoMode ++ ",\n  ".toList)),
        ("preset".toList, ": ".toList), (daemon.preset, ",\n  ".toList),
        ("coolboost".toList, ": false,\n  ".toList)] ++
        ("power_source_auto_apply".toList,
          ": ".toList ++ (boolText daemon.runtime.powerSourceAutoApply ++ ",\n  ".toList)) ::
          after := ⟨_, rfl⟩
  refine savedBool savable (by decide) split ?_
  simp only [List.forall_mem_cons]
  exact ⟨by decide, by decide, controlMode_ne _ _ (by decide), by decide, by decide, other,
    by decide, fun _ none => nomatch none⟩

theorem saved_timeout (savable : Savable daemon fans) {fallback : Bool}
    (other : daemon.preset ≠ "keyboard_backlight_timeout_enabled".toList) :
    jsonBoolKey (savedJson daemon fans) "keyboard_backlight_timeout_enabled".toList fallback =
      daemon.runtime.keyboardBacklightTimeoutEnabled := by
  obtain ⟨after, split⟩ : ∃ after, savedItems daemon fans =
      [("schema".toList, ": 1,\n  ".toList), ("mode".toList, ": ".toList),
        (controlMode daemon.autoMode daemon.preset, ",\n  ".toList),
        ("auto".toList, ": ".toList ++ (boolText daemon.autoMode ++ ",\n  ".toList)),
        ("preset".toList, ": ".toList), (daemon.preset, ",\n  ".toList),
        ("coolboost".toList, ": false,\n  ".toList),
        ("power_source_auto_apply".toList,
          ": ".toList ++ (boolText daemon.runtime.powerSourceAutoApply ++ ",\n  ".toList))] ++
        ("keyboard_backlight_timeout_enabled".toList, ": ".toList ++
          (boolText daemon.runtime.keyboardBacklightTimeoutEnabled ++ ",\n  ".toList)) ::
          after := ⟨_, rfl⟩
  refine savedBool savable (by decide) split ?_
  simp only [List.forall_mem_cons]
  exact ⟨by decide, by decide, controlMode_ne _ _ (by decide), by decide, by decide, other,
    by decide, by decide, fun _ none => nomatch none⟩

/-- Outside preset mode the preset is read back. -/
theorem saved_preset (savable : Savable daemon fans)
    (mode : controlMode daemon.autoMode daemon.preset ≠ "preset".toList) {out : CString} :
    jsonStringKey (savedJson daemon fans) "preset".toList out 32 = daemon.preset := by
  have laidOut := savable.laidOut
  obtain ⟨after, split⟩ : ∃ after, savedItems daemon fans =
      [("schema".toList, ": 1,\n  ".toList), ("mode".toList, ": ".toList),
        (controlMode daemon.autoMode daemon.preset, ",\n  ".toList),
        ("auto".toList, ": ".toList ++ (boolText daemon.autoMode ++ ",\n  ".toList))] ++
        ("preset".toList, ": ".toList ++ []) :: (daemon.preset, ",\n  ".toList) :: after :=
    ⟨_, rfl⟩
  rw [split] at laidOut
  have absent : ∀ item ∈ [("schema".toList, ": 1,\n  ".toList), ("mode".toList, ": ".toList),
      (controlMode daemon.autoMode daemon.preset, ",\n  ".toList),
      ("auto".toList, ": ".toList ++ (boolText daemon.autoMode ++ ",\n  ".toList))],
      item.1 ≠ "preset".toList := by
    simp only [List.forall_mem_cons]
    exact ⟨by decide, by decide, mode, by decide, fun _ none => nomatch none⟩
  have found := jsonValue_items _ _ (by decide) startFree laidOut absent rfl
  rw [List.nil_append, jsonItems_cons, List.append_assoc, comma_append] at found
  rw [savedJson, split, jsonStringKey_of_value savable.preset savable.presetShort found]

/-- In preset mode the mode's own name hides the preset. -/
theorem saved_preset_shadowed (savable : Savable daemon fans)
    (mode : controlMode daemon.autoMode daemon.preset = "preset".toList) {out : CString} :
    jsonStringKey (savedJson daemon fans) "preset".toList out 32 = out := by
  have laidOut := savable.laidOut
  obtain ⟨after, split⟩ : ∃ after, savedItems daemon fans =
      [("schema".toList, ": 1,\n  ".toList), ("mode".toList, ": ".toList)] ++
        ("preset".toList, ",\n  ".toList) ::
          ("auto".toList, ": ".toList ++ (boolText daemon.autoMode ++ ",\n  ".toList)) :: after := by
    rw [savedItems, controlStateItems, mode]
    exact ⟨_, rfl⟩
  rw [split] at laidOut
  have found := jsonValue_shadowed _ _ (by decide) startFree laidOut (by decide) (by decide)
    (by decide) (boolLayout_solid _ after)
  rw [savedJson, split]
  cases flag : daemon.autoMode with
  | true =>
      rw [flag] at found
      exact jsonStringKey_of_noString (by decide : 't' ≠ '"') found
  | false =>
      rw [flag] at found
      exact jsonStringKey_of_noString (by decide : 'f' ≠ '"') found

/-! ## The percents of the fans -/

/-- A search for another fan goes past the items of this one. -/
theorem findSegments_fanItem {fan : CString × Int} {comma next id : CString}
    (laidOut : ∀ item ∈ fanItem fan comma next, LaidOut item) (other : fan.1 ≠ id)
    (items : List (CString × CString)) :
    findSegments ["id".toList, ": ".toList, id] (itemSegments (fanItem fan comma next ++ items)) =
      findSegments ["id".toList, ": ".toList, id] (itemSegments items) := by
  obtain ⟨idItem, nameItem, percentItem, _⟩ := by
    simpa only [fanItem, List.forall_mem_cons] using laidOut
  have keyText : KeyText "id".toList := by decide
  simp only [fanItem, List.cons_append, List.nil_append]
  rw [findSegments_skip keyText idItem, findSegments_skip keyText nameItem,
    findSegments_skip keyText percentItem]
  · simp only [itemSegments_cons, heads_cons, not_and]
    intro same
    exact absurd same (by decide)
  · simp only [itemSegments_cons, heads_cons, not_and]
    intro _ same
    exact absurd same (by decide)
  · simp only [itemSegments_cons, heads_cons, not_and]
    intro _ _ same
    exact absurd same other

/-- Where the items of a fan start, they are found. -/
theorem findSegments_fan (laidOut : ∀ item ∈ fanItems fans, LaidOut item)
    (distinct : (fans.map Prod.fst).Nodup) {fan : CString × Int} (member : fan ∈ fans) :
    ∃ comma next after, (∀ item ∈ fanItem fan comma next ++ after, LaidOut item) ∧
      findSegments ["id".toList, ": ".toList, fan.1] (itemSegments (fanItems fans)) =
        some (itemSegments (fanItem fan comma next ++ after)) := by
  have here (comma next : CString) (after : List (CString × CString)) :
      findSegments ["id".toList, ": ".toList, fan.1]
          (itemSegments (fanItem fan comma next ++ after)) =
        some (itemSegments (fanItem fan comma next ++ after)) :=
    findSegments_here ⟨", ".toList, _, rfl⟩
  induction fans with
  | nil => cases member
  | cons first rest ih =>
      obtain ⟨fresh, distinctRest⟩ := List.nodup_cons.mp distinct
      cases rest with
      | nil =>
          rw [List.mem_singleton.mp member]
          rw [List.mem_singleton.mp member] at here
          have found := here [] "  ]\n\x7d\n".toList []
          rw [List.append_nil] at found
          refine ⟨[], "  ]\n\x7d\n".toList, [], ?_, ?_⟩
          · rw [List.append_nil]
            exact laidOut
          · rw [List.append_nil]
            exact found
      | cons second rest =>
          have items : fanItems (first :: second :: rest) =
              fanItem first ",".toList "    \x7b ".toList ++ fanItems (second :: rest) := rfl
          rw [items] at laidOut ⊢
          rcases List.mem_cons.mp member with rfl | later
          · exact ⟨_, _, _, laidOut, here _ _ _⟩
          · have other : first.1 ≠ fan.1 :=
              fun same => fresh (same ▸ List.mem_map_of_mem later)
            rw [findSegments_fanItem (fun item inside => laidOut item
              (List.mem_append_left _ inside)) other]
            exact ih (fun item inside => laidOut item (List.mem_append_right _ inside))
              distinctRest later

/-- The percent of a fan's items is read back, also when the fan is called `percent`. -/
theorem saved_fanItem {fan : CString × Int} (savable : SavableFan fan) {comma next : CString}
    {after : List (CString × CString)} (fallback : Int)
    (laidOut : ∀ item ∈ fanItem fan comma next ++ after, LaidOut item) :
    jsonIntKey (jsonItems (fanItem fan comma next ++ after)) "percent".toList fallback = fan.2 := by
  have layout : percentLayout fan.2 comma next = ": ".toList ++ (decimal fan.2 ++
      (" \x7d".toList ++ (comma ++ ("\n".toList ++ next)))) := by
    simp only [percentLayout_eq, List.append_assoc]
  have solid := decimal_solid fan.2
    (" \x7d".toList ++ (comma ++ ("\n".toList ++ next)) ++ jsonItems after)
  rw [← List.append_assoc] at solid
  have value : jsonValue (jsonItems (fanItem fan comma next ++ after)) "percent".toList =
      some (decimal fan.2 ++ (" \x7d".toList ++ (comma ++ ("\n".toList ++ next))) ++
        jsonItems after) := by
    rw [fanItem, layout] at laidOut ⊢
    by_cases name : fan.1 = "percent".toList
    · rw [name] at laidOut ⊢
      exact jsonValue_shadowed [] [("id".toList, ": ".toList)] (by decide) (by decide)
        laidOut (by decide) (by decide) (by decide) solid
    · refine jsonValue_items [] [("id".toList, ": ".toList), (fan.1, ", ".toList)] (by decide)
        (by decide) laidOut ?_ solid
      simp only [List.forall_mem_cons]
      exact ⟨by decide, name, fun _ none => nomatch none⟩
  rw [List.append_assoc, List.append_assoc] at value
  have ends : ValueEnds (" \x7d".toList ++ (comma ++ ("\n".toList ++ next) ++ jsonItems after)) :=
    .blank rfl (.delimiter (Or.inr (Or.inl rfl)) _)
  have bounds := savable.percent
  rw [jsonIntKey, jsonIntKeyChecked_of_value ⟨by omega, by omega⟩ ends value, Option.getD_some]

/-- Every fan's percent is read back. -/
theorem saved_percent (savable : Savable daemon fans) (distinct : (fans.map Prod.fst).Nodup)
    (other : daemon.preset ≠ "id".toList) {fan : CString × Int} (member : fan ∈ fans)
    {fallback : Int} :
    jsonSavedPercentForFan (savedJson daemon fans) fan.1 fallback = fan.2 := by
  have savableFan := savable.each fan member
  have laidOut := savable.laidOut
  have short := savableFan.short
  have fansLaidOut : ∀ item ∈ fanItems fans, LaidOut item :=
    fun item inside => laidOut item (List.mem_append_right _ (List.mem_cons_of_mem _ inside))
  obtain ⟨comma, next, after, fanLaidOut, found⟩ := findSegments_fan fansLaidOut distinct member
  have past : findSegments ["id".toList, ": ".toList, fan.1] (itemSegments (savedItems daemon fans)) =
      findSegments ["id".toList, ": ".toList, fan.1] (itemSegments (fanItems fans)) := by
    have split : savedItems daemon fans = (controlStateItems daemon.autoMode daemon.preset
        daemon.runtime daemon.host.time ++ [("fans".toList, ": [\n".toList ++ "    \x7b ".toList)]) ++
        fanItems fans := by
      rw [savedItems, List.append_assoc]
      rfl
    rw [split] at laidOut ⊢
    refine findSegments_past (by decide) (fun item inside => laidOut item
      (List.mem_append_left _ inside)) ?_
    simp only [controlStateItems, List.cons_append, List.nil_append, List.forall_mem_cons]
    exact ⟨by decide, by decide, controlMode_ne _ _ (by decide), by decide, by decide, other,
      by decide, by decide, by decide, by decide, by decide, fun _ none => nomatch none⟩
  have object := jsonObjectWithId_items (by omega : fan.1.length ≤ 55)
    (plainText_noQuote savableFan.plain) startFree laidOut
  rw [past, found, Option.map_some, ← jsonItems_eq_marked] at object
  have percent := saved_fanItem savableFan fallback fanLaidOut
  have bounds := savableFan.percent
  rw [jsonSavedPercentForFan, savedJson, object]
  dsimp only
  rw [percent, if_neg (by omega)]

end Saved

end NitroSense
