import NitroSense.Daemon.SavedState

/-!
# The temperature cache read back

`write_temperature_cache` of `daemon/status.c`, and what seeding from its text
restores.  The reader finds the first `id` followed by the fan's own and takes
the next temperatures behind it, so ids must not be taken for keys.
-/

namespace NitroSense

open Lib

/-! ## The writer -/

/-- What the loop of `write_temperature_cache` appends behind the id of fan `i`. -/
def cachedTemperatures (cfg : AnsConfig) (states : FanStates) (i : Nat) : CString :=
  ", \"temp_c\": ".toList ++ decimal (states i).tempC ++ ", \"control_temp_c\": ".toList ++
    decimal (states i).controlTempC ++ " \x7d".toList ++
    (if i = cfg.fanLen - 1 then [] else ",".toList) ++ "\n".toList

/-- The loop body of `write_temperature_cache`. -/
def appendCachedFan (cfg : AnsConfig) (states : FanStates) (i : Nat) (out : TextBuffer) :
    TextBuffer :=
  ((out.append "    \x7b \"id\": ".toList).appendJson (cfg.fan i).id).append
    (cachedTemperatures cfg states i)

def temperatureCacheText (cfg : AnsConfig) (states : FanStates) : Option CString :=
  let buffer : TextBuffer := { cap := 512 }
  let out := (loop cfg.fanLen (appendCachedFan cfg states)
    (buffer.append "\x7b\n  \"fans\": [\n".toList)).append "  ]\n\x7d\n".toList
  if out.truncated then none else some out.text

/-! ## The text as items -/

/-- What follows the temperatures of fan `i`, up to the next quote or the end. -/
def cacheGap (cfg : AnsConfig) (i : Nat) : CString :=
  " \x7d".toList ++ if i = cfg.fanLen - 1 then "\n  ]\n\x7d\n".toList else ",\n    \x7b ".toList

def cacheItem (cfg : AnsConfig) (states : FanStates) (i : Nat) : List (CString × CString) :=
  [("id".toList, ": ".toList), ((cfg.fan i).id, ", ".toList),
    ("temp_c".toList, ": ".toList ++ (decimal (states i).tempC ++ ", ".toList)),
    ("control_temp_c".toList, ": ".toList ++ (decimal (states i).controlTempC ++ cacheGap cfg i))]

/-- The items in front of the fans' lines. -/
def cacheHeader : CString × CString := ("fans".toList, ": [\n    \x7b ".toList)

/-- The items of the text after `count` fans. -/
def cacheItems (cfg : AnsConfig) (states : FanStates) (count : Nat) : List (CString × CString) :=
  cacheHeader :: (List.range count).flatMap (cacheItem cfg states)

/-- What stands behind `count` finished lines. -/
def cacheNext (cfg : AnsConfig) (count : Nat) : CString :=
  if count = cfg.fanLen then "  ]\n\x7d\n".toList else "    \x7b ".toList

def cacheJson (cfg : AnsConfig) (states : FanStates) : CString :=
  "\x7b\n  ".toList ++ jsonItems (cacheItems cfg states cfg.fanLen)

def IsInt (value : Int) : Prop := -2 ^ 31 ≤ value ∧ value ≤ 2 ^ 31 - 1

def IntTemperatures (cfg : AnsConfig) (states : FanStates) : Prop :=
  ∀ i < cfg.fanLen, IsInt (states i).tempC ∧ IsInt (states i).controlTempC

section Writer

variable {cfg : AnsConfig} {states : FanStates}

theorem decimal_int_length {value : Int} (int : IsInt value) : (decimal value).length ≤ 11 := by
  obtain ⟨lower, upper⟩ := int
  exact @decimal_length_le value 10 (by decide) (by omega)

/-- The gap behind a fan's temperatures is the end of its line and the start of the next one. -/
theorem cacheGap_eq (cfg : AnsConfig) {i : Nat} (below : i < cfg.fanLen) :
    cacheGap cfg i = " \x7d".toList ++ ((if i = cfg.fanLen - 1 then [] else ",".toList) ++
      ("\n".toList ++ cacheNext cfg (i + 1))) := by
  unfold cacheGap cacheNext
  by_cases last : i = cfg.fanLen - 1
  · rw [if_pos last, if_pos last, if_pos (by omega)]
    rfl
  · rw [if_neg last, if_neg last, if_neg (by omega)]
    rfl

/-- A line of the text, as it is appended, is the items of its fan with the layout around them. -/
theorem cachedFan_line (cfg : AnsConfig) (states : FanStates) {i : Nat} (below : i < cfg.fanLen) :
    "    \x7b \"id\": ".toList ++ (quoted (cfg.fan i).id ++ cachedTemperatures cfg states i) ++
      cacheNext cfg (i + 1) =
    "    \x7b ".toList ++ jsonItems (cacheItem cfg states i) := by
  have none : jsonItems [] = [] := rfl
  rw [cacheItem, cacheGap_eq cfg below]
  calc "    \x7b \"id\": ".toList ++ (quoted (cfg.fan i).id ++ cachedTemperatures cfg states i) ++
        cacheNext cfg (i + 1)
      = ("    \x7b ".toList ++ (quoted "id".toList ++ ": ".toList)) ++ (quoted (cfg.fan i).id ++
          ((", ".toList ++ (quoted "temp_c".toList ++ ": ".toList)) ++ decimal (states i).tempC ++
            (", ".toList ++ (quoted "control_temp_c".toList ++ ": ".toList)) ++
            decimal (states i).controlTempC ++ " \x7d".toList ++
            (if i = cfg.fanLen - 1 then [] else ",".toList) ++ "\n".toList)) ++
        cacheNext cfg (i + 1) := rfl
    _ = _ := by simp only [jsonItems_cons, none, List.append_assoc, List.append_nil]

theorem cachedTemperatures_length (ints : IntTemperatures cfg states) {i : Nat}
    (below : i < cfg.fanLen) : (cachedTemperatures cfg states i).length ≤ 58 := by
  have temp := decimal_int_length (ints i below).1
  have control := decimal_int_length (ints i below).2
  have comma : (if i = cfg.fanLen - 1 then ([] : CString) else ",".toList).length ≤ 1 := by
    split
    · exact Nat.zero_le 1
    · exact le_refl 1
  have sizes : (", \"temp_c\": ".toList.length = 12 ∧ ", \"control_temp_c\": ".toList.length = 20) ∧
      " \x7d".toList.length = 2 ∧ "\n".toList.length = 1 := by decide
  unfold cachedTemperatures
  generalize ", \"temp_c\": ".toList = tempKey, ", \"control_temp_c\": ".toList = controlKey,
    " \x7d".toList = brace, "\n".toList = line at sizes ⊢
  simp only [List.length_append]
  omega

/-- The loop body appends a whole line, when there is room for it. -/
theorem appendCachedFan_eq (valid : cfg.Valid) (ints : IntTemperatures cfg states) {i : Nat}
    (below : i < cfg.fanLen) {out : TextBuffer} (room : out.text.length + 87 < out.cap) :
    appendCachedFan cfg states i out =
        { out with
          text := out.text ++ ("    \x7b \"id\": ".toList ++ (quoted (cfg.fan i).id ++
            cachedTemperatures cfg states i)) } ∧
      ("    \x7b \"id\": ".toList ++ (quoted (cfg.fan i).id ++
        cachedTemperatures cfg states i)).length ≤ 87 := by
  obtain ⟨plain, _, short⟩ := (valid.fan below).id
  have temperatures := cachedTemperatures_length ints below
  have start : "    \x7b \"id\": ".toList.length = 12 := rfl
  have id : (quoted (cfg.fan i).id).length = (cfg.fan i).id.length + 2 := by simp [quoted]
  have first : out.Fits "    \x7b \"id\": ".toList := by
    rw [TextBuffer.Fits, start]
    omega
  have second : TextBuffer.Fits { out with text := out.text ++ "    \x7b \"id\": ".toList }
      (quoted (cfg.fan i).id) := by
    rw [TextBuffer.Fits, id, List.length_append, start]
    dsimp only
    omega
  have third : TextBuffer.Fits
      { out with
        text := out.text ++ "    \x7b \"id\": ".toList ++ quoted (cfg.fan i).id }
      (cachedTemperatures cfg states i) := by
    rw [TextBuffer.Fits, List.length_append, List.length_append, start, id]
    dsimp only
    omega
  constructor
  · rw [appendCachedFan, TextBuffer.append_of_fits first, TextBuffer.appendJson_of_fits plain second]
    dsimp only
    rw [TextBuffer.append_of_fits third]
    simp only [List.append_assoc]
  · rw [List.length_append, List.length_append, start, id]
    omega

theorem cacheItems_succ (cfg : AnsConfig) (states : FanStates) (count : Nat) :
    cacheItems cfg states (count + 1) =
      cacheItems cfg states count ++ cacheItem cfg states count := by
  rw [cacheItems, List.range_succ, List.flatMap_append, List.flatMap_singleton]
  rfl

/-- Behind `count` lines and the start of what is next stands the text of `count` fans. -/
theorem cachedFans_text (valid : cfg.Valid) (ints : IntTemperatures cfg states) :
    let out := loop cfg.fanLen (appendCachedFan cfg states)
      { cap := 512, text := "\x7b\n  \"fans\": [\n".toList }
    out.cap = 512 ∧ out.truncated = false ∧ out.text.length ≤ 14 + 87 * cfg.fanLen ∧
      out.text ++ cacheNext cfg cfg.fanLen = cacheJson cfg states := by
  have few := valid.fanLen
  refine loop_invariant (fun count (out : TextBuffer) =>
    out.cap = 512 ∧ out.truncated = false ∧ out.text.length ≤ 14 + 87 * count ∧
      out.text ++ cacheNext cfg count =
        "\x7b\n  ".toList ++ jsonItems (cacheItems cfg states count)) ?_ ?_
  · refine ⟨rfl, rfl, by decide, ?_⟩
    rw [cacheNext, if_neg (by omega)]
    rfl
  · rintro i out below ⟨cap, whole, length, text⟩
    obtain ⟨appended, short⟩ :=
      @appendCachedFan_eq cfg states valid ints i below out (by rw [cap]; omega)
    rw [appended]
    refine ⟨cap, whole, ?_, ?_⟩
    · rw [List.length_append]
      omega
    · have line := cachedFan_line cfg states below
      have here : cacheNext cfg i = "    \x7b ".toList := if_neg (Nat.ne_of_lt below)
      rw [here] at text
      rw [cacheItems_succ, jsonItems_append]
      dsimp only
      rw [List.append_assoc, line, ← List.append_assoc, text, List.append_assoc]

/-- The text of an accepted profile always fits its buffer. -/
theorem temperatureCacheText_eq (valid : cfg.Valid) (ints : IntTemperatures cfg states) :
    temperatureCacheText cfg states = some (cacheJson cfg states) ∧
      (cacheJson cfg states).length < 512 := by
  have few := valid.fanLen
  obtain ⟨cap, whole, length, text⟩ := cachedFans_text valid ints
  have last : cacheNext cfg cfg.fanLen = "  ]\n\x7d\n".toList := if_pos rfl
  have six : "  ]\n\x7d\n".toList.length = 6 := rfl
  rw [last] at text
  have header : TextBuffer.append { cap := 512 } "\x7b\n  \"fans\": [\n".toList =
      { cap := 512, text := "\x7b\n  \"fans\": [\n".toList } := rfl
  rw [temperatureCacheText, header]
  generalize loop cfg.fanLen (appendCachedFan cfg states)
    { cap := 512, text := "\x7b\n  \"fans\": [\n".toList } = out at *
  have fits : out.Fits "  ]\n\x7d\n".toList := by
    rw [TextBuffer.Fits, six, cap]
    omega
  rw [TextBuffer.append_of_fits fits]
  dsimp only
  rw [whole, if_neg Bool.false_ne_true, text]
  refine ⟨rfl, ?_⟩
  rw [← text, List.length_append, six]
  omega

end Writer

/-! ## The reader -/

def cacheKeys : List CString :=
  ["fans".toList, "id".toList, "temp_c".toList, "control_temp_c".toList]

/-- Every fan has an id of its own, and none has a key for one. -/
structure CacheIds (cfg : AnsConfig) : Prop where
  distinct : ∀ i < cfg.fanLen, ∀ j < cfg.fanLen, (cfg.fan i).id = (cfg.fan j).id → i = j
  noKey : ∀ i < cfg.fanLen, (cfg.fan i).id ∉ cacheKeys

def SeedTemperature (temp : Int) : Prop := 0 < temp ∧ temp < 130

instance (temp : Int) : Decidable (SeedTemperature temp) := inferInstanceAs (Decidable (_ ∧ _))

/-- The state with the temperatures of a cached one that are seeded, and their flags. -/
def FanState.withCached (state cached : FanState) : FanState :=
  { state with
    tempC := if SeedTemperature cached.tempC then cached.tempC else state.tempC
    tempSeeded := if SeedTemperature cached.tempC then true else state.tempSeeded
    controlTempC :=
      if SeedTemperature cached.controlTempC then cached.controlTempC else state.controlTempC
    controlTempSeeded :=
      if SeedTemperature cached.controlTempC then true else state.controlTempSeeded }

section Reader

variable {cfg : AnsConfig} {states : FanStates}

theorem cacheItem_laidOut (valid : cfg.Valid) {i : Nat} (below : i < cfg.fanLen) :
    ∀ item ∈ cacheItem cfg states i, LaidOut item := by
  have idFree := plainText_noQuote (valid.fan below).id.1
  have gapFree : '"' ∉ cacheGap cfg i := by
    unfold cacheGap
    split
    · decide
    · decide
  have temp := decimalItem_laidOut (by decide : '"' ∉ "temp_c".toList)
    (by decide : '"' ∉ ", ".toList) (states i).tempC
  have control := decimalItem_laidOut (by decide : '"' ∉ "control_temp_c".toList) gapFree
    (states i).controlTempC
  rw [List.append_assoc] at temp control
  simp only [cacheItem, List.forall_mem_cons]
  exact ⟨⟨by decide, by decide, Or.inl rfl⟩, laidOut_item idFree (by decide) (Or.inr rfl), temp,
    control, fun _ none => nomatch none⟩

theorem cacheItems_laidOut (valid : cfg.Valid) {count : Nat} (bound : count ≤ cfg.fanLen) :
    ∀ item ∈ cacheItems cfg states count, LaidOut item := by
  intro item member
  rcases List.mem_cons.mp member with rfl | inFan
  · exact ⟨by decide, by decide, Or.inl rfl⟩
  · obtain ⟨j, inRange, inItem⟩ := List.mem_flatMap.mp inFan
    have below := Nat.lt_of_lt_of_le (List.mem_range.mp inRange) bound
    exact cacheItem_laidOut valid below item inItem

/-- The items of a fan among all of them: no string in front of them is the fan's id. -/
theorem cacheItems_split (ids : CacheIds cfg) {i : Nat} (below : i < cfg.fanLen) :
    ∃ before after,
      cacheItems cfg states cfg.fanLen = before ++ (cacheItem cfg states i ++ after) ∧
        ∀ item ∈ before, item.1 ≠ (cfg.fan i).id := by
  obtain ⟨earlier, later, range⟩ := List.append_of_mem (List.mem_range.mpr below)
  have distinct : (earlier ++ i :: later).Nodup := range ▸ List.nodup_range
  have key {text : CString} (isKey : text ∈ cacheKeys) : text ≠ (cfg.fan i).id :=
    fun same => ids.noKey i below (same ▸ isKey)
  refine ⟨cacheHeader :: earlier.flatMap (cacheItem cfg states),
    later.flatMap (cacheItem cfg states), ?_, ?_⟩
  · rw [cacheItems, range, List.flatMap_append, List.flatMap_cons]
    rfl
  · refine List.forall_mem_cons.mpr ⟨key (by decide), fun item member => ?_⟩
    obtain ⟨j, inEarlier, inItem⟩ := List.mem_flatMap.mp member
    have other : j ≠ i := fun same =>
      (List.nodup_append.mp distinct).2.2 j inEarlier i List.mem_cons_self same
    have jBelow : j < cfg.fanLen := by
      have inRange : j ∈ List.range cfg.fanLen := range ▸ List.mem_append_left _ inEarlier
      exact List.mem_range.mp inRange
    have each : ∀ item ∈ cacheItem cfg states j, item.1 ≠ (cfg.fan i).id := by
      simp only [cacheItem, List.forall_mem_cons]
      exact ⟨key (by decide), fun same => other (ids.distinct j jBelow i below same),
        key (by decide), key (by decide), fun _ none => nomatch none⟩
    exact each item inItem

/-- A search for an id passes the strings that differ from it, where it is not `id` itself. -/
theorem findSegments_id {id layout : CString} {before after : List (CString × CString)}
    (laidOut : ∀ item ∈ before, LaidOut item) (absent : ∀ item ∈ before, item.1 ≠ id)
    (noKey : id ≠ "id".toList) :
    findSegments ["id".toList, ": ".toList, id]
        (itemSegments (before ++ ("id".toList, ": ".toList) :: (id, layout) :: after)) =
      some (itemSegments (("id".toList, ": ".toList) :: (id, layout) :: after)) := by
  have keyText : KeyText "id".toList := by decide
  induction before with
  | nil => exact findSegments_here ⟨layout, itemSegments after, rfl⟩
  | cons item before ih =>
      obtain ⟨here, laterLaidOut⟩ := List.forall_mem_cons.mp laidOut
      obtain ⟨_, laterAbsent⟩ := List.forall_mem_cons.mp absent
      have passes : ¬ Heads ["id".toList, ": ".toList, id]
          (itemSegments (item :: (before ++ ("id".toList, ": ".toList) :: (id, layout) :: after))) := by
        intro heads
        rw [itemSegments_cons, heads_cons, heads_cons] at heads
        obtain ⟨_, _, next⟩ := heads
        cases before with
        | nil =>
            rw [List.nil_append, itemSegments_cons, heads_cons] at next
            exact noKey next.1.symm
        | cons second before =>
            rw [List.cons_append, itemSegments_cons, heads_cons] at next
            exact laterAbsent second List.mem_cons_self next.1
      rw [List.cons_append, findSegments_skip keyText here passes]
      exact ih laterLaidOut laterAbsent

/-- A fan's search ends at its own items. -/
theorem cacheJson_object (valid : cfg.Valid) (ids : CacheIds cfg) {i : Nat}
    (below : i < cfg.fanLen) :
    ∃ after, (∀ item ∈ cacheItem cfg states i ++ after, LaidOut item) ∧
      jsonObjectWithId (cacheJson cfg states) (cfg.fan i).id =
        some (jsonItems (cacheItem cfg states i ++ after)) := by
  have laidOut := @cacheItems_laidOut cfg states valid cfg.fanLen (le_refl _)
  obtain ⟨before, after, split, absent⟩ := @cacheItems_split cfg states ids i below
  obtain ⟨plain, _, short⟩ := (valid.fan below).id
  have startFree : '"' ∉ "\x7b\n  ".toList := by decide
  have noKey : (cfg.fan i).id ≠ "id".toList := fun same =>
    ids.noKey i below (same ▸ by decide)
  have object := jsonObjectWithId_items (by omega : (cfg.fan i).id.length ≤ 55)
    (plainText_noQuote plain) startFree laidOut
  rw [split] at laidOut
  refine ⟨after, fun item member => laidOut item (List.mem_append_right _ member), ?_⟩
  rw [cacheJson, object, split]
  have found := @findSegments_id (cfg.fan i).id ", ".toList before
    ((cacheItem cfg states i).drop 2 ++ after)
    (fun item member => laidOut item (List.mem_append_left _ member)) absent noKey
  have items : ("id".toList, ": ".toList) :: ((cfg.fan i).id, ", ".toList) ::
      ((cacheItem cfg states i).drop 2 ++ after) = cacheItem cfg states i ++ after := rfl
  rw [items] at found
  rw [found, Option.map_some, ← jsonItems_eq_marked]

/-- Both temperatures of a fan's items are read back. -/
theorem cacheItem_temperatures (ids : CacheIds cfg) (ints : IntTemperatures cfg states) {i : Nat}
    (below : i < cfg.fanLen) {after : List (CString × CString)}
    (laidOut : ∀ item ∈ cacheItem cfg states i ++ after, LaidOut item) (first second : Int) :
    jsonIntKey (jsonItems (cacheItem cfg states i ++ after)) "temp_c".toList first =
        (states i).tempC ∧
      jsonIntKey (jsonItems (cacheItem cfg states i ++ after)) "control_temp_c".toList second =
        (states i).controlTempC := by
  obtain ⟨tempInt, controlInt⟩ := ints i below
  have key {text : CString} (isKey : text ∈ cacheKeys) : (cfg.fan i).id ≠ text :=
    fun same => ids.noKey i below (same ▸ isKey)
  constructor
  · have absent : ∀ item ∈ [("id".toList, ": ".toList), ((cfg.fan i).id, ", ".toList)],
        item.1 ≠ "temp_c".toList := by
      simp only [List.forall_mem_cons]
      exact ⟨by decide, key (by decide), fun _ none => nomatch none⟩
    exact jsonIntKey_items [] _ (by decide) (by decide) laidOut absent tempInt
      (.delimiter (Or.inl rfl) _) first
  · have absent : ∀ item ∈ [("id".toList, ": ".toList), ((cfg.fan i).id, ", ".toList),
        ("temp_c".toList, ": ".toList ++ (decimal (states i).tempC ++ ", ".toList))],
        item.1 ≠ "control_temp_c".toList := by
      simp only [List.forall_mem_cons]
      exact ⟨by decide, key (by decide), by decide, fun _ none => nomatch none⟩
    exact jsonIntKey_items [] _ (by decide) (by decide) laidOut absent controlInt
      (.blank rfl (.delimiter (Or.inr (Or.inl rfl)) _)) second

/-- What the reader does with the temperatures it finds. -/
theorem seedFanTemperatures_of_object {json fanObj : CString} {fan : FanConfig}
    {state cached : FanState} (object : jsonObjectWithId json fan.id = some fanObj)
    (temp : ∀ fallback, jsonIntKey fanObj "temp_c".toList fallback = cached.tempC)
    (control : ∀ fallback, jsonIntKey fanObj "control_temp_c".toList fallback =
      cached.controlTempC) :
    seedFanTemperatures json fan state = state.withCached cached := by
  have same (temp : Int) : (temp > 0 ∧ temp < 130) = SeedTemperature temp := rfl
  rw [seedFanTemperatures, object]
  dsimp only
  rw [control, temp, FanState.withCached]
  simp only [same]
  by_cases component : SeedTemperature cached.tempC
  · by_cases group : SeedTemperature cached.controlTempC
    · simp only [if_pos component, if_pos group]
    · simp only [if_pos component, if_neg group]
  · by_cases group : SeedTemperature cached.controlTempC
    · simp only [if_neg component, if_pos group]
    · simp only [if_neg component, if_neg group]

end Reader

/-- Every fan is seeded with its own cached temperatures, and nothing else is. -/
theorem temperatureCache_restored {cfg : AnsConfig} (valid : cfg.Valid) (ids : CacheIds cfg)
    {states : FanStates} (ints : IntTemperatures cfg states) (fresh : FanStates) :
    ∃ text, temperatureCacheText cfg states = some text ∧
      seedTemperaturesFromFile (some text) cfg fresh = fun i =>
        if i < cfg.fanLen then (fresh i).withCached (states i) else fresh i := by
  obtain ⟨written, short⟩ := temperatureCacheText_eq valid ints
  refine ⟨cacheJson cfg states, written, ?_⟩
  rw [seedTemperaturesFromFile]
  have whole : (cacheJson cfg states).take (64 * 1024) = cacheJson cfg states :=
    List.take_of_length_le (by omega)
  funext i
  rw [whole]
  by_cases below : i < cfg.fanLen
  · rw [if_pos below, if_pos below]
    obtain ⟨after, laidOut, object⟩ := @cacheJson_object cfg states valid ids i below
    have read := cacheItem_temperatures ids ints below laidOut
    exact seedFanTemperatures_of_object object (fun fallback => (read fallback 0).1)
      fun fallback => (read 0 fallback).2
  · rw [if_neg below, if_neg below]

/-- Fans at 60 °C whose control sensors have not been read yet. -/
theorem temperatureCache_restored_shipped :
    ∃ text, temperatureCacheText AcerNitroAn517.config
        (fun _ => { tempC := 60, controlTempC := -1 }) = some text ∧
      seedTemperaturesFromFile (some text) AcerNitroAn517.config (fun _ => {}) = fun i =>
        if i < AcerNitroAn517.config.fanLen then
          ({} : FanState).withCached { tempC := 60, controlTempC := -1 }
        else {} :=
  temperatureCache_restored AcerNitroAn517.config_valid ⟨by decide, by decide⟩
    (fun _ _ => by unfold IsInt; decide) _

end NitroSense
