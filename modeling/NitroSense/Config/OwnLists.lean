import NitroSense.Config.Accepts
import NitroSense.Config.Agreement

/-!
# The lists of a document

The list parsers take an array to end where its brackets are balanced, an
object where its braces are, and stop at the length of their own array.  The
profile holds every item of the document's arrays when the brackets in strings
do not disturb the count, the items are objects that fit, and every key is
found at its member in the copy of its object.
-/

namespace NitroSense

open Lib

/-! ## What the lists should hold -/

/-- The values come from the items of an array one by one; without the array there are none. -/
def ListOf {α : Type} (comes : Json → α → Prop) (value : Option Json) (values : List α) : Prop :=
  match value with
  | none => values = []
  | some value => ∃ items, value.items? = some items ∧ List.Forall₂ comes items values

/-- A fan is the members of an item, its curve the points of the array there. -/
structure FanOf (item : Json) (fan : FanConfig) : Prop where
  members : parseFan item = .ok fan
  curve : ListOf (fun point threshold => parseCurvePoint point = .ok threshold)
    (item.value? "curve".toList) fan.curve

/-- Every list of the profile is the array of the document, item by item. -/
structure OwnLists (root : Json) (cfg : AnsConfig) : Prop where
  fans : ListOf FanOf (root.value? "fans".toList) cfg.fans
  presets : ListOf (fun item preset => parsePreset item = .ok preset)
    (root.value? "presets".toList) cfg.presets
  initWrites : ListOf (fun item write => parseInitWrite item = .ok write)
    (profileSection root "init_writes") cfg.initWrites
  platformProfiles : ListOf (fun item profile => parsePlatformProfileEntry item = .ok profile)
    ((profileSection root "platform_profiles").bind (·.value? "profiles".toList))
    cfg.platformProfiles.profiles
  allowedDmi : ListOf (fun item text => item.string? = some text)
    (root.value? "allowed_dmi_substrings".toList) cfg.allowedDmi

/-! ## Where the list parsers keep to the arrays -/

/-- A list of objects of which only scalars are read. -/
def ReadsRows (keys : List String) (text : CString) (json : Json) (key : String)
    (bufLen limit : Nat) : Prop :=
  ReadsList (fun slice item => ReadsKeys slice item keys) text json key bufLen limit

instance (keys : List String) (text : CString) (json : Json) (key : String)
    (bufLen limit : Nat) : Decidable (ReadsRows keys text json key bufLen limit) :=
  inferInstanceAs (Decidable (ReadsList _ _ _ _ _ _))

/-- A fan whose scalars and whose curve are read from its own copy. -/
def ReadsFan (slice : CString) (item : Json) : Prop :=
  ReadsKeys slice item fanKeys ∧ ReadsRows curveEntryKeys slice item "curve" 256 32

instance (slice : CString) (item : Json) : Decidable (ReadsFan slice item) :=
  inferInstanceAs (Decidable (_ ∧ _))

/-- The profiles, searched from the name of their section on. -/
def ReadsPlatformProfiles (text : CString) (root : Json) : Prop :=
  FromSection (fun found profiles =>
    ReadsRows platformProfileEntryKeys found profiles "profiles" 512 8) text root
      "platform_profiles"

instance (text : CString) (root : Json) : Decidable (ReadsPlatformProfiles text root) :=
  inferInstanceAs (Decidable (FromSection _ _ _ _))

/-- A string without escapes that fits the buffer of an entry. -/
def FitsEntry : Json → Prop
  | .string token => '\\' ∉ token.raw ∧ token.raw.length < 64
  | _ => False

instance : (item : Json) → Decidable (FitsEntry item)
  | .string _ => inferInstanceAs (Decidable (_ ∧ _))
  | .null | .bool _ | .number _ | .array _ _ | .object _ _ => isFalse id

/-- The array of names is found, and holds no more than there is room for. -/
def ReadsAllowedDmi (text : CString) (root : Json) : Prop :=
  match root.member? "allowed_dmi_substrings".toList with
  | none => jsonFindArray text "allowed_dmi_substrings".toList = none
  | some member =>
      match Json.memberValue member with
      | .array space items =>
          FindsMember text "allowed_dmi_substrings".toList member ∧
            Bracketed (.array space items) ∧ items.length ≤ 8 ∧
              ∀ item ∈ items, FitsEntry item.2.1
      | _ => False

instance (text : CString) (root : Json) : Decidable (ReadsAllowedDmi text root) :=
  match found : root.member? "allowed_dmi_substrings".toList with
  | none =>
      decidable_of_iff (jsonFindArray text "allowed_dmi_substrings".toList = none)
        (by rw [ReadsAllowedDmi, found])
  | some member =>
      match isArray : Json.memberValue member with
      | .array space items =>
          decidable_of_iff
            (FindsMember text "allowed_dmi_substrings".toList member ∧
              Bracketed (.array space items) ∧ items.length ≤ 8 ∧
                ∀ item ∈ items, FitsEntry item.2.1)
            (by rw [ReadsAllowedDmi, found]; dsimp only; rw [isArray])
      | .null | .bool _ | .number _ | .string _ | .object _ _ =>
          isFalse (by rw [ReadsAllowedDmi, found]; dsimp only; rw [isArray]; exact id)

/-- Every list parser reads the items of its own array. -/
structure OwnArrays (text : CString) (root : Json) : Prop where
  fans : ReadsList ReadsFan text root "fans" 8192 2
  presets : ReadsRows presetKeys text root "presets" 512 16
  initWrites : ReadsRows initWriteKeys text (profileEc root) "init_writes" 512 8
  platformProfiles : ReadsPlatformProfiles text root
  allowedDmi : ReadsAllowedDmi text root

instance (text : CString) (root : Json) : Decidable (OwnArrays text root) :=
  decidable_of_iff
    (ReadsList ReadsFan text root "fans" 8192 2 ∧ ReadsRows presetKeys text root "presets" 512 16 ∧
      ReadsRows initWriteKeys text (profileEc root) "init_writes" 512 8 ∧
        ReadsPlatformProfiles text root ∧ ReadsAllowedDmi text root)
    ⟨fun ⟨fans, presets, initWrites, platformProfiles, allowedDmi⟩ =>
        ⟨fans, presets, initWrites, platformProfiles, allowedDmi⟩,
      fun own => ⟨own.fans, own.presets, own.initWrites, own.platformProfiles, own.allowedDmi⟩⟩

/-! ## Rows -/

section Rows

variable {text : CString} {json : Json} {key : String} {keys : List String} {bufLen limit : Nat}

theorem ReadsRows.agree (reads : ReadsRows keys text json key bufLen limit)
    (keyText : KeyText key.toList) (keyTexts : ∀ key ∈ keys, KeyText key.toList) :
    AgreeList (fun slice item => Agree slice item keys) text json key bufLen limit :=
  ReadsList.agree keyText reads fun _ _ row => row.agree keyTexts

/-- A list that parses over the document has the values of its items. -/
theorem listOf_parseEach {α : Type} {parse : Json → ConfigResult α} {values : List α}
    {entry : CString → Json → Prop} (reads : ReadsList entry text json key bufLen limit)
    (parsed : parseOptionalList parse json key bufLen limit = .ok values) :
    ListOf (fun item value => parse item = .ok value) (json.value? key.toList) values := by
  rw [parseOptionalList] at parsed
  rcases reads.cases with ⟨absent, _⟩ | ⟨member, items, value, isArray, _⟩
  · rw [absent]
    simp only [KeySource.objects, absent, Option.bind_none] at parsed
    cases parsed
    rfl
  · rw [value]
    simp only [KeySource.objects, value, Option.bind_some, isArray] at parsed
    exact ⟨items, isArray, parseEach_forall₂ parsed⟩

/-- What a text gives for such a list are the values of the items. -/
theorem ReadsRows.listOf {α : Type} {parse : CString → ConfigResult α}
    {parse' : Json → ConfigResult α} (keyText : KeyText key.toList)
    (keyTexts : ∀ key ∈ keys, KeyText key.toList)
    (each : ∀ slice item, Agree slice item keys → ∀ value, parse slice = .ok value →
      parse' item = .ok value)
    (reads : ReadsRows keys text json key bufLen limit) {values : List α}
    (parsed : parseOptionalList parse text key bufLen limit = .ok values) :
    ListOf (fun item value => parse' item = .ok value) (json.value? key.toList) values :=
  listOf_parseEach reads (parseOptionalList_agrees each (reads.agree keyText keyTexts) parsed)

end Rows

/-! ## Fans -/

section Fans

theorem fanKeys_keyText : ∀ key ∈ fanKeys, KeyText key.toList := by decide

theorem curveEntryKeys_keyText : ∀ key ∈ curveEntryKeys, KeyText key.toList := by decide

theorem ReadsFan.agree {slice : CString} {item : Json} (reads : ReadsFan slice item) :
    AgreeOnFan slice item :=
  ⟨reads.1.agree fanKeys_keyText, reads.2.agree (by decide) curveEntryKeys_keyText⟩

/-- A fan that is read from its own copy is the item's, with the points of the item's curve. -/
theorem ReadsFan.fanOf {slice : CString} {item : Json} {fan : FanConfig}
    (reads : ReadsFan slice item) (parsed : parseFan slice = .ok fan) : FanOf item fan := by
  have own := parseFan_agrees reads.agree parsed
  refine ⟨own, ?_⟩
  have points := (parseFan_eq_ok.mp own).curve
  obtain ⟨items, found, rest⟩ := bind_eq_ok.mp points
  obtain ⟨thresholds, each, checked⟩ := bind_eq_ok.mp rest
  split at checked
  · rw [← Except.ok.inj checked]
    refine listOf_parseEach reads.2 ?_
    rw [parseOptionalList, orInvalid_eq_ok.mp found]
    exact each
  · cases checked

/-- Copies that are read as their items give the fans of the items, in order. -/
theorem forall₂_fanOf {entries : List CString} {items : List Json} {fans : List FanConfig}
    (reads : List.Forall₂ ReadsFan entries items) (each : parseEach parseFan entries = .ok fans) :
    List.Forall₂ FanOf items fans := by
  induction reads generalizing fans with
  | nil =>
      cases each
      exact .nil
  | cons head tail ih =>
      obtain ⟨fan, first, rest⟩ := bind_eq_ok.mp each
      obtain ⟨others, later, same⟩ := bind_eq_ok.mp rest
      cases same
      exact .cons (head.fanOf first) (ih later)

/-- The fans of a text are those of the document. -/
theorem fans_listOf {text : CString} {root : Json} {fans : List FanConfig}
    (reads : ReadsList ReadsFan text root "fans" 8192 2)
    (parsed : configParseFans text = .ok fans) : ListOf FanOf (root.value? "fans".toList) fans := by
  obtain ⟨entries, found, each, _⟩ := configParseFans_eq_ok.mp parsed
  have agree : AgreeList ReadsFan text root "fans" 8192 2 :=
    reads.agree (by decide) fun _ _ reads => reads
  obtain ⟨items, shown, related⟩ := agree.exists_items found
  obtain ⟨value, here, isArray⟩ := Option.bind_eq_some_iff.mp shown
  rw [here]
  exact ⟨items, isArray, forall₂_fanOf related each⟩

end Fans

/-! ## Platform profiles -/

theorem platformProfiles_listOf {text : CString} {root : Json} {cfg : PlatformProfileConfig}
    (reads : ReadsPlatformProfiles text root)
    (parsed : configParsePlatformProfiles (jsonFindKey text "platform_profiles".toList) = .ok cfg) :
    ListOf (fun item profile => parsePlatformProfileEntry item = .ok profile)
      ((profileSection root "platform_profiles").bind (·.value? "profiles".toList))
      cfg.profiles := by
  have rel := FromSection.rel (by decide) reads fun _ _ rows => rows
  generalize jsonFindKey text "platform_profiles".toList = found at parsed rel
  generalize profileSection root "platform_profiles" = section_ at rel ⊢
  cases rel with
  | none =>
      cases parsed
      rfl
  | some rows =>
      obtain ⟨_, _, entries⟩ := configParsePlatformProfiles_some parsed
      exact rows.listOf (by decide) (by decide)
        (fun _ _ agree _ entry => parsePlatformProfileEntry_agrees agree entry) entries

/-! ## Allowed names -/

section AllowedDmi

theorem quote_notMem_space (space : Space) : '"' ∉ space.text := by
  intro member
  cases isBlank_space space _ member

theorem quote_notMem_separator {α : Type} (rest : List α) : '"' ∉ Json.separator rest := by
  cases rest with
  | nil => exact nofun
  | cons next rest => exact (by decide : '"' ∉ [','])

/-- The quoted pieces of an array of plain strings are its strings. -/
theorem pieces_items {gap : CString} {items : List (Space × Json × Space)} (gapFree : '"' ∉ gap)
    (fits : ∀ item ∈ items, FitsEntry item.2.1) :
    List.Forall₂ (fun item piece => item.2.1.string? = some piece ∧ piece.length < 64) items
      (pieces '"' (gap ++ Json.itemsText items)) := by
  induction items generalizing gap with
  | nil =>
      rw [show Json.itemsText [] = [] from rfl, List.append_nil, pieces_free gapFree]
      exact .nil
  | cons item items ih =>
      obtain ⟨before, value, after⟩ := item
      obtain ⟨here, others⟩ := List.forall_mem_cons.mp fits
      cases value with
      | string token =>
          obtain ⟨plain, short⟩ := here
          rcases isStringBody_plain token.body with escaped | ⟨free, denotes⟩
          · exact absurd ((List.takeWhile_prefix _).subset escaped) plain
          · have opening : '"' ∉ gap ++ before.text :=
              List.not_mem_append gapFree (quote_notMem_space before)
            have between : '"' ∉ after.text ++ Json.separator items :=
              List.not_mem_append (quote_notMem_space after) (quote_notMem_separator items)
            have shape : gap ++ Json.itemsText ((before, .string token, after) :: items) =
                (gap ++ before.text) ++ '"' :: (token.raw ++ '"' ::
                  ((after.text ++ Json.separator items) ++ Json.itemsText items)) := by
              simp [Json.itemsText_cons, Json.text, Json.quotedToken]
            rw [shape, pieces_closed opening free]
            exact .cons ⟨congrArg some denotes, short⟩ (ih between others)
      | _ => exact here.elim

/-- The names of a text are the strings of the document's array. -/
theorem allowedDmi_listOf {text : CString} {root : Json} (reads : ReadsAllowedDmi text root) :
    ListOf (fun item text => item.string? = some text)
      (root.value? "allowed_dmi_substrings".toList) (configParseAllowedDmi text) := by
  unfold ReadsAllowedDmi at reads
  cases found : root.member? "allowed_dmi_substrings".toList with
  | none =>
      rw [found] at reads
      have absent : root.value? "allowed_dmi_substrings".toList = none := by
        rw [Json.value?, found]
        rfl
      rw [absent, configParseAllowedDmi, reads]
      rfl
  | some member =>
      rw [found] at reads
      have value : root.value? "allowed_dmi_substrings".toList =
          some (Json.memberValue member) := by
        rw [Json.value?, found]
        rfl
      rw [value]
      dsimp only at reads
      split at reads
      · rename_i space items isArray
        obtain ⟨finds, bracketed, count, fits⟩ := reads
        rw [← isArray] at bracketed
        rw [isArray, configParseAllowedDmi,
          jsonFindArray_array (by decide) finds isArray bracketed]
        dsimp only
        have read := pieces_items (quote_notMem_space space) fits
        rw [allowedDmiEntries_eq, List.take_of_length_le (read.length_eq ▸ count)]
        refine ⟨_, rfl, ?_⟩
        rw [List.forall₂_map_left_iff, List.forall₂_map_right_iff]
        refine read.imp fun item piece reading => ?_
        obtain ⟨denotes, short⟩ := reading
        rw [denotes, jsonCopySlice, List.take_of_length_le (by omega)]
      · exact reads.elim

end AllowedDmi

/-! ## Loading a document -/

/-- Where every list parser keeps to its array, the profile holds the items of the arrays. -/
theorem configLoad_ownLists {document : JsonDocument} {cfg : AnsConfig}
    (loaded : configLoad (some document.text) = .ok cfg)
    (own : OwnArrays (readTextFile (128 * 1024) document.text) document.root) :
    OwnLists document.root cfg := by
  have loads := configLoadText_eq_ok.mp loaded
  constructor
  · exact fans_listOf own.fans loads.fans
  · exact own.presets.listOf (by decide) (by decide)
      (fun _ _ agree _ entry => parsePreset_agrees agree entry) loads.presets
  · exact own.initWrites.listOf (by decide) (by decide)
      (fun _ _ agree _ entry => parseInitWrite_agrees agree entry) loads.initWrites
  · exact platformProfiles_listOf own.platformProfiles loads.platformProfiles
  · rw [loads.allowedDmi]
    exact allowedDmi_listOf own.allowedDmi

/-- An array, if there is one, has no more items than that. -/
def AtMost (limit : Nat) (value : Option Json) : Prop :=
  ∀ own ∈ value, ∀ items ∈ own.items?, items.length ≤ limit

theorem ListOf.atMost {α : Type} {comes : Json → α → Prop} {value : Option Json} {values : List α}
    {limit : Nat} (list : ListOf comes value values) (short : values.length ≤ limit) :
    AtMost limit value := by
  intro own found items isArray
  rw [Option.mem_def.mp found] at list
  obtain ⟨held, same, all⟩ := list
  cases same.symm.trans isArray
  rw [all.length_eq]
  exact short

/-- Where the profile holds the lists of a document, no array is longer than there is room for. -/
theorem OwnLists.atMost {bytes : List Char} {root : Json} {cfg : AnsConfig}
    (loaded : configLoad (some bytes) = .ok cfg) (own : OwnLists root cfg) :
    AtMost 2 (root.value? "fans".toList) ∧ AtMost 16 (root.value? "presets".toList) ∧
      AtMost 8 (profileSection root "init_writes") ∧
        AtMost 8 ((profileSection root "platform_profiles").bind (·.value? "profiles".toList)) ∧
          AtMost 8 (root.value? "allowed_dmi_substrings".toList) := by
  have accepted := (configLoadText_eq_ok.mp loaded).accepted
  exact ⟨own.fans.atMost accepted.fanLen.2, own.presets.atMost accepted.presetLen,
    own.initWrites.atMost accepted.initWriteLen,
    own.platformProfiles.atMost accepted.platformProfileLen,
    own.allowedDmi.atMost accepted.allowedDmi.1⟩

theorem AcerNitroAn517.document_ownArrays :
    OwnArrays (readTextFile (128 * 1024) document.text) document.root := by
  decide +kernel

theorem configLoad_ownLists_shipped : OwnLists AcerNitroAn517.document.root AcerNitroAn517.config :=
  configLoad_ownLists AcerNitroAn517.document_loads AcerNitroAn517.document_ownArrays

/-- A preset with a bracket in its name, which ends the array for the count. -/
def bracketDocument : JsonDocument :=
  smallestDocument
    [(.key "presets", .ofItems [.ofMembers
      [(.key "id", .string (.key "a]")), (.key "cpu", .numeral "30"), (.key "gpu", .numeral "30")]])]

theorem bracketDocument_loads : configLoad (some bracketDocument.text) = .ok smallestConfig := by
  decide +kernel

/-- The preset of that document is dropped. -/
theorem configLoad_ownLists_fails :
    ¬ ∀ (document : JsonDocument) (cfg : AnsConfig), configLoad (some document.text) = .ok cfg →
      OwnLists document.root cfg := by
  intro claim
  obtain ⟨items, isArray, all⟩ := (claim bracketDocument smallestConfig bracketDocument_loads).presets
  cases isArray
  cases all

end NitroSense
