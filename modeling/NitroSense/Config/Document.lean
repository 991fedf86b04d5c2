import NitroSense.Config.Lists
import NitroSense.Config.Sections
import NitroSense.Json.Items
import Mathlib.Data.List.Forall2

/-!
# A profile as a document

A document answers the section parsers by its members.  The text answers them
by searching.  A parser that accepts from the text accepts the same from the
document wherever the two agree on the keys it asks for, and they agree on a
key when the search finds its member.
-/

namespace NitroSense

open Lib

/-- The members of a value: a key is present or absent there, and nowhere else. -/
instance : KeySource Json where
  hasKey json key := (json.member? key).isSome
  intKey json key := (json.value? key).bind Json.int?
  boolKey json key := (json.value? key).bind Json.bool?
  stringKey json key _ := (json.value? key).bind Json.string?
  objects json key _ _ := (json.value? key).bind Json.items?

/-- The bytes of a file that holds one JSON value. -/
structure JsonDocument where
  before : Space := .none
  root : Json
  after : Space := .none

def JsonDocument.text (document : JsonDocument) : List Char :=
  document.before.text ++ (document.root.text ++ document.after.text)

/-- The `ec` object; a value without members if there is none. -/
def profileEc (root : Json) : Json := (root.value? "ec".toList).getD .null

def profileSection (root : Json) (name : String) : Option Json :=
  (profileEc root).value? name.toList

/-- The required keys of a profile with one fan, and these further members. -/
def smallestDocument (more : List (StringToken × Json)) : JsonDocument where
  root := .ofMembers (
    (.key "model", .string (.key "small")) ::
    (.key "default_preset", .string (.key "auto")) :: more ++
    [(.key "fans", .ofItems [.ofMembers
      [(.key "id", .string (.key "cpu")),
       (.key "name", .string (.key "CPU fan")),
       (.key "sensor_group", .string (.key "cpu")),
       (.key "read_register", .numeral "19"),
       (.key "write_register", .numeral "55"),
       (.key "curve", .ofItems [.ofMembers
         [(.key "up", .numeral "60"), (.key "down", .numeral "50"), (.key "speed", .numeral "40")]])]])])

/-! ## Sources that agree -/

/-- The sources agree on the presence of the key, and what the first reads there the second does. -/
structure Agrees {σ τ : Type} [KeySource σ] [KeySource τ] (first : σ) (second : τ)
    (key : String) : Prop where
  hasKey : KeySource.hasKey first key.toList = KeySource.hasKey second key.toList
  intKey : ∀ x, KeySource.intKey first key.toList = some x →
    KeySource.intKey second key.toList = some x
  boolKey : ∀ x, KeySource.boolKey first key.toList = some x →
    KeySource.boolKey second key.toList = some x
  stringKey : ∀ outLen x, KeySource.stringKey first key.toList outLen = some x →
    KeySource.stringKey second key.toList outLen = some x

/-- The list is absent from both sources, or its entries are related one by one. -/
def AgreeList {σ τ : Type} [KeySource σ] [KeySource τ] (related : σ → τ → Prop) (first : σ)
    (second : τ) (key : String) (bufLen limit : Nat) : Prop :=
  Option.Rel (List.Forall₂ related) (KeySource.objects first key.toList bufLen limit)
    (KeySource.objects second key.toList bufLen limit)

section Agreement

variable {σ τ : Type} [KeySource σ] [KeySource τ] {first : σ} {second : τ} {key : String}

theorem Agrees.requiredInt (agrees : Agrees first second key) {x : Int}
    (read : configRequiredIntKey first key = some x) : configRequiredIntKey second key = some x :=
  agrees.intKey x read

/-- An optional key is read alike where its presence and its values agree. -/
theorem optional_agrees {α : Type} {present present' : Bool} {read read' : Option α}
    {default x : α} (same : present = present') (each : ∀ x, read = some x → read' = some x)
    (found : (if present then read else some default) = some x) :
    (if present' then read' else some default) = some x := by
  subst same
  cases present with
  | false => exact found
  | true => exact each x found

theorem Agrees.optionalInt (agrees : Agrees first second key) {default x : Int}
    (read : configOptionalIntKey first key default = some x) :
    configOptionalIntKey second key default = some x :=
  optional_agrees agrees.hasKey agrees.intKey read

theorem Agrees.optionalBool (agrees : Agrees first second key) {default x : Bool}
    (read : configOptionalBoolKey first key default = some x) :
    configOptionalBoolKey second key default = some x :=
  optional_agrees agrees.hasKey agrees.boolKey read

theorem Agrees.optionalString (agrees : Agrees first second key) {default x : CString}
    {outLen : Nat} (read : configOptionalStringKey first key default outLen = some x) :
    configOptionalStringKey second key default outLen = some x :=
  optional_agrees agrees.hasKey (agrees.stringKey outLen) read

theorem Agrees.clampedInt (agrees : Agrees first second key) {default low high x : Int}
    (read : configOptionalClampedIntKey first key default low high = some x) :
    configOptionalClampedIntKey second key default low high = some x := by
  obtain ⟨value, found, same⟩ := Option.map_eq_some_iff.mp read
  exact Option.map_eq_some_iff.mpr ⟨value, agrees.optionalInt found, same⟩

theorem Agrees.requiredString (agrees : Agrees first second key) {x : CString} {outLen : Nat}
    (read : configRequiredStringKey first key outLen = some x) :
    configRequiredStringKey second key outLen = some x := by
  obtain ⟨found, nonempty⟩ := Option.filter_eq_some_iff.mp read
  exact Option.filter_eq_some_iff.mpr ⟨agrees.stringKey outLen x found, nonempty⟩

omit [KeySource σ] [KeySource τ] in
/-- Related entries parse to the same values when each of them does. -/
theorem parseEach_related {α : Type} {related : σ → τ → Prop} {parse : σ → ConfigResult α}
    {parse' : τ → ConfigResult α}
    (each : ∀ x y, related x y → ∀ value, parse x = .ok value → parse' y = .ok value)
    {entries : List σ} {items : List τ} (all : List.Forall₂ related entries items)
    {values : List α} (parsed : parseEach parse entries = .ok values) :
    parseEach parse' items = .ok values := by
  induction all generalizing values with
  | nil => exact parsed
  | cons head tail ih =>
      obtain ⟨value, here, rest⟩ := bind_eq_ok.mp parsed
      obtain ⟨others, later, same⟩ := bind_eq_ok.mp rest
      exact bind_eq_ok.mpr ⟨value, each _ _ head value here,
        bind_eq_ok.mpr ⟨others, ih later, same⟩⟩

section Lists

variable {related : σ → τ → Prop} {bufLen limit : Nat}

/-- A list that the first source has, the second has too. -/
theorem AgreeList.exists_items (agree : AgreeList related first second key bufLen limit)
    {entries : List σ} (found : KeySource.objects first key.toList bufLen limit = some entries) :
    ∃ items, KeySource.objects second key.toList bufLen limit = some items ∧
      List.Forall₂ related entries items := by
  unfold AgreeList at agree
  rw [found] at agree
  generalize KeySource.objects second key.toList bufLen limit = shown at agree ⊢
  cases agree with
  | some all => exact ⟨_, rfl, all⟩

theorem parseOptionalList_agrees {α : Type} {parse : σ → ConfigResult α}
    {parse' : τ → ConfigResult α}
    (each : ∀ x y, related x y → ∀ value, parse x = .ok value → parse' y = .ok value)
    (agree : AgreeList related first second key bufLen limit) {values : List α}
    (parsed : parseOptionalList parse first key bufLen limit = .ok values) :
    parseOptionalList parse' second key bufLen limit = .ok values := by
  unfold AgreeList at agree
  unfold parseOptionalList at parsed ⊢
  generalize KeySource.objects first key.toList bufLen limit = found at agree parsed
  generalize KeySource.objects second key.toList bufLen limit = shown at agree ⊢
  cases agree with
  | none => exact parsed
  | some all => exact parseEach_related each all parsed

end Lists

end Agreement

/-! ## A text that agrees with the document -/

/-- The search finds the member with this key first, or nothing if there is none. -/
def ReadsKey (text : CString) (json : Json) (key : String) : Prop :=
  match json.member? key.toList with
  | none => ¬ quoted key.toList <:+: text
  | some member => FindsMember text key.toList member

section Keys

variable {text : CString} {json : Json} {key : String} {member : Json.Member}

theorem readsKey_none (absent : json.member? key.toList = none) :
    ReadsKey text json key ↔ ¬ quoted key.toList <:+: text := by
  rw [ReadsKey, absent]

theorem readsKey_some (found : json.member? key.toList = some member) :
    ReadsKey text json key ↔ FindsMember text key.toList member := by
  rw [ReadsKey, found]

instance : Decidable (ReadsKey text json key) :=
  match found : json.member? key.toList with
  | none => decidable_of_iff _ (readsKey_none found).symm
  | some _ => decidable_of_iff _ (readsKey_some found).symm

theorem value?_of_member? (found : json.member? key.toList = some member) :
    json.value? key.toList = some (Json.memberValue member) := by
  rw [Json.value?, found, Option.map_some]

/-- A key that the search does not find is absent for the text. -/
theorem agrees_of_absent (keyText : KeyText key.toList) (absent : json.member? key.toList = none)
    (missing : ¬ quoted key.toList <:+: text) : Agrees text json key := by
  have none := (jsonFindKey_eq_none_iff keyText.1).mpr missing
  have noValue : jsonValue text key.toList = .none := by rw [jsonValue, none]; rfl
  constructor
  · simp only [KeySource.hasKey, none, absent, Option.isSome_none]
  · intro x read
    simp [KeySource.intKey, jsonIntKeyChecked, noValue] at read
  · intro x read
    simp [KeySource.boolKey, jsonBoolKeyChecked, noValue] at read
  · intro outLen x read
    simp [KeySource.stringKey, jsonStringKeyChecked, noValue] at read

/-- At a member that the search finds the text has no other values than the member. -/
theorem agrees_of_finds (keyText : KeyText key.toList)
    (found : json.member? key.toList = some member)
    (finds : FindsMember text key.toList member) : Agrees text json key := by
  have value := value?_of_member? found
  obtain ⟨tail, here, delimited⟩ := jsonValue_member keyText finds
  obtain ⟨_, rest, first, _⟩ := finds
  have searched := (jsonFindKey_eq_some_iff keyText.1).mpr first
  constructor
  · simp only [KeySource.hasKey, searched, found, Option.isSome_some]
  · intro x read
    simp only [KeySource.intKey, value, Option.bind_some]
    exact jsonIntKeyChecked_value here delimited read
  · intro x read
    simp only [KeySource.boolKey, value, Option.bind_some]
    exact jsonBoolKeyChecked_value here read
  · intro outLen x read
    simp only [KeySource.stringKey, value, Option.bind_some] at read ⊢
    split at read
    · rename_i accepted
      cases read
      exact jsonStringKeyChecked_value here accepted
    · cases read

theorem ReadsKey.agrees (keyText : KeyText key.toList) (reads : ReadsKey text json key) :
    Agrees text json key := by
  cases found : json.member? key.toList with
  | none => exact agrees_of_absent keyText found ((readsKey_none found).mp reads)
  | some member => exact agrees_of_finds keyText found ((readsKey_some found).mp reads)

end Keys

/-- The search finds each of these keys at the member that has it. -/
def ReadsKeys (text : CString) (json : Json) (keys : List String) : Prop :=
  ∀ key ∈ keys, ReadsKey text json key

instance (text : CString) (json : Json) (keys : List String) :
    Decidable (ReadsKeys text json keys) :=
  inferInstanceAs (Decidable (∀ key ∈ keys, ReadsKey text json key))

/-- The search finds the array behind the key, if any; the list readers cut it into its items, and
every item is read from its copy. -/
def ReadsList (entry : CString → Json → Prop) (text : CString) (json : Json) (key : String)
    (bufLen limit : Nat) : Prop :=
  match json.member? key.toList with
  | none => jsonFindArray text key.toList = none
  | some member =>
      match (Json.memberValue member).items? with
      | none => False
      | some items =>
          FindsList text key.toList limit member items ∧
            ∀ item ∈ items, entry (jsonCopySlice bufLen item.text) item

section Reading

variable {entry : CString → Json → Prop} {text : CString} {json : Json} {key : String}
  {bufLen limit : Nat} {member : Json.Member} {items : List Json}

theorem readsList_none (absent : json.member? key.toList = none) :
    ReadsList entry text json key bufLen limit ↔ jsonFindArray text key.toList = none := by
  rw [ReadsList, absent]

theorem readsList_some (found : json.member? key.toList = some member)
    (isArray : (Json.memberValue member).items? = some items) :
    ReadsList entry text json key bufLen limit ↔
      FindsList text key.toList limit member items ∧
        ∀ item ∈ items, entry (jsonCopySlice bufLen item.text) item := by
  simp only [ReadsList, found, isArray]

theorem not_readsList (found : json.member? key.toList = some member)
    (noArray : (Json.memberValue member).items? = none) :
    ¬ ReadsList entry text json key bufLen limit := by
  simp only [ReadsList, found, noArray, not_false_eq_true]

instance [∀ slice item, Decidable (entry slice item)] :
    Decidable (ReadsList entry text json key bufLen limit) :=
  match found : json.member? key.toList with
  | none => decidable_of_iff _ (readsList_none found).symm
  | some member =>
      match isArray : (Json.memberValue member).items? with
      | none => isFalse (not_readsList found isArray)
      | some _ => decidable_of_iff _ (readsList_some found isArray).symm

/-- A list that is read this way is absent, or an array whose items are read. -/
theorem ReadsList.cases (reads : ReadsList entry text json key bufLen limit) :
    (json.value? key.toList = none ∧ jsonFindArray text key.toList = none) ∨
      ∃ member items, json.value? key.toList = some (Json.memberValue member) ∧
        (Json.memberValue member).items? = some items ∧
          FindsList text key.toList limit member items ∧
            ∀ item ∈ items, entry (jsonCopySlice bufLen item.text) item := by
  cases found : json.member? key.toList with
  | none =>
      refine Or.inl ⟨?_, (readsList_none found).mp reads⟩
      rw [Json.value?, found, Option.map_none]
  | some member =>
      cases isArray : (Json.memberValue member).items? with
      | none => exact absurd reads (not_readsList found isArray)
      | some items =>
          exact Or.inr ⟨member, items, value?_of_member? found, isArray,
            (readsList_some found isArray).mp reads⟩

/-- The text and the document agree on such a list. -/
theorem ReadsList.agree (keyText : KeyText key.toList)
    (reads : ReadsList entry text json key bufLen limit) {related : CString → Json → Prop}
    (each : ∀ slice item, entry slice item → related slice item) :
    AgreeList related text json key bufLen limit := by
  rcases reads.cases with ⟨absent, missing⟩ | ⟨member, items, value, isArray, list, entries⟩
  · simp only [AgreeList, KeySource.objects, missing, absent, Option.map_none, Option.bind_none]
    exact .none
  · simp only [AgreeList, KeySource.objects, value, list.objects keyText isArray,
      Option.bind_some, isArray]
    refine .some (List.forall₂_map_left_iff.mpr (List.forall₂_same.mpr ?_))
    exact fun item inside => each _ _ (entries item inside)

end Reading

/-- The name of an absent section is quoted nowhere; of another one, this holds of the text from the
first place where its name is quoted. -/
def FromSection (reads : CString → Json → Prop) (text : CString) (root : Json) (name : String) :
    Prop :=
  match profileSection root name with
  | none => ¬ quoted name.toList <:+: text
  | some section_ => ∃ found ∈ findSub (quoted name.toList) text, reads found section_

section Sections

variable {reads : CString → Json → Prop} {text : CString} {root : Json} {name : String}
  {section_ : Json}

theorem fromSection_none (absent : profileSection root name = none) :
    FromSection reads text root name ↔ ¬ quoted name.toList <:+: text := by
  rw [FromSection, absent]

theorem fromSection_some (present : profileSection root name = some section_) :
    FromSection reads text root name ↔
      ∃ found ∈ findSub (quoted name.toList) text, reads found section_ := by
  rw [FromSection, present]

instance [∀ found section_, Decidable (reads found section_)] :
    Decidable (FromSection reads text root name) :=
  match found : profileSection root name with
  | none => decidable_of_iff _ (fromSection_none found).symm
  | some _ => decidable_of_iff _ (fromSection_some found).symm

/-- The text search finds the section when the document has it. -/
theorem FromSection.rel (nameText : KeyText name.toList)
    (section_ : FromSection reads text root name) {related : CString → Json → Prop}
    (each : ∀ found own, reads found own → related found own) :
    Option.Rel related (jsonFindKey text name.toList) (profileSection root name) := by
  cases shape : profileSection root name with
  | none =>
      rw [(jsonFindKey_eq_none_iff nameText.1).mpr ((fromSection_none shape).mp section_)]
      exact .none
  | some own =>
      obtain ⟨found, searched, here⟩ := (fromSection_some shape).mp section_
      rw [jsonFindKey, whole_needle nameText.1, Option.mem_def.mp searched]
      exact .some (each found own here)

end Sections

end NitroSense
