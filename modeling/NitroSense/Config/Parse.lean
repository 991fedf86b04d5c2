import NitroSense.Config
import NitroSense.Ec
import NitroSense.Json.Scan

/-!
# Reading the keys of a profile

`config/parse.c`.  The section parsers only ask for the value of a key and for
the objects of a list, so they are written over any source that answers these
questions.  The daemon's source is a text, searched by `util/json.h`.
-/

namespace NitroSense

/-- What a section parser asks of the place it reads from. -/
class KeySource (σ : Type) where
  hasKey : σ → CString → Bool
  intKey : σ → CString → Option Int
  boolKey : σ → CString → Option Bool
  stringKey : σ → CString → (outLen : Nat) → Option CString
  objects : σ → CString → (bufLen limit : Nat) → Option (List σ)

/-- A pointer into the text: `json_find_key` and the checked readers behind it. -/
instance : KeySource CString where
  hasKey json key := (jsonFindKey json key).isSome
  intKey := jsonIntKeyChecked
  boolKey := jsonBoolKeyChecked
  stringKey json key outLen :=
    let read := jsonStringKeyChecked json key [] outLen
    if read.2 then some read.1 else none
  objects json key bufLen limit := (jsonFindArray json key).map (jsonObjects bufLen limit)

/-- The result of a parser that reports what is invalid: the lines it prints, or a value. -/
abbrev ConfigResult := Except (List CString)

def configInvalid {α : Type} (message : String) : ConfigResult α :=
  .error [("invalid config: " ++ message ++ "\n").toList]

/-- A value, or the report that it is invalid. -/
def orInvalid {α : Type} (value : Option α) (message : String) : ConfigResult α :=
  match value with
  | none => configInvalid message
  | some value => .ok value

/-- A report of `config_load` behind those of a section. -/
def alsoInvalid {α : Type} (result : ConfigResult α) (message : String) : ConfigResult α :=
  match result with
  | .error lines => .error (lines ++ [("invalid config: " ++ message ++ "\n").toList])
  | .ok value => .ok value

section Keys

variable {σ : Type} [KeySource σ] (json : σ) (key : String)

def configKeyPresent : Bool := KeySource.hasKey json key.toList

def configRequiredIntKey : Option Int := KeySource.intKey json key.toList

def configOptionalIntKey (value : Int) : Option Int :=
  if configKeyPresent json key then KeySource.intKey json key.toList else some value

def configOptionalBoolKey (value : Bool) : Option Bool :=
  if configKeyPresent json key then KeySource.boolKey json key.toList else some value

def configOptionalStringKey (out : CString) (outLen : Nat) : Option CString :=
  if configKeyPresent json key then KeySource.stringKey json key.toList outLen else some out

def configOptionalClampedIntKey (value low high : Int) : Option Int :=
  (configOptionalIntKey json key value).map fun value => clampInt value low high

def configRequiredStringKey (outLen : Nat) : Option CString :=
  (KeySource.stringKey json key.toList outLen).filter (· ≠ [])

end Keys

/-- The loops of the list parsers: every entry is parsed, and the first invalid one ends it. -/
def parseEach {α σ : Type} (parse : σ → ConfigResult α) : List σ → ConfigResult (List α)
  | [] => .ok []
  | entry :: rest => do
      let value ← parse entry
      let values ← parseEach parse rest
      .ok (value :: values)

/-- A list of the profile that may be absent. -/
def parseOptionalList {α σ : Type} [KeySource σ] (parse : σ → ConfigResult α) (json : σ)
    (key : String) (bufLen limit : Nat) : ConfigResult (List α) :=
  parseEach parse ((KeySource.objects json key.toList bufLen limit).getD [])

/-! ## Successful results -/

section Results

variable {α β : Type}

/-- A parser that goes on has had a value. -/
theorem bind_eq_ok {first : ConfigResult α} {next : α → ConfigResult β} {value : β} :
    first >>= next = .ok value ↔ ∃ x, first = .ok x ∧ next x = .ok value := by
  cases first with
  | error lines => exact ⟨nofun, fun ⟨_, same, _⟩ => by cases same⟩
  | ok x => exact ⟨fun same => ⟨x, rfl, same⟩, fun ⟨_, same, rest⟩ => by cases same; exact rest⟩

theorem orInvalid_eq_ok {value : Option α} {message : String} {x : α} :
    orInvalid value message = .ok x ↔ value = some x := by
  cases value with
  | none => exact ⟨nofun, nofun⟩
  | some y => exact ⟨fun same => by cases same; rfl, fun same => by cases same; rfl⟩

theorem alsoInvalid_eq_ok {result : ConfigResult α} {message : String} {x : α} :
    alsoInvalid result message = .ok x ↔ result = .ok x := by
  cases result with
  | error lines => exact ⟨nofun, nofun⟩
  | ok y => exact Iff.rfl

end Results

end NitroSense
