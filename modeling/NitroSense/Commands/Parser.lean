import NitroSense.Text

/-!
# The command grammar

`commands/parser/`.  A command line is a list of blank-separated tokens.  Every
handler reads the line again from its start, each into buffers of its own, so a
token that fits one parser may be too long for another.
-/

namespace NitroSense

def commandSkipSpace (p : CString) : CString := p.dropWhile isBlank

def commandReadToken (cursor : CString) (outLen : Nat) : Option (CString × CString) :=
  let p := commandSkipSpace cursor
  let token := p.takeWhile fun c => !isBlank c
  if token = [] ∨ token.length ≥ outLen then none
  else some (token, p.dropWhile fun c => !isBlank c)

def commandHasOnlyTrailingSpace (p : CString) : Bool := (commandSkipSpace p).isEmpty

def commandExpectToken (cursor : CString) (outLen : Nat) (expected : CString) : Option CString :=
  (commandReadToken cursor outLen).bind fun read => if read.1 = expected then some read.2 else none

def commandLastToken (cursor : CString) (outLen : Nat) : Option CString :=
  (commandReadToken cursor outLen).bind fun read =>
    if commandHasOnlyTrailingSpace read.2 then some read.1 else none

def commandFirstToken (cmd : CString) (tokenLen : Nat) : Option CString :=
  (commandReadToken cmd tokenLen).map Prod.fst

def commandSecondToken (cmd : CString) (tokenLen : Nat) : Option CString :=
  (commandReadToken cmd 32).bind fun first => (commandReadToken first.2 tokenLen).map Prod.fst

def commandParsePercentToken (text : CString) : Option Int := parseIntRange text 1 100 10

def commandParseIntToken (text : CString) (minValue maxValue : Int) : Option Int :=
  parseIntRange text minValue maxValue 0

def commandParseAction (cmd expectedCommand : CString) (actionLen : Nat) : Option CString :=
  (commandExpectToken cmd 32 expectedCommand).bind fun cursor => commandLastToken cursor actionLen

def commandParseEnumAction (cmd expectedCommand : CString) (values : List CString)
    (actionLen : Nat) : Option CString :=
  (commandParseAction cmd expectedCommand actionLen).filter fun action => values.contains action

def commandParseSubAction (cmd expectedCommand expectedAction : CString) (valueLen : Nat) :
    Option CString :=
  (commandExpectToken cmd 32 expectedCommand).bind fun cursor =>
    (commandExpectToken cursor 16 expectedAction).bind fun cursor => commandLastToken cursor valueLen

def commandParseIntAction (cmd expectedCommand : CString) (minValue maxValue : Int) : Option Int :=
  (commandParseAction cmd expectedCommand 16).bind fun text =>
    commandParseIntToken text minValue maxValue

def commandParseIntSubAction (cmd expectedCommand expectedAction : CString)
    (minValue maxValue : Int) : Option Int :=
  (commandParseSubAction cmd expectedCommand expectedAction 16).bind fun text =>
    commandParseIntToken text minValue maxValue

def commandIsExact (cmd name : CString) : Bool :=
  (commandExpectToken cmd 32 name).any commandHasOnlyTrailingSpace

/-! ## The commands -/

def parseSetCommand (cmd : CString) (fanLen : Nat) : Option (CString × Int) :=
  (commandExpectToken cmd 16 "set".toList).bind fun cursor =>
    (commandReadToken cursor fanLen).bind fun fan =>
      (commandLastToken fan.2 16).bind fun percentText =>
        (commandParsePercentToken percentText).map fun percent => (fan.1, percent)

def parsePresetCommand (cmd : CString) (presetNameLen : Nat) : Option CString :=
  commandParseAction cmd "preset".toList presetNameLen

def parseCoolboostCommand (cmd : CString) (actionLen : Nat) : Option CString :=
  commandParseAction cmd "coolboost".toList actionLen

def parseFanModeCommand (cmd : CString) (actionLen : Nat) : Option CString :=
  commandParseAction cmd "fan-mode".toList actionLen

def parseProfileCommand (cmd : CString) (actionLen : Nat) : Option CString :=
  commandParseAction cmd "profile".toList actionLen

def parsePowerSourceCommand (cmd : CString) (actionLen : Nat) : Option CString :=
  commandParseAction cmd "power-source".toList actionLen

def parsePowerSourceAutoCommand (cmd : CString) (valueLen : Nat) : Option CString :=
  commandParseSubAction cmd "power-source".toList "auto".toList valueLen

def parseGpuTempCommand (cmd : CString) (actionLen : Nat) : Option CString :=
  commandParseAction cmd "gpu-temp".toList actionLen

def parseKeyboardBacklightCommand (cmd : CString) (actionLen : Nat) : Option CString :=
  commandParseAction cmd "keyboard-backlight".toList actionLen

def parseKeyboardBacklightSetCommand (cmd : CString) : Option Int :=
  commandParseIntSubAction cmd "keyboard-backlight".toList "set".toList 0 100

def parseKeyboardBacklightTimeoutCommand (cmd : CString) (actionLen : Nat) : Option CString :=
  commandParseSubAction cmd "keyboard-backlight".toList "timeout".toList actionLen

def parseEcReadCommand (cmd : CString) : Option Int :=
  commandParseIntAction cmd "ec-read".toList 0 255

def parseEcDumpCommand (cmd : CString) : Option (Int × Int) :=
  (commandExpectToken cmd 16 "ec-dump".toList).bind fun cursor =>
    (commandReadToken cursor 16).bind fun startText =>
      (commandLastToken startText.2 16).bind fun endText =>
        (commandParseIntToken startText.1 0 255).bind fun start =>
          (commandParseIntToken endText 0 255).bind fun last =>
            if start ≤ last ∧ last - start ≤ 127 then some (start, last) else none

/-! ## What a token is -/

section Tokens

variable {cursor token rest : CString} {outLen : Nat}

/-- A token fits its buffer with the NUL, is not empty and holds no blank. -/
theorem commandReadToken_token (read : commandReadToken cursor outLen = some (token, rest)) :
    token ≠ [] ∧ token.length < outLen ∧ ∀ c ∈ token, isBlank c = false := by
  simp only [commandReadToken] at read
  split at read
  · cases read
  · rename_i accepted
    obtain ⟨rfl, _⟩ := Prod.mk.inj (Option.some.inj read)
    obtain ⟨nonempty, fits⟩ := not_or.mp accepted
    have noBlank : ((commandSkipSpace cursor).takeWhile fun c => !isBlank c).all
      (fun c => !isBlank c) = true := List.all_takeWhile
    refine ⟨nonempty, Nat.lt_of_not_le fits, fun c member => ?_⟩
    simpa using List.all_eq_true.mp noBlank c member

theorem commandLastToken_read (last : commandLastToken cursor outLen = some token) :
    ∃ rest, commandReadToken cursor outLen = some (token, rest) := by
  obtain ⟨⟨first, behind⟩, readToken, same⟩ := Option.bind_eq_some_iff.mp last
  dsimp only at same
  split at same
  · rw [← Option.some.inj same]
    exact ⟨behind, readToken⟩
  · cases same

theorem commandLastToken_length (last : commandLastToken cursor outLen = some token) :
    token.length < outLen := by
  obtain ⟨rest, read⟩ := commandLastToken_read last
  exact (commandReadToken_token read).2.1

theorem commandParseAction_length {cmd name action : CString}
    (parsed : commandParseAction cmd name outLen = some action) : action.length < outLen := by
  obtain ⟨_, _, last⟩ := Option.bind_eq_some_iff.mp parsed
  exact commandLastToken_length last

/-- An action holds no blank. -/
theorem commandParseAction_solid {cmd name action : CString}
    (parsed : commandParseAction cmd name outLen = some action) :
    ∀ c ∈ action, isBlank c = false := by
  obtain ⟨_, _, last⟩ := Option.bind_eq_some_iff.mp parsed
  obtain ⟨rest, read⟩ := commandLastToken_read last
  exact (commandReadToken_token read).2.2

theorem parseSetCommand_fan {cmd fan : CString} {percent : Int}
    (parsed : parseSetCommand cmd outLen = some (fan, percent)) : fan.length < outLen := by
  obtain ⟨_, _, parsed⟩ := Option.bind_eq_some_iff.mp parsed
  obtain ⟨⟨token, behind⟩, readToken, parsed⟩ := Option.bind_eq_some_iff.mp parsed
  obtain ⟨_, _, parsed⟩ := Option.bind_eq_some_iff.mp parsed
  obtain ⟨_, _, same⟩ := Option.map_eq_some_iff.mp parsed
  rw [← (Prod.mk.inj same).1]
  exact (commandReadToken_token readToken).2.1

/-- A percent is accepted in 1-100 only. -/
theorem parseSetCommand_percent {cmd fan : CString} {percent : Int}
    (parsed : parseSetCommand cmd outLen = some (fan, percent)) : 1 ≤ percent ∧ percent ≤ 100 := by
  obtain ⟨_, _, parsed⟩ := Option.bind_eq_some_iff.mp parsed
  obtain ⟨_, _, parsed⟩ := Option.bind_eq_some_iff.mp parsed
  obtain ⟨_, _, parsed⟩ := Option.bind_eq_some_iff.mp parsed
  obtain ⟨_, value, same⟩ := Option.map_eq_some_iff.mp parsed
  rw [← (Prod.mk.inj same).2]
  exact parseIntRange_bounds value

theorem commandExpectToken_eq {name : CString}
    (expected : commandExpectToken cursor outLen name = some rest) :
    commandReadToken cursor outLen = some (name, rest) := by
  obtain ⟨⟨token, behind⟩, read, same⟩ := Option.bind_eq_some_iff.mp expected
  dsimp only at same
  split at same
  · rename_i tokenName
    rw [read, tokenName, Option.some.inj same]
  · cases same

/-- The action of a one-action command is its second token. -/
theorem commandSecondToken_of_parseAction {cmd name action : CString}
    (parsed : commandParseAction cmd name outLen = some action) :
    commandSecondToken cmd outLen = some action := by
  obtain ⟨behind, expected, last⟩ := Option.bind_eq_some_iff.mp parsed
  obtain ⟨⟨first, after⟩, readToken, same⟩ := Option.bind_eq_some_iff.mp last
  rw [commandSecondToken, commandExpectToken_eq expected, Option.bind_some, readToken]
  dsimp only at same
  split at same
  · exact same
  · cases same

theorem commandSecondToken_of_parseSubAction {cmd name action value : CString}
    (parsed : commandParseSubAction cmd name action outLen = some value) :
    commandSecondToken cmd 16 = some action := by
  obtain ⟨behind, expected, sub⟩ := Option.bind_eq_some_iff.mp parsed
  obtain ⟨after, expectedAction, _⟩ := Option.bind_eq_some_iff.mp sub
  rw [commandSecondToken, commandExpectToken_eq expected, Option.bind_some,
    commandExpectToken_eq expectedAction]
  rfl

end Tokens

end NitroSense
