import NitroSense.Client.Dispatch
import NitroSense.Commands.Grammar
import NitroSense.Commands.Rejection

/-!
# What the daemon makes of the client's lines

A command line of the user says what is asked of the daemon.  The client sends
a line of its own making, the daemon parses it again with its own buffers, and
the two grammars agree: what was asked for is what is done.
-/

namespace NitroSense

open Lib

/-! ## What a command line asks for -/

/-- A report of the daemon, which may read the EC. -/
abbrev Report := AnsConfig → Daemon → EcDevice × CString

/-- What is asked of the daemon: an action, a report, or nothing it understands. -/
inductive Asked where
  | request (action : Request)
  | report (text : Report)
  | nothing

/-- The daemon does what it was asked. -/
def Asked.Fulfilled (cfg : AnsConfig) (daemon : Daemon) (result : Daemon × CString) : Asked → Prop
  | request action => result = action.perform cfg daemon
  | report text => result = daemon.inspected (text cfg daemon)
  | nothing => result.1 = daemon ∧ IsError result.2

def Asked.ofRequest : Option Request → Asked
  | some action => .request action
  | none => .nothing

/-- The part of a command that the daemon reads: its first line. -/
def firstLine (text : CString) : CString := text.takeWhile (· != '\n')

/-- The word on the first line of an argument, if it is a single one. -/
def oneWord (text : CString) : Option CString :=
  match commandTokens (firstLine text) with
  | [word] => some word
  | _ => none

def askedProfile (word : CString) : Asked :=
  if word = "status".toList then .report fun cfg daemon => replyProfileStatus daemon.ec cfg
  else if word.length < 32 then .request (.profile word)
  else .nothing

def askedPreset (word : CString) : Asked :=
  if short : word.length < 32 then .request (.preset word short) else .nothing

def askedSet (fan text : CString) : Asked :=
  match clientParsePercent text with
  | none => .nothing
  | some percent =>
      if accepted : fan.length < 32 ∧ 1 ≤ percent ∧ percent ≤ 100 then
        .request (.set fan percent accepted)
      else .nothing

def askedPowerSource (value more : CString) : Asked :=
  if value = "status".toList then
    .report fun cfg daemon => replyPowerSourceStatus daemon.ec cfg daemon.host daemon.runtime
  else if value = "apply".toList then .request .powerSourceApply
  else .ofRequest ((findToggle more).map .powerSourceAuto)

def keyboardReport : Report := fun cfg daemon =>
  replyKeyboardBacklightStatus daemon.ec cfg daemon.host.leds daemon.runtime

def askedKeyboard (value more : CString) : Asked :=
  if value = "status".toList then .report keyboardReport
  else if value = "set".toList then
    let percent := (strtol 10 more).value
    if percent ∈ [(0 : Int), 25, 50, 75, 100] then .request (.keyboardSet percent) else .nothing
  else if more = "status".toList then .report keyboardReport
  else .ofRequest ((findToggle more).map .keyboardTimeout)

def askedEc (value start last : CString) : Asked :=
  if value = "read".toList then
    match clientParseByteValue start with
    | some reg => .report fun _ daemon => replyEcRead daemon.ec reg
    | none => .nothing
  else
    match clientParseByteValue start, clientParseByteValue last with
    | some start, some last => .report fun _ daemon => replyEcDump daemon.ec start last
    | _, _ => .nothing

/-- What a command of this name asks for, with the arguments behind it. -/
def askedNamed (name value more last : CString) : Asked :=
  if name = "status".toList then .report fun cfg daemon => (daemon.ec, replyStatus cfg daemon)
  else if name = "presets".toList then .report fun cfg daemon => (daemon.ec, replyPresets cfg)
  else if name = "capabilities".toList then
    .report fun cfg daemon => (daemon.ec, replyCapabilities cfg daemon.host daemon.runtime)
  else if name = "auto".toList then .request .auto
  else if name = "firmware-auto".toList then .request .firmwareAuto
  else if name = "resume".toList then .request .resume
  else if name = "stop".toList then .request .stop
  else if name = "coolboost".toList then
    if value = "status".toList then
      .report fun cfg daemon => (daemon.ec, replyCoolboostStatus cfg daemon.coolboostEnabled)
    else .ofRequest ((findCoolboostAction value).map .coolboost)
  else if name = "fan-mode".toList then
    if value = "status".toList then .report fun cfg daemon => replyFanModeStatus daemon.ec cfg
    else .ofRequest ((findFanModeAction value).map .fanMode)
  else if name = "gpu-temp".toList then
    if value = "status".toList then
      .report fun cfg daemon => replyGpuTempStatus daemon.ec cfg daemon.host.sensors
    else .ofRequest ((findGpuTempAction value).map .gpuTemp)
  else if name = "profile".toList then (oneWord value).elim .nothing askedProfile
  else if name = "power-source".toList then askedPowerSource value more
  else if name = "keyboard-backlight".toList then askedKeyboard value more
  else if name = "ec".toList then askedEc value more last
  else if name = "set".toList then askedSet value more
  else if name = "preset".toList then
    if value = "show".toList then .report fun cfg daemon => (daemon.ec, replyPresetShow cfg daemon)
    else (oneWord value).elim .nothing askedPreset
  else .nothing

def askedBy (argv : List CString) : Asked :=
  askedNamed (argument argv 1) (argument argv 2) (argument argv 3) (argument argv 4)

/-! ## Lines and their tokens -/

section Tokens

variable {word rest : CString}

/-- A word of a line: not empty and without a blank. -/
structure IsWord (word : CString) : Prop where
  nonempty : word ≠ []
  solid : ∀ c ∈ word, isBlank c = false

theorem commandTokens_word (isWord : IsWord word) : commandTokens word = [word] := by
  have behind : ∀ c ∈ ([] : CString).head?, isBlank c = true := by
    intro c head
    cases head
  have tokens : tokens isBlank (word ++ []) = word :: tokens isBlank [] :=
    tokens_run isWord.nonempty isWord.solid behind
  rwa [List.append_nil] at tokens

theorem commandTokens_cons (isWord : IsWord word) (rest : CString) :
    commandTokens (word ++ (' ' :: rest)) = word :: commandTokens rest := by
  have behind : ∀ c ∈ (' ' :: rest).head?, isBlank c = true := by
    intro c head
    cases head
    rfl
  have tokens := tokens_run isWord.nonempty isWord.solid behind
  rwa [tokens_sep_cons rfl] at tokens

theorem decimal_isWord (value : Int) : IsWord (decimal value) := by
  constructor
  · unfold decimal
    split
    · exact List.cons_ne_nil _ _
    · exact Nat.toDigits_ne_nil
  · intro c member
    rcases mem_decimal member with rfl | digit
    · rfl
    · have solid := isSpace_of_isDigit digit
      rw [isSpace, Bool.or_eq_false_iff, Bool.or_eq_false_iff] at solid
      exact solid.1.1

/-- A line up to its end. -/
theorem firstLine_append (noNewline : '\n' ∉ word) (rest : CString) :
    firstLine (word ++ rest) = word ++ firstLine rest := by
  rw [firstLine, List.takeWhile_append_of_pos, firstLine]
  intro c member
  simpa using fun same : c = '\n' => noNewline (same ▸ member)

/-- An argument and the end of the line. -/
theorem firstLine_argument (text : CString) : firstLine (text ++ "\n".toList) = firstLine text := by
  induction text with
  | nil => rfl
  | cons c text ih =>
      by_cases newline : c = '\n'
      · rw [firstLine, firstLine, List.cons_append, List.takeWhile_cons_of_neg (by simp [newline]),
          List.takeWhile_cons_of_neg (by simp [newline])]
      · rw [firstLine, List.cons_append, List.takeWhile_cons_of_pos (by simp [newline]), firstLine,
          List.takeWhile_cons_of_pos (by simp [newline])]
        exact congrArg (c :: ·) ih

theorem IsWord.noNewline (isWord : IsWord word) : '\n' ∉ word := by
  intro member
  cases isWord.solid '\n' member

theorem commandFirstToken_of_tokens {name : CString} {others : List CString}
    (tokens : commandTokens word = name :: others) (short : name.length < 32) :
    commandFirstToken word 32 = some name := by
  rw [commandFirstToken]
  rcases commandReadToken_cases word 32 with ⟨none, -⟩ | ⟨token, rest, first, read⟩
  · rw [tokens] at none
    cases none
  · rw [tokens] at first
    cases first
    rw [read, if_pos short]
    rfl

end Tokens

/-! ## Printed numbers are read back -/

section Numbers

theorem toDigits_baseDigits (n : Nat) :
    BaseDigits 10 (Nat.toDigits 10 n) n ∧ BaseDigits 0 (Nat.toDigits 10 n) n := by
  have all := toDigits_isDigit n
  have small : ∀ c ∈ Nat.toDigits 10 n, digitValue c < 10 := fun c member =>
    digitValue_lt_ten.mpr (all c member)
  have value : numeral 10 (Nat.toDigits 10 n) = n := by
    rw [numeral_eq_ofDigitChars all, Nat.ofDigitChars_ten_toDigits]
  have plain := BaseDigits.decimal Nat.toDigits_ne_nil small
  rw [value] at plain
  refine ⟨plain, ?_⟩
  by_cases zero : n = 0
  · rw [zero]
    have read : BaseDigits 0 ['0'] (numeral 8 ['0']) := .octal nofun
    exact read
  · have head := toDigits_head (Nat.pos_of_ne_zero zero)
    cases shape : Nat.toDigits 10 n with
    | nil => exact absurd shape Nat.toDigits_ne_nil
    | cons d more =>
        rw [shape] at head small value
        have read := BaseDigits.plain (fun same => head (congrArg some same)) small
        rwa [value] at read

/-- A printed number is a complete numeral in both bases the parsers use. -/
theorem decimal_complete (value : Int) :
    CompleteNumeral 10 (decimal value) value ∧ CompleteNumeral 0 (decimal value) value := by
  obtain ⟨plain, marked⟩ := toDigits_baseDigits value.natAbs
  unfold decimal
  split
  · rename_i negative
    have ten : CompleteNumeral 10 ([] ++ '-' :: Nat.toDigits 10 value.natAbs) (-value.natAbs) :=
      .minus nofun plain
    have zero : CompleteNumeral 0 ([] ++ '-' :: Nat.toDigits 10 value.natAbs) (-value.natAbs) :=
      .minus nofun marked
    rw [show -(value.natAbs : Int) = value by omega] at ten zero
    exact ⟨ten, zero⟩
  · rename_i nonneg
    have ten : CompleteNumeral 10 ([] ++ Nat.toDigits 10 value.natAbs) value.natAbs :=
      .unsigned nofun plain
    have zero : CompleteNumeral 0 ([] ++ Nat.toDigits 10 value.natAbs) value.natAbs :=
      .unsigned nofun marked
    rw [show (value.natAbs : Int) = value by omega] at ten zero
    exact ⟨ten, zero⟩

/-- A printed `long` is read back as that number only. -/
theorem decimal_numeral_eq {value other : Int} (bounds : -2 ^ 63 ≤ value ∧ value ≤ 2 ^ 63 - 1)
    (otherBounds : -2 ^ 63 ≤ other ∧ other ≤ 2 ^ 63 - 1)
    (read : CompleteNumeral 0 (decimal value) other) : other = value := by
  have reads {number : Int} (complete : CompleteNumeral 0 (decimal value) number)
      (range : -2 ^ 63 ≤ number ∧ number ≤ 2 ^ 63 - 1) :
      parseIntRange (decimal value) (-2 ^ 63) (2 ^ 63 - 1) 0 = some number :=
    (parseIntRange_iff (Or.inr rfl) (le_refl _) (le_refl _)).mpr ⟨complete, range⟩
  exact Option.some.inj ((reads read otherBounds).symm.trans (reads (decimal_complete value).2 bounds))

theorem strtol_bounds (base : Nat) (text : CString) :
    -2 ^ 63 ≤ (strtol base text).value ∧ (strtol base text).value ≤ 2 ^ 63 - 1 := by
  unfold strtol
  dsimp only
  split
  · dsimp only
    omega
  · dsimp only
    omega

theorem decimal_byte_length {value : Int} (bounds : 0 ≤ value ∧ value ≤ 255) :
    (decimal value).length < 16 := by
  have length : (decimal value).length ≤ 3 + 1 := decimal_length_le (by decide) (by omega)
  omega

end Numbers

/-! ## Commands of the daemon -/

section Daemon

variable {cfg : AnsConfig} {daemon : Daemon} {line name : CString}

theorem executeCommand_set (first : commandFirstToken line 32 = some "set".toList) :
    executeCommand cfg daemon line true = handleSetCommand cfg daemon line := by
  unfold executeCommand
  rw [first]
  change handleFanControlCommand cfg daemon line = _
  unfold handleFanControlCommand
  rw [first]
  rfl

theorem executeCommand_preset (first : commandFirstToken line 32 = some "preset".toList) :
    executeCommand cfg daemon line true = handlePresetCommand cfg daemon line := by
  unfold executeCommand
  rw [first]
  change handleFanControlCommand cfg daemon line = _
  unfold handleFanControlCommand
  rw [first]
  rfl

theorem executeCommand_profile (first : commandFirstToken line 32 = some "profile".toList) :
    executeCommand cfg daemon line true =
      if commandActionIsStatus (parseProfileCommand line 16) then
        daemon.inspected (replyProfileStatus daemon.ec cfg)
      else handleProfileCommand cfg daemon line := by
  unfold executeCommand
  rw [first]
  rfl

theorem executeCommand_keyboard
    (first : commandFirstToken line 32 = some "keyboard-backlight".toList) :
    executeCommand cfg daemon line true =
      if commandActionIsStatus (parseKeyboardBacklightCommand line 16) ||
          commandActionIsStatus (parseKeyboardBacklightTimeoutCommand line 16) then
        daemon.inspected (keyboardReport cfg daemon)
      else handleKeyboardBacklightCommand cfg daemon line := by
  unfold executeCommand
  rw [first]
  rfl

theorem executeCommand_ecRead (first : commandFirstToken line 32 = some "ec-read".toList) :
    executeCommand cfg daemon line true = handleEcReadCommand daemon line := by
  unfold executeCommand
  rw [first]
  change handleEcCommand daemon line = _
  unfold handleEcCommand
  rw [first]
  rfl

theorem executeCommand_ecDump (first : commandFirstToken line 32 = some "ec-dump".toList) :
    executeCommand cfg daemon line true = handleEcDumpCommand daemon line := by
  unfold executeCommand
  rw [first]
  change handleEcCommand daemon line = _
  unfold handleEcCommand
  rw [first]
  rfl

end Daemon

/-! ## The lines of the client -/

section Fulfilled

variable {cfg : AnsConfig} {daemon : Daemon}

theorem word_of_all {word : CString} (plain : (!word.isEmpty && word.all (!isBlank ·)) = true) :
    IsWord word := by
  simp only [Bool.and_eq_true, Bool.not_eq_true', List.isEmpty_eq_false_iff, List.all_eq_true]
    at plain
  exact ⟨plain.1, plain.2⟩

/-- The line of a command with a number behind it. -/
theorem firstLine_number {start : CString} (noNewline : '\n' ∉ start) (value : Int) :
    firstLine (start ++ (decimal value ++ "\n".toList)) = start ++ decimal value := by
  rw [firstLine_append noNewline, firstLine_append (decimal_isWord value).noNewline]
  exact congrArg (start ++ ·) (List.append_nil _)

theorem set_fulfilled {fan text : CString} {percent : Int}
    (listed : fan ∈ ["cpu".toList, "gpu".toList, "all".toList])
    (parsed : clientParsePercent text = some percent) :
    (askedSet fan text).Fulfilled cfg daemon (executeCommand cfg daemon
      (firstLine ("set ".toList ++
        (fan ++ (" ".toList ++ (decimal percent ++ "\n".toList))))) true) := by
  have bounds : 1 ≤ percent ∧ percent ≤ 100 := parseIntRange_bounds parsed
  have word : IsWord fan ∧ fan.length < 16 := by
    simp only [List.mem_cons, List.not_mem_nil, or_false] at listed
    rcases listed with rfl | rfl | rfl
    · exact ⟨word_of_all (by decide), by decide⟩
    · exact ⟨word_of_all (by decide), by decide⟩
    · exact ⟨word_of_all (by decide), by decide⟩
  have number := decimal_isWord percent
  let line : CString := "set".toList ++ ' ' :: (fan ++ ' ' :: decimal percent)
  have whole : firstLine ("set ".toList ++
      (fan ++ (" ".toList ++ (decimal percent ++ "\n".toList)))) = line := by
    rw [firstLine_append (by decide), firstLine_append word.1.noNewline,
      firstLine_number (by decide)]
    rfl
  have tokens : commandTokens line = ["set".toList, fan, decimal percent] := by
    rw [commandTokens_cons (word_of_all (by decide)), commandTokens_cons word.1,
      commandTokens_word number]
  have first := commandFirstToken_of_tokens tokens (by decide)
  have read : parseSetCommand line 32 = some (fan, percent) :=
    parseSetCommand_iff.mpr ⟨decimal percent, tokens, by omega, decimal_byte_length (by omega),
      (decimal_complete percent).1, bounds⟩
  have accepted : fan.length < 32 ∧ 1 ≤ percent ∧ percent ≤ 100 := ⟨by omega, bounds⟩
  rw [whole, executeCommand_set first, handleSetCommand, read, askedSet, parsed]
  dsimp only
  rw [dif_pos accepted]
  rfl

/-- Lines with a single word of the user's behind the name of the command. -/
theorem firstLine_named {start : CString} (noNewline : '\n' ∉ start) (text : CString) :
    firstLine (start ++ (text ++ "\n".toList)) = start ++ firstLine text := by
  rw [firstLine_append noNewline, firstLine_argument]

theorem oneWord_some {text word : CString} (single : oneWord text = some word) :
    commandTokens (firstLine text) = [word] := by
  unfold oneWord at single
  split at single
  · rename_i found
    rw [found, Option.some.inj single]
  · cases single

theorem oneWord_none {text : CString} (several : oneWord text = none) (word : CString) :
    commandTokens (firstLine text) ≠ [word] := by
  intro tokens
  unfold oneWord at several
  rw [tokens] at several
  cases several

theorem preset_fulfilled (text : CString) :
    ((oneWord text).elim .nothing askedPreset).Fulfilled cfg daemon (executeCommand cfg daemon
      (firstLine ("preset ".toList ++ (text ++ "\n".toList))) true) := by
  let line : CString := "preset".toList ++ ' ' :: firstLine text
  have whole : firstLine ("preset ".toList ++ (text ++ "\n".toList)) = line :=
    firstLine_named (by decide) text
  have tokens : commandTokens line = "preset".toList :: commandTokens (firstLine text) :=
    commandTokens_cons (word_of_all (by decide)) _
  have first := commandFirstToken_of_tokens tokens (by decide)
  have reads (name : CString) : parsePresetCommand line 32 = some name ↔
      commandTokens (firstLine text) = [name] ∧ name.length < 32 := by
    rw [parsePresetCommand, commandParseAction_iff, tokens]
    simp
  have refused (none : parsePresetCommand line 32 = none) :
      handlePresetCommand cfg daemon line =
        (daemon, controlReply "error usage: preset NAME\n".toList) := by
    rw [handlePresetCommand, none]
  have isError : IsError (controlReply "error usage: preset NAME\n".toList) := by decide
  rw [whole, executeCommand_preset first]
  cases single : oneWord text with
  | none =>
      have none : parsePresetCommand line 32 = none := by
        rw [Option.eq_none_iff_forall_ne_some]
        exact fun name read => oneWord_none single name ((reads name).mp read).1
      rw [refused none]
      exact ⟨rfl, isError⟩
  | some word =>
      rw [Option.elim_some, askedPreset]
      split
      · rename_i short
        rw [handlePresetCommand, (reads word).mpr ⟨oneWord_some single, short⟩]
        rfl
      · rename_i long
        have none : parsePresetCommand line 32 = none := by
          rw [Option.eq_none_iff_forall_ne_some]
          intro name read
          obtain ⟨same, short⟩ := (reads name).mp read
          rw [oneWord_some single] at same
          cases same
          exact long short
        rw [refused none]
        exact ⟨rfl, isError⟩

theorem profile_fulfilled (text : CString) :
    ((oneWord text).elim .nothing askedProfile).Fulfilled cfg daemon (executeCommand cfg daemon
      (firstLine ("profile ".toList ++ (text ++ "\n".toList))) true) := by
  let line : CString := "profile".toList ++ ' ' :: firstLine text
  have whole : firstLine ("profile ".toList ++ (text ++ "\n".toList)) = line :=
    firstLine_named (by decide) text
  have tokens : commandTokens line = "profile".toList :: commandTokens (firstLine text) :=
    commandTokens_cons (word_of_all (by decide)) _
  have first := commandFirstToken_of_tokens tokens (by decide)
  have reads (name : CString) (room : Nat) : parseProfileCommand line room = some name ↔
      commandTokens (firstLine text) = [name] ∧ name.length < room := by
    rw [parseProfileCommand, commandParseAction_iff, tokens]
    simp
  have refused (none : parseProfileCommand line 32 = none) :
      handleProfileCommand cfg daemon line =
        (daemon, controlReply "error usage: profile status|NAME\n".toList) := by
    rw [handleProfileCommand, none]
  have isError : IsError (controlReply "error usage: profile status|NAME\n".toList) := by decide
  rw [whole, executeCommand_profile first]
  cases single : oneWord text with
  | none =>
      have none (room : Nat) : parseProfileCommand line room = none := by
        rw [Option.eq_none_iff_forall_ne_some]
        exact fun name read => oneWord_none single name ((reads name room).mp read).1
      rw [none 16, if_neg (by decide), refused (none 32)]
      exact ⟨rfl, isError⟩
  | some word =>
      have found := oneWord_some single
      rw [Option.elim_some, askedProfile]
      by_cases status : word = "status".toList
      · rw [if_pos status, (reads word 16).mpr ⟨found, by rw [status]; decide⟩, status]
        rfl
      · have other : commandActionIsStatus (parseProfileCommand line 16) ≠ true := by
          intro isStatus
          have read := (reads _ 16).mp (commandActionIsStatus_iff.mp isStatus)
          rw [found] at read
          exact status (List.cons.inj read.1).1
        rw [if_neg status, if_neg other]
        split
        · rename_i short
          rw [handleProfileCommand, (reads word 32).mpr ⟨found, short⟩]
          rfl
        · rename_i long
          have none : parseProfileCommand line 32 = none := by
            rw [Option.eq_none_iff_forall_ne_some]
            intro name read
            obtain ⟨same, short⟩ := (reads name 32).mp read
            rw [found] at same
            cases same
            exact long short
          rw [refused none]
          exact ⟨rfl, isError⟩

theorem ecRead_fulfilled {start : CString} {reg : Int}
    (parsed : clientParseByteValue start = some reg) (last : CString) :
    (askedEc "read".toList start last).Fulfilled cfg daemon (executeCommand cfg daemon
      (firstLine ("ec-read ".toList ++ (decimal reg ++ "\n".toList))) true) := by
  have bounds : 0 ≤ reg ∧ reg ≤ 255 := parseIntRange_bounds parsed
  let line : CString := "ec-read".toList ++ ' ' :: decimal reg
  have whole : firstLine ("ec-read ".toList ++ (decimal reg ++ "\n".toList)) = line :=
    firstLine_number (by decide) reg
  have tokens : commandTokens line = ["ec-read".toList, decimal reg] := by
    rw [commandTokens_cons (word_of_all (by decide)), commandTokens_word (decimal_isWord reg)]
  have read : parseEcReadCommand line = some reg :=
    (acceptsNumbers.ecRead line reg).mpr ⟨decimal reg, tokens, decimal_byte_length bounds,
      (decimal_complete reg).2, bounds⟩
  rw [whole, executeCommand_ecRead (commandFirstToken_of_tokens tokens (by decide)),
    handleEcReadCommand, read, askedEc, if_pos rfl, parsed]
  rfl

theorem ecDump_fulfilled {startText lastText : CString} {start last : Int}
    (parsedStart : clientParseByteValue startText = some start)
    (parsedLast : clientParseByteValue lastText = some last)
    (range : ¬ (last < start ∨ last - start > 127)) :
    (askedEc "dump".toList startText lastText).Fulfilled cfg daemon (executeCommand cfg daemon
      (firstLine ("ec-dump ".toList ++
        (decimal start ++ (" ".toList ++ (decimal last ++ "\n".toList))))) true) := by
  have startBounds : 0 ≤ start ∧ start ≤ 255 := parseIntRange_bounds parsedStart
  have lastBounds : 0 ≤ last ∧ last ≤ 255 := parseIntRange_bounds parsedLast
  let line : CString := "ec-dump".toList ++ ' ' :: (decimal start ++ ' ' :: decimal last)
  have whole : firstLine ("ec-dump ".toList ++
      (decimal start ++ (" ".toList ++ (decimal last ++ "\n".toList)))) = line := by
    rw [firstLine_append (by decide), firstLine_append (decimal_isWord start).noNewline,
      firstLine_number (by decide)]
    rfl
  have tokens : commandTokens line = ["ec-dump".toList, decimal start, decimal last] := by
    rw [commandTokens_cons (word_of_all (by decide)), commandTokens_cons (decimal_isWord start),
      commandTokens_word (decimal_isWord last)]
  have read : parseEcDumpCommand line = some (start, last) :=
    parseEcDumpCommand_iff.mpr ⟨decimal start, decimal last, tokens, decimal_byte_length startBounds,
      decimal_byte_length lastBounds, (decimal_complete start).2,
      (decimal_complete last).2, startBounds.1, by omega, lastBounds.2, by omega⟩
  rw [whole, executeCommand_ecDump (commandFirstToken_of_tokens tokens (by decide)),
    handleEcDumpCommand, read, askedEc, if_neg (by decide), parsedStart, parsedLast]
  rfl

/-- The client sends a `long` whose `int` is a step; the daemon takes it when it is one itself. -/
theorem keyboardSet_fulfilled (text : CString) :
    (askedKeyboard "set".toList text).Fulfilled cfg daemon (executeCommand cfg daemon
      (firstLine ("keyboard-backlight set ".toList ++
        (decimal (strtol 10 text).value ++ "\n".toList))) true) := by
  have bounds := strtol_bounds 10 text
  rw [askedKeyboard, if_neg (by decide), if_pos rfl]
  dsimp only
  generalize (strtol 10 text).value = percent at bounds
  have word := decimal_isWord percent
  let line : CString := "keyboard-backlight".toList ++ ' ' :: ("set".toList ++ ' ' :: decimal percent)
  have whole : firstLine ("keyboard-backlight set ".toList ++ (decimal percent ++ "\n".toList)) =
      line := firstLine_number (by decide) percent
  have tokens : commandTokens line =
      ["keyboard-backlight".toList, "set".toList, decimal percent] := by
    rw [commandTokens_cons (word_of_all (by decide)), commandTokens_cons (word_of_all (by decide)),
      commandTokens_word word]
  have notStatus : parseKeyboardBacklightCommand line 16 = none := by
    rw [Option.eq_none_iff_forall_ne_some]
    intro action read
    have same := (commandParseAction_iff.mp read).1
    rw [tokens] at same
    simp at same
  have notTimeout : parseKeyboardBacklightTimeoutCommand line 16 = none := by
    rw [Option.eq_none_iff_forall_ne_some]
    intro value read
    have same := (commandParseSubAction_iff.mp read).1
    rw [tokens] at same
    simp at same
  have second : commandSecondToken line 16 = some "set".toList := by
    have parsed : commandParseSubAction line "keyboard-backlight".toList "set".toList
        ((decimal percent).length + 1) = some (decimal percent) :=
      commandParseSubAction_iff.mpr ⟨tokens, by decide, by decide, Nat.lt_succ_self _⟩
    exact commandSecondToken_of_parseSubAction parsed
  have reads (number : Int) : parseKeyboardBacklightSetCommand line = some number →
      number = percent := by
    intro read
    obtain ⟨text, same, -, complete, low, high⟩ := (acceptsNumbers.keyboardSet line number).mp read
    rw [tokens] at same
    cases same
    exact decimal_numeral_eq bounds ⟨by omega, by omega⟩ complete
  rw [whole, executeCommand_keyboard (commandFirstToken_of_tokens tokens (by decide)), notStatus,
    notTimeout, if_neg (by decide), handleKeyboardBacklightCommand, second]
  dsimp only
  rw [if_pos rfl, handleKeyboardBacklightSetCommand]
  by_cases listed : percent ∈ [(0 : Int), 25, 50, 75, 100]
  · have range : 0 ≤ percent ∧ percent ≤ 100 := by
      simp only [List.mem_cons, List.not_mem_nil, or_false] at listed
      omega
    have read : parseKeyboardBacklightSetCommand line = some percent :=
      (acceptsNumbers.keyboardSet line percent).mpr ⟨decimal percent, tokens,
        decimal_byte_length ⟨range.1, by omega⟩, (decimal_complete percent).2, range⟩
    rw [read, if_pos listed]
    dsimp only
    rw [List.contains_iff_mem.mpr listed, if_neg (by decide)]
    rfl
  · have isError : IsError keyboardBacklightSetUsage := by decide
    rw [if_neg listed]
    split
    · exact ⟨rfl, isError⟩
    · rename_i number read
      rw [reads number read, if_pos (by simpa using listed)]
      exact ⟨rfl, isError⟩

end Fulfilled

/-! ## The commands of the client -/

section Commands

variable {argv : List CString} {text : CString}

theorem findClientCommand_mem {commands : List (CString × ClientHandler)} {name : CString}
    {handler : ClientHandler} (found : findClientCommand commands name = some handler) :
    (name, handler) ∈ commands := by
  obtain ⟨command, listed, rfl⟩ := Option.map_eq_some_iff.mp found
  have same : command.1 = name := by simpa using List.find?_some listed
  exact same ▸ List.mem_of_find?_eq_some listed

theorem expectArgc_command {expected : Nat} {action : ClientAction}
    (sent : (clientExpectArgc argv expected action).command = some text) :
    action.command = some text := by
  unfold clientExpectArgc at sent
  split at sent
  · exact sent
  · cases sent

theorem sendf_command {line : CString} (sent : (ClientAction.sendf line).command = some text) :
    text = line := by
  rw [ClientAction.command] at sent
  split at sent
  · exact (Option.some.inj sent).symm
  · cases sent

/-- A group sends what the handler of its subcommand sends. -/
theorem group_command {commands : List (CString × ClientHandler)} {other : ClientAction}
    (silent : other.command = none)
    (sent : (clientHandleGroup commands other argv).command = some text) :
    ∃ handler, (argument argv 2, handler) ∈ commands ∧ (handler argv).command = some text := by
  unfold clientHandleGroup at sent
  split at sent
  · cases sent
  · split at sent
    · rename_i handler found
      exact ⟨handler, findClientCommand_mem found, sent⟩
    · rw [silent] at sent
      cases sent

theorem listed_command {name refusal : String} {values : List String}
    (sent : (clientHandleListed name values refusal argv).command = some text) :
    ∃ value ∈ values, argument argv 2 = value.toList ∧
      text = name.toList ++ (" ".toList ++ (value.toList ++ "\n".toList)) := by
  have sent := expectArgc_command sent
  split at sent
  · rename_i listed
    obtain ⟨value, member, same⟩ := List.mem_map.mp listed
    exact ⟨value, member, same.symm, by rw [sendf_command sent, same]⟩
  · cases sent

theorem listedValue_command {name refusal : String} {values : List String}
    (sent : (clientHandleListedValue name values refusal argv).command = some text) :
    ∃ value ∈ values, argument argv 3 = value.toList ∧
      text = name.toList ++ (" ".toList ++ (value.toList ++ "\n".toList)) := by
  have sent := expectArgc_command sent
  split at sent
  · rename_i listed
    obtain ⟨value, member, same⟩ := List.mem_map.mp listed
    exact ⟨value, member, same.symm, by rw [sendf_command sent, same]⟩
  · cases sent

theorem clientRun_command (sent : (clientRun argv).command = some text) :
    ∃ handler, (argument argv 1, handler) ∈ clientCommands ∧ (handler argv).command = some text := by
  unfold clientRun at sent
  split at sent
  · cases sent
  · split at sent
    · rename_i handler found
      exact ⟨handler, findClientCommand_mem found, sent⟩
    · cases sent

def LineServed (argv : List CString) (handler : ClientHandler) : Prop :=
  ∀ text, (handler argv).command = some text → ∀ cfg daemon,
    (askedBy argv).Fulfilled cfg daemon (executeCommand cfg daemon (firstLine text) true)

/-- A command that always sends the same line. -/
theorem serves_fixed {line : CString} {expected : Nat} {action : ClientAction}
    (sends : action.command = some line)
    (fulfilled : ∀ cfg daemon,
      (askedBy argv).Fulfilled cfg daemon (executeCommand cfg daemon (firstLine line) true)) :
    LineServed argv fun argv => clientExpectArgc argv expected action := by
  intro text sent
  have same := (expectArgc_command sent).symm.trans sends
  cases same
  exact fulfilled

theorem serves_coolboost (name : argument argv 1 = "coolboost".toList) :
    LineServed argv clientHandleCoolboostCommand := by
  intro text sent cfg daemon
  obtain ⟨handler, listed, sent⟩ := group_command rfl sent
  simp only [List.mem_cons, Prod.mk.injEq, List.not_mem_nil, or_false] at listed
  rw [askedBy, name]
  rcases listed with ⟨value, rfl⟩ | ⟨value, rfl⟩ | ⟨value, rfl⟩
  · rw [sendf_command (expectArgc_command sent), value]
    rfl
  · rw [sendf_command (expectArgc_command sent), value]
    rfl
  · cases expectArgc_command sent
    rw [value]
    rfl

theorem serves_fanMode (name : argument argv 1 = "fan-mode".toList) :
    LineServed argv clientHandleFanModeCommand := by
  intro text sent cfg daemon
  obtain ⟨value, listed, same, rfl⟩ := listed_command sent
  simp only [List.mem_cons, List.not_mem_nil, or_false] at listed
  rw [askedBy, name, same]
  rcases listed with rfl | rfl | rfl | rfl
  · rfl
  · rfl
  · rfl
  · rfl

theorem serves_gpuTemp (name : argument argv 1 = "gpu-temp".toList) :
    LineServed argv clientHandleGpuTempCommand := by
  intro text sent cfg daemon
  obtain ⟨value, listed, same, rfl⟩ := listed_command sent
  simp only [List.mem_cons, List.not_mem_nil, or_false] at listed
  rw [askedBy, name, same]
  rcases listed with rfl | rfl | rfl
  · rfl
  · rfl
  · rfl

theorem serves_profile (name : argument argv 1 = "profile".toList) :
    LineServed argv clientHandleProfileCommand := by
  intro text sent cfg daemon
  rw [sendf_command (expectArgc_command sent), askedBy, name]
  exact profile_fulfilled (argument argv 2)

theorem serves_powerSource (name : argument argv 1 = "power-source".toList) :
    LineServed argv clientHandlePowerSourceCommand := by
  intro text sent cfg daemon
  obtain ⟨handler, listed, sent⟩ := group_command rfl sent
  simp only [List.mem_cons, Prod.mk.injEq, List.not_mem_nil, or_false] at listed
  rw [askedBy, name]
  rcases listed with ⟨value, rfl⟩ | ⟨value, rfl⟩ | ⟨value, rfl⟩
  · cases expectArgc_command sent
    rw [value]
    rfl
  · cases expectArgc_command sent
    rw [value]
    rfl
  · obtain ⟨toggle, allowed, more, rfl⟩ := listedValue_command sent
    simp only [List.mem_cons, List.not_mem_nil, or_false] at allowed
    rw [value, more]
    rcases allowed with rfl | rfl
    · rfl
    · rfl

theorem serves_keyboard (name : argument argv 1 = "keyboard-backlight".toList) :
    LineServed argv clientHandleKeyboardBacklightCommand := by
  intro text sent cfg daemon
  obtain ⟨handler, listed, sent⟩ := group_command rfl sent
  simp only [List.mem_cons, Prod.mk.injEq, List.not_mem_nil, or_false] at listed
  rw [askedBy, name]
  rcases listed with ⟨value, rfl⟩ | ⟨value, rfl⟩ | ⟨value, rfl⟩
  · cases expectArgc_command sent
    rw [value]
    rfl
  · have sent := expectArgc_command sent
    dsimp only at sent
    split at sent
    · cases sent
    · rw [sendf_command sent, value]
      exact keyboardSet_fulfilled (argument argv 3)
  · obtain ⟨action, allowed, more, rfl⟩ := listedValue_command sent
    simp only [List.mem_cons, List.not_mem_nil, or_false] at allowed
    rw [value, more]
    rcases allowed with rfl | rfl | rfl
    · rfl
    · rfl
    · rfl

theorem serves_ec (name : argument argv 1 = "ec".toList) : LineServed argv clientHandleEcCommand := by
  intro text sent cfg daemon
  obtain ⟨handler, listed, sent⟩ := group_command rfl sent
  simp only [clientEcCommands, List.mem_cons, Prod.mk.injEq, List.not_mem_nil, or_false] at listed
  rw [askedBy, name]
  rcases listed with ⟨value, rfl⟩ | ⟨value, rfl⟩
  · have sent := expectArgc_command sent
    split at sent
    · cases sent
    · rename_i start parsed
      rw [sendf_command sent, value]
      exact ecRead_fulfilled parsed (argument argv 4)
  · have sent := expectArgc_command sent
    split at sent
    · rename_i start last parsedStart parsedLast
      split at sent
      · cases sent
      · rename_i range
        rw [sendf_command sent, value]
        exact ecDump_fulfilled parsedStart parsedLast range
    · cases sent

theorem serves_set (name : argument argv 1 = "set".toList) :
    LineServed argv clientHandleSetCommand := by
  intro text sent cfg daemon
  have sent := expectArgc_command sent
  split at sent
  · cases sent
  · rename_i percent parsed
    split at sent
    · rename_i listed
      rw [sendf_command sent, askedBy, name]
      exact set_fulfilled listed parsed
    · cases sent

theorem serves_preset (name : argument argv 1 = "preset".toList) :
    LineServed argv clientHandlePresetCommand := by
  intro text sent cfg daemon
  have sent := expectArgc_command sent
  rw [askedBy, name]
  split at sent
  · rename_i handler found
    have listed := findClientCommand_mem found
    simp only [List.mem_cons, Prod.mk.injEq, List.not_mem_nil, or_false] at listed
    obtain ⟨value, rfl⟩ := listed
    cases expectArgc_command sent
    rw [value]
    rfl
  · rename_i unknown
    have other : argument argv 2 ≠ "show".toList := by
      intro same
      rw [same] at unknown
      cases unknown
    have asked : askedNamed "preset".toList (argument argv 2) (argument argv 3) (argument argv 4) =
        (oneWord (argument argv 2)).elim .nothing askedPreset :=
      if_neg other
    rw [sendf_command sent, asked]
    exact preset_fulfilled (argument argv 2)

/-- `status` sends its line in two of its three forms. -/
theorem status_command (sent : (clientHandleStatusCommand argv).command = some text) :
    text = "status\n".toList := by
  unfold clientHandleStatusCommand at sent
  split at sent
  · cases sent
  · split at sent
    · split at sent
      · cases sent
      · rw [ClientAction.command] at sent
        split at sent
        · cases sent
        · exact (Option.some.inj sent).symm
    · exact (Option.some.inj sent).symm

theorem serves_status (name : argument argv 1 = "status".toList) :
    LineServed argv clientHandleStatusCommand := by
  intro text sent cfg daemon
  rw [status_command sent, askedBy, name]
  rfl

/-- Every command of the client sends what it was asked for. -/
theorem clientCommands_serve {handler : ClientHandler}
    (listed : (argument argv 1, handler) ∈ clientCommands) : LineServed argv handler := by
  simp only [clientCommands, List.mem_cons, Prod.mk.injEq, List.not_mem_nil, or_false] at listed
  rcases listed with ⟨name, rfl⟩ | ⟨name, rfl⟩ | ⟨name, rfl⟩ | ⟨name, rfl⟩ | ⟨name, rfl⟩ |
    ⟨name, rfl⟩ | ⟨name, rfl⟩ | ⟨name, rfl⟩ | ⟨name, rfl⟩ | ⟨name, rfl⟩ | ⟨name, rfl⟩ |
    ⟨name, rfl⟩ | ⟨name, rfl⟩ | ⟨name, rfl⟩ | ⟨name, rfl⟩ | ⟨name, rfl⟩ | ⟨name, rfl⟩ |
    ⟨name, rfl⟩ | ⟨name, rfl⟩ | ⟨name, rfl⟩
  · exact fun text sent => nomatch expectArgc_command sent
  · exact fun text sent => nomatch expectArgc_command sent
  · exact serves_fixed rfl fun cfg daemon => by rw [askedBy, name]; rfl
  · exact serves_status name
  · exact serves_fixed rfl fun cfg daemon => by rw [askedBy, name]; rfl
  · exact serves_fixed rfl fun cfg daemon => by rw [askedBy, name]; rfl
  · exact serves_fixed rfl fun cfg daemon => by rw [askedBy, name]; rfl
  · exact serves_fixed rfl fun cfg daemon => by rw [askedBy, name]; rfl
  · exact serves_fixed rfl fun cfg daemon => by rw [askedBy, name]; rfl
  · exact fun text sent => nomatch expectArgc_command sent
  · exact fun text sent => nomatch expectArgc_command sent
  · exact serves_coolboost name
  · exact serves_fanMode name
  · exact serves_profile name
  · exact serves_gpuTemp name
  · exact serves_powerSource name
  · exact serves_keyboard name
  · exact serves_ec name
  · exact serves_set name
  · exact serves_preset name

end Commands

/--
What a user asks of the daemon on the command line is what the daemon does with
the line the client sends, for all arguments: the numbers are printed and parsed
again, a name is taken as a whole or not at all, and nothing behind a line break
in an argument is executed.
-/
theorem client_line_fulfilled {argv : List CString} {text : CString}
    (sent : (clientRun argv).command = some text) (cfg : AnsConfig) (daemon : Daemon) :
    (askedBy argv).Fulfilled cfg daemon (executeCommand cfg daemon (firstLine text) true) := by
  obtain ⟨handler, listed, sent⟩ := clientRun_command sent
  exact clientCommands_serve listed text sent cfg daemon

/-- A preset name with a further command behind a line break: the preset is all that is asked for,
and all that is done. -/
theorem client_line_fulfilled_two_lines :
    (askedBy ["acer-nitro-sense".toList, "preset".toList, " cool\nstop".toList]).Fulfilled
      AcerNitroAn517.config (heldDaemon true "auto".toList)
      (executeCommand AcerNitroAn517.config (heldDaemon true "auto".toList)
        (firstLine "preset  cool\nstop\n".toList) true) :=
  client_line_fulfilled (by rfl) _ _

end NitroSense
