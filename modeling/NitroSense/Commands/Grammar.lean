import Mathlib.Data.Bool.AllAny
import NitroSense.Commands.Numeral
import NitroSense.Commands.Parser
import NitroSense.Lib.Tokens

/-!
# What the command parsers accept

A parser moves a cursor over the line, token by token, and gives up at the first
one that is missing, too long for its buffer or not the expected keyword.  By
its tokens a line is accepted exactly when they are the expected ones, so the
blanks between them do not count.
-/

namespace NitroSense

open Lib

/-- The tokens of a command line: its maximal runs of characters other than blanks. -/
def commandTokens (cmd : CString) : List CString := tokens isBlank cmd

section Cursor

variable {cursor token expected : CString} {outLen : Nat}

/-- Reading a token takes the first one, if there is one and it fits. -/
theorem commandReadToken_cases (cursor : CString) (outLen : Nat) :
    commandTokens cursor = [] ∧ commandReadToken cursor outLen = none ∨
      ∃ token rest, commandTokens cursor = token :: commandTokens rest ∧
        commandReadToken cursor outLen =
          if token.length < outLen then some (token, rest) else none := by
  unfold commandReadToken commandSkipSpace commandTokens
  dsimp only
  rcases @tokens_scan _ isBlank cursor with ⟨nothing, none⟩ | ⟨nonempty, first⟩
  · exact Or.inl ⟨none, if_pos (Or.inl nothing)⟩
  · refine Or.inr ⟨_, _, first, ?_⟩
    by_cases fits : ((cursor.dropWhile isBlank).takeWhile fun c => !isBlank c).length < outLen
    · rw [if_pos fits, if_neg (by simp [nonempty, fits])]
    · rw [if_neg fits, if_pos (Or.inr (not_lt.mp fits))]

/-- Reading a token and going on succeeds on a first token that fits. -/
theorem readToken_bind_iff {β : Type} {next : CString × CString → Option β} {result : β}
    (accepts : CString → List CString → Prop)
    (goesOn : ∀ token rest, next (token, rest) = some result ↔ accepts token (commandTokens rest)) :
    (commandReadToken cursor outLen).bind next = some result ↔
      ∃ token others, commandTokens cursor = token :: others ∧ token.length < outLen ∧
        accepts token others := by
  rcases commandReadToken_cases cursor outLen with ⟨none, read⟩ | ⟨token, rest, first, read⟩
  · rw [read, none]
    simp
  · rw [read, first]
    by_cases fits : token.length < outLen
    · rw [if_pos fits, Option.bind_some, goesOn]
      constructor
      · exact fun accepted => ⟨token, _, rfl, fits, accepted⟩
      · rintro ⟨other, others, same, -, accepted⟩
        cases same
        exact accepted
    · rw [if_neg fits]
      constructor
      · intro none
        cases none
      · rintro ⟨other, others, same, short, -⟩
        cases same
        exact absurd short fits

theorem commandHasOnlyTrailingSpace_iff (p : CString) :
    commandHasOnlyTrailingSpace p = true ↔ commandTokens p = [] := by
  rw [commandTokens, tokens_eq_nil_iff, commandHasOnlyTrailingSpace, List.isEmpty_iff]
  rfl

theorem commandLastToken_iff :
    commandLastToken cursor outLen = some token ↔
      commandTokens cursor = [token] ∧ token.length < outLen := by
  unfold commandLastToken
  have last (first rest : CString) :
      (if commandHasOnlyTrailingSpace rest then some first else none) = some token ↔
        first = token ∧ commandTokens rest = [] := by
    rw [← commandHasOnlyTrailingSpace_iff]
    split
    · rename_i only
      simp [only]
    · rename_i more
      simp [more]
  refine (readToken_bind_iff (fun first others => first = token ∧ others = []) last).trans ?_
  constructor
  · rintro ⟨first, others, all, fits, rfl, rfl⟩
    exact ⟨all, fits⟩
  · rintro ⟨all, fits⟩
    exact ⟨token, [], all, fits, rfl, rfl⟩

/-- The last token and what is made of it. -/
theorem lastToken_bind_iff {β : Type} {next : CString → Option β} {result : β} :
    (commandLastToken cursor outLen).bind next = some result ↔
      ∃ last, commandTokens cursor = [last] ∧ last.length < outLen ∧ next last = some result := by
  rw [Option.bind_eq_some_iff]
  exact exists_congr fun last => by rw [commandLastToken_iff, and_assoc]

/-- An expected token and what comes behind it. -/
theorem expectToken_bind_iff {β : Type} {next : CString → Option β} {result : β}
    (accepts : List CString → Prop)
    (goesOn : ∀ rest, next rest = some result ↔ accepts (commandTokens rest)) :
    (commandExpectToken cursor outLen expected).bind next = some result ↔
      ∃ others, commandTokens cursor = expected :: others ∧ expected.length < outLen ∧
        accepts others := by
  have keyword (first rest : CString) :
      (if first = expected then some rest else none).bind next = some result ↔
        first = expected ∧ accepts (commandTokens rest) := by
    split
    · rename_i same
      rw [Option.bind_some, goesOn]
      simp [same]
    · rename_i other
      simp [other]
  unfold commandExpectToken
  rw [Option.bind_assoc]
  refine (readToken_bind_iff (fun first others => first = expected ∧ accepts others) keyword).trans ?_
  constructor
  · rintro ⟨first, others, all, fits, rfl, accepted⟩
    exact ⟨others, all, fits, accepted⟩
  · rintro ⟨others, all, fits, accepted⟩
    exact ⟨expected, others, all, fits, rfl, accepted⟩

end Cursor

/-! ## The shapes of commands -/

section Shapes

variable {cmd name action value fan : CString} {outLen : Nat}

theorem commandIsExact_iff :
    commandIsExact cmd name = true ↔ commandTokens cmd = [name] ∧ name.length < 32 := by
  have exact' := @expectToken_bind_iff cmd name 32 _
    (fun rest => if commandHasOnlyTrailingSpace rest then some () else none) () (· = [])
    fun rest => by
      rw [← commandHasOnlyTrailingSpace_iff]
      split
      · rename_i last
        simp [last]
      · rename_i more
        simp [more]
  have any : commandIsExact cmd name = true ↔
      ((commandExpectToken cmd 32 name).bind fun rest =>
        if commandHasOnlyTrailingSpace rest then some () else none) = some () := by
    unfold commandIsExact
    cases commandExpectToken cmd 32 name with
    | none => simp
    | some rest => simp
  rw [any, exact']
  constructor
  · rintro ⟨others, all, fits, rfl⟩
    exact ⟨all, fits⟩
  · rintro ⟨all, fits⟩
    exact ⟨[], all, fits, rfl⟩

/-- A keyword and one token. -/
theorem commandParseAction_iff :
    commandParseAction cmd name outLen = some action ↔
      commandTokens cmd = [name, action] ∧ name.length < 32 ∧ action.length < outLen := by
  refine (expectToken_bind_iff (fun others => others = [action] ∧ action.length < outLen)
    fun rest => commandLastToken_iff).trans ?_
  constructor
  · rintro ⟨others, all, fits, rfl, short⟩
    exact ⟨all, fits, short⟩
  · rintro ⟨all, fits, short⟩
    exact ⟨[action], all, fits, rfl, short⟩

/-- Two keywords and one token. -/
theorem commandParseSubAction_iff :
    commandParseSubAction cmd name action outLen = some value ↔
      commandTokens cmd = [name, action, value] ∧ name.length < 32 ∧ action.length < 16 ∧
        value.length < outLen := by
  refine (expectToken_bind_iff
    (fun others => ∃ last, others = action :: last ∧ action.length < 16 ∧
      last = [value] ∧ value.length < outLen)
    fun rest => expectToken_bind_iff (fun last => last = [value] ∧ value.length < outLen)
      fun rest => commandLastToken_iff).trans ?_
  constructor
  · rintro ⟨_, all, fits, others, rfl, short, rfl, last⟩
    exact ⟨all, fits, short, last⟩
  · rintro ⟨all, fits, short, last⟩
    exact ⟨[action, value], all, fits, [value], rfl, short, rfl, last⟩

theorem commandParseIntToken_iff {text : CString} {minValue maxValue number : Int}
    (low : 0 ≤ minValue) (high : maxValue ≤ 255) :
    commandParseIntToken text minValue maxValue = some number ↔
      CompleteNumeral 0 text number ∧ minValue ≤ number ∧ number ≤ maxValue :=
  parseIntRange_iff (Or.inr rfl) (by omega) (by omega)

theorem commandParseRegister_iff {text : CString} {number : Int} :
    commandParseIntToken text 0 255 = some number ↔
      CompleteNumeral 0 text number ∧ 0 ≤ number ∧ number ≤ 255 :=
  commandParseIntToken_iff (by decide) (by decide)

/-- A keyword and a numeral of base 0. -/
theorem commandParseIntAction_iff {minValue maxValue number : Int} (low : 0 ≤ minValue)
    (high : maxValue ≤ 255) :
    commandParseIntAction cmd name minValue maxValue = some number ↔
      ∃ text, commandTokens cmd = [name, text] ∧ name.length < 32 ∧ text.length < 16 ∧
        CompleteNumeral 0 text number ∧ minValue ≤ number ∧ number ≤ maxValue := by
  refine Option.bind_eq_some_iff.trans (exists_congr fun text => ?_)
  rw [commandParseAction_iff, commandParseIntToken_iff low high, and_assoc, and_assoc]

/-- Two keywords and a numeral of base 0. -/
theorem commandParseIntSubAction_iff {minValue maxValue number : Int} (low : 0 ≤ minValue)
    (high : maxValue ≤ 255) :
    commandParseIntSubAction cmd name action minValue maxValue = some number ↔
      ∃ text, commandTokens cmd = [name, action, text] ∧ name.length < 32 ∧ action.length < 16 ∧
        text.length < 16 ∧ CompleteNumeral 0 text number ∧ minValue ≤ number ∧
          number ≤ maxValue := by
  refine Option.bind_eq_some_iff.trans (exists_congr fun text => ?_)
  rw [commandParseSubAction_iff, commandParseIntToken_iff low high, and_assoc, and_assoc, and_assoc]

/-- `set`, a fan and a decimal percent. -/
theorem parseSetCommand_iff {percent : Int} :
    parseSetCommand cmd outLen = some (fan, percent) ↔
      ∃ text, commandTokens cmd = ["set".toList, fan, text] ∧ fan.length < outLen ∧
        text.length < 16 ∧ CompleteNumeral 10 text percent ∧ 1 ≤ percent ∧ percent ≤ 100 := by
  have number (token text : CString) :
      (commandParsePercentToken text).map (fun percent => (token, percent)) = some (fan, percent) ↔
        token = fan ∧ CompleteNumeral 10 text percent ∧ 1 ≤ percent ∧ percent ≤ 100 := by
    rw [← parseIntRange_iff (Or.inl rfl) (by decide) (by decide), Option.map_eq_some_iff]
    constructor
    · rintro ⟨value, parsed, same⟩
      cases same
      exact ⟨rfl, parsed⟩
    · rintro ⟨rfl, parsed⟩
      exact ⟨percent, parsed, rfl⟩
  refine (expectToken_bind_iff
    (fun others => ∃ token last, others = token :: last ∧ token.length < outLen ∧
      ∃ text, last = [text] ∧ text.length < 16 ∧ token = fan ∧ CompleteNumeral 10 text percent ∧
        1 ≤ percent ∧ percent ≤ 100)
    fun rest => readToken_bind_iff
      (fun token last => ∃ text, last = [text] ∧ text.length < 16 ∧ token = fan ∧
        CompleteNumeral 10 text percent ∧ 1 ≤ percent ∧ percent ≤ 100)
      fun token rest => lastToken_bind_iff.trans (exists_congr fun text => by rw [number])).trans ?_
  constructor
  · rintro ⟨_, all, -, _, _, rfl, fits, text, rfl, short, rfl, accepted⟩
    exact ⟨text, all, fits, short, accepted⟩
  · rintro ⟨text, all, fits, short, accepted⟩
    exact ⟨_, all, by decide, fan, [text], rfl, fits, text, rfl, short, rfl, accepted⟩

/-- `ec-dump` and two registers at most 127 apart. -/
theorem parseEcDumpCommand_iff {start last : Int} :
    parseEcDumpCommand cmd = some (start, last) ↔
      ∃ startText lastText, commandTokens cmd = ["ec-dump".toList, startText, lastText] ∧
        startText.length < 16 ∧ lastText.length < 16 ∧ CompleteNumeral 0 startText start ∧
          CompleteNumeral 0 lastText last ∧ 0 ≤ start ∧ start ≤ last ∧ last ≤ 255 ∧
            last - start ≤ 127 := by
  have range (startText lastText : CString) :
      ((commandParseIntToken startText 0 255).bind fun start =>
        (commandParseIntToken lastText 0 255).bind fun last =>
          if start ≤ last ∧ last - start ≤ 127 then some (start, last) else none) =
        some (start, last) ↔
      CompleteNumeral 0 startText start ∧ CompleteNumeral 0 lastText last ∧ 0 ≤ start ∧
        start ≤ last ∧ last ≤ 255 ∧ last - start ≤ 127 := by
    rw [Option.bind_eq_some_iff]
    constructor
    · rintro ⟨first, parsedFirst, parsed⟩
      obtain ⟨second, parsedSecond, same⟩ := Option.bind_eq_some_iff.mp parsed
      split at same
      · rename_i inside
        cases same
        obtain ⟨readFirst, low, -⟩ := commandParseRegister_iff.mp parsedFirst
        obtain ⟨readSecond, -, high⟩ := commandParseRegister_iff.mp parsedSecond
        exact ⟨readFirst, readSecond, low, inside.1, high, inside.2⟩
      · cases same
    · rintro ⟨readFirst, readSecond, low, order, high, near⟩
      refine ⟨start, commandParseRegister_iff.mpr ⟨readFirst, low, by omega⟩,
        Option.bind_eq_some_iff.mpr ⟨last, ?_, if_pos ⟨order, near⟩⟩⟩
      exact commandParseRegister_iff.mpr ⟨readSecond, by omega, high⟩
  refine (expectToken_bind_iff
    (fun others => ∃ startText rest, others = startText :: rest ∧ startText.length < 16 ∧
      ∃ lastText, rest = [lastText] ∧ lastText.length < 16 ∧
        CompleteNumeral 0 startText start ∧ CompleteNumeral 0 lastText last ∧ 0 ≤ start ∧
          start ≤ last ∧ last ≤ 255 ∧ last - start ≤ 127)
    fun rest => readToken_bind_iff
      (fun startText rest => ∃ lastText, rest = [lastText] ∧ lastText.length < 16 ∧
        CompleteNumeral 0 startText start ∧ CompleteNumeral 0 lastText last ∧ 0 ≤ start ∧
          start ≤ last ∧ last ≤ 255 ∧ last - start ≤ 127)
      fun startText rest => lastToken_bind_iff.trans
        (exists_congr fun lastText => by rw [range])).trans ?_
  constructor
  · rintro ⟨_, all, -, startText, _, rfl, fits, lastText, rfl, short, accepted⟩
    exact ⟨startText, lastText, all, fits, short, accepted⟩
  · rintro ⟨startText, lastText, all, fits, short, accepted⟩
    exact ⟨_, all, by decide, startText, _, rfl, fits, lastText, rfl, short, accepted⟩

end Shapes

/-! ## The grammar -/

/-- The parsers of a keyword and one token. -/
def actionParsers : List (CString × (CString → Nat → Option CString)) :=
  [("preset".toList, parsePresetCommand), ("coolboost".toList, parseCoolboostCommand),
    ("fan-mode".toList, parseFanModeCommand), ("profile".toList, parseProfileCommand),
    ("power-source".toList, parsePowerSourceCommand), ("gpu-temp".toList, parseGpuTempCommand),
    ("keyboard-backlight".toList, parseKeyboardBacklightCommand)]

/-- The parsers of two keywords and one token. -/
def subActionParsers : List ((CString × CString) × (CString → Nat → Option CString)) :=
  [(("power-source".toList, "auto".toList), parsePowerSourceAutoCommand),
    (("keyboard-backlight".toList, "timeout".toList), parseKeyboardBacklightTimeoutCommand)]

theorem actionParsers_eq {parser : CString × (CString → Nat → Option CString)}
    (listed : parser ∈ actionParsers) :
    parser.2 = (fun cmd => commandParseAction cmd parser.1) ∧ parser.1.length < 32 := by
  unfold actionParsers at listed
  simp only [List.mem_cons, List.not_mem_nil, or_false] at listed
  rcases listed with rfl | rfl | rfl | rfl | rfl | rfl | rfl <;> exact ⟨rfl, by decide⟩

theorem subActionParsers_eq {parser : (CString × CString) × (CString → Nat → Option CString)}
    (listed : parser ∈ subActionParsers) :
    parser.2 = (fun cmd => commandParseSubAction cmd parser.1.1 parser.1.2) ∧
      parser.1.1.length < 32 ∧ parser.1.2.length < 16 := by
  unfold subActionParsers at listed
  simp only [List.mem_cons, List.not_mem_nil, or_false] at listed
  rcases listed with rfl | rfl <;> exact ⟨rfl, by decide, by decide⟩

/--
The parsers accept exactly these tokens and return what they denote; `dumpFits`
is what `ec-dump` asks of its two texts besides.
-/
structure AcceptsGrammar (dumpFits : CString → Prop) : Prop where
  set : ∀ cmd fanLen fan percent, parseSetCommand cmd fanLen = some (fan, percent) ↔
    ∃ text, commandTokens cmd = ["set".toList, fan, text] ∧ fan.length < fanLen ∧
      text.length < 16 ∧ CompleteNumeral 10 text percent ∧ 1 ≤ percent ∧ percent ≤ 100
  action : ∀ parser ∈ actionParsers, ∀ cmd actionLen action,
    parser.2 cmd actionLen = some action ↔
      commandTokens cmd = [parser.1, action] ∧ action.length < actionLen
  subAction : ∀ parser ∈ subActionParsers, ∀ cmd valueLen value,
    parser.2 cmd valueLen = some value ↔
      commandTokens cmd = [parser.1.1, parser.1.2, value] ∧ value.length < valueLen
  dump : ∀ cmd start last, parseEcDumpCommand cmd = some (start, last) ↔
    ∃ startText lastText, commandTokens cmd = ["ec-dump".toList, startText, lastText] ∧
      dumpFits startText ∧ dumpFits lastText ∧ CompleteNumeral 0 startText start ∧
        CompleteNumeral 0 lastText last ∧ 0 ≤ start ∧ start ≤ last ∧ last ≤ 255 ∧
          last - start ≤ 127
  blanks : ∀ cmd other, commandTokens cmd = commandTokens other →
    (∀ fanLen, parseSetCommand cmd fanLen = parseSetCommand other fanLen) ∧
    (∀ parser ∈ actionParsers, ∀ len, parser.2 cmd len = parser.2 other len) ∧
    (∀ parser ∈ subActionParsers, ∀ len, parser.2 cmd len = parser.2 other len) ∧
    parseEcDumpCommand cmd = parseEcDumpCommand other

/-- The parsers of one numeral accept their keywords and a numeral of base 0 that fits 16 bytes. -/
structure AcceptsNumbers : Prop where
  ecRead : ∀ cmd reg, parseEcReadCommand cmd = some reg ↔
    ∃ text, commandTokens cmd = ["ec-read".toList, text] ∧ text.length < 16 ∧
      CompleteNumeral 0 text reg ∧ 0 ≤ reg ∧ reg ≤ 255
  keyboardSet : ∀ cmd percent, parseKeyboardBacklightSetCommand cmd = some percent ↔
    ∃ text, commandTokens cmd = ["keyboard-backlight".toList, "set".toList, text] ∧
      text.length < 16 ∧ CompleteNumeral 0 text percent ∧ 0 ≤ percent ∧ percent ≤ 100

theorem acceptsNumbers : AcceptsNumbers where
  ecRead cmd reg := by
    refine (commandParseIntAction_iff (by decide) (by decide)).trans (exists_congr fun text => ?_)
    exact ⟨fun ⟨all, _, rest⟩ => ⟨all, rest⟩, fun ⟨all, rest⟩ => ⟨all, by decide, rest⟩⟩
  keyboardSet cmd percent := by
    refine (commandParseIntSubAction_iff (by decide) (by decide)).trans
      (exists_congr fun text => ?_)
    exact ⟨fun ⟨all, _, _, rest⟩ => ⟨all, rest⟩,
      fun ⟨all, rest⟩ => ⟨all, by decide, by decide, rest⟩⟩

theorem actionParser_iff {parser : CString × (CString → Nat → Option CString)}
    (listed : parser ∈ actionParsers) {cmd action : CString} {actionLen : Nat} :
    parser.2 cmd actionLen = some action ↔
      commandTokens cmd = [parser.1, action] ∧ action.length < actionLen := by
  obtain ⟨same, short⟩ := actionParsers_eq listed
  rw [same, commandParseAction_iff]
  exact and_congr_right fun _ => and_iff_right short

theorem subActionParser_iff {parser : (CString × CString) × (CString → Nat → Option CString)}
    (listed : parser ∈ subActionParsers) {cmd value : CString} {valueLen : Nat} :
    parser.2 cmd valueLen = some value ↔
      commandTokens cmd = [parser.1.1, parser.1.2, value] ∧ value.length < valueLen := by
  obtain ⟨same, short, shortAction⟩ := subActionParsers_eq listed
  rw [same, commandParseSubAction_iff]
  exact and_congr_right fun _ => (and_iff_right short).trans (and_iff_right shortAction)

/-- The parsers accept exactly their grammar, in which every text fits its buffer. -/
theorem acceptsGrammar :
    AcceptsGrammar (fun text => text.length < 16) ∧ AcceptsNumbers where
  left :=
    { set := fun _ _ _ _ => parseSetCommand_iff
      action := fun _ listed _ _ _ => actionParser_iff listed
      subAction := fun _ listed _ _ _ => subActionParser_iff listed
      dump := fun _ _ _ => parseEcDumpCommand_iff
      blanks := by
        intro cmd other same
        refine ⟨fun fanLen => ?_, fun parser listed len => ?_, fun parser listed len => ?_, ?_⟩
        · apply Option.ext
          rintro ⟨fan, percent⟩
          rw [parseSetCommand_iff, parseSetCommand_iff, same]
        · apply Option.ext
          intro action
          rw [actionParser_iff listed, actionParser_iff listed, same]
        · apply Option.ext
          intro value
          rw [subActionParser_iff listed, subActionParser_iff listed, same]
        · apply Option.ext
          rintro ⟨start, last⟩
          rw [parseEcDumpCommand_iff, parseEcDumpCommand_iff, same] }
  right := acceptsNumbers

/-- The register `0000000000000000` is a numeral of base 0, and it does not fit 16 bytes. -/
theorem acceptsGrammar_fails : ¬ AcceptsGrammar fun _ => True := by
  intro claim
  let zeros := "0000000000000000".toList
  have accepted := (claim.dump "ec-dump 0000000000000000 1".toList 0 1).mpr
    ⟨zeros, "1".toList, by decide, trivial, trivial,
      @CompleteNumeral.unsigned 0 [] zeros 0 (by simp)
        (.octal (List.all_iff_forall_prop.mp (by decide))),
      @CompleteNumeral.unsigned 0 [] "1".toList 1 (by simp)
        (.plain (by decide) (List.all_iff_forall_prop.mp (by decide))),
      by decide⟩
  exact absurd accepted (by decide)

end NitroSense
