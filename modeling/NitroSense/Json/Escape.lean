import NitroSense.Format
import NitroSense.Lib.JsonText

/-!
# Escaped strings

`json_append_string` of `util/json.c` appends piece by piece: a quote, the
escape of every byte, a quote.  The escapes denote the bytes they stand for,
whatever string they are put together to.
-/

namespace NitroSense

open Lib

/-! ## The spelling of a string -/

/-- What stands between the quotes. -/
def jsonEscaped (value : CString) : CString := value.flatMap jsonEscape

/-- The last two digits of `%04x` for a control byte. -/
theorem hexByte_control :
    ∀ n < 32, hexByte (n : Nat) = [Nat.digitChar (n / 16), Nat.digitChar (n % 16)] ∧
      isHexDigit (Nat.digitChar (n / 16)) = true ∧ isHexDigit (Nat.digitChar (n % 16)) = true ∧
        utf8Bytes (codeUnit '0' '0' (Nat.digitChar (n / 16)) (Nat.digitChar (n % 16))) =
          [Char.ofNat n] ∧
        codeUnit '0' '0' (Nat.digitChar (n / 16)) (Nat.digitChar (n % 16)) < 0xD800 := by
  decide

/-- The forms of an escape: a plain byte, a backslash and a letter, or a code unit. -/
theorem jsonEscape_forms (c : Char) :
    (isPlain c = true ∧ jsonEscape c = [c]) ∨
      (∃ letter, jsonEscape c = ['\\', letter] ∧ letter ≠ 'u' ∧ escapedChar letter = c ∧
        "\"\\/bfnrt".toList.contains letter = true) ∨
      ∃ high low, jsonEscape c = ['\\', 'u', '0', '0', high, low] ∧ isHexDigit high = true ∧
        isHexDigit low = true ∧ utf8Bytes (codeUnit '0' '0' high low) = [c] ∧
          codeUnit '0' '0' high low < 0xD800 := by
  have code (n : Nat) (same : c.toNat = n) : Char.ofNat n = c := by
    rw [← same, Char.ofNat_toNat]
  by_cases quote : c = '"'
  · subst quote
    exact Or.inr (Or.inl ⟨'"', rfl, by decide, rfl, by decide⟩)
  by_cases backslash : c = '\\'
  · subst backslash
    exact Or.inr (Or.inl ⟨'\\', rfl, by decide, rfl, by decide⟩)
  unfold jsonEscape
  rw [if_neg quote, if_neg backslash]
  by_cases backspace : c.toNat = 8
  · rw [if_pos backspace]
    exact Or.inr (Or.inl ⟨'b', rfl, by decide, code 8 backspace, by decide⟩)
  by_cases feed : c.toNat = 12
  · rw [if_neg backspace, if_pos feed]
    exact Or.inr (Or.inl ⟨'f', rfl, by decide, code 12 feed, by decide⟩)
  rw [if_neg backspace, if_neg feed]
  by_cases newline : c = '\n'
  · rw [if_pos newline]
    exact Or.inr (Or.inl ⟨'n', rfl, by decide, newline ▸ rfl, by decide⟩)
  by_cases carriage : c = '\r'
  · rw [if_neg newline, if_pos carriage]
    exact Or.inr (Or.inl ⟨'r', rfl, by decide, carriage ▸ rfl, by decide⟩)
  by_cases tab : c = '\t'
  · rw [if_neg newline, if_neg carriage, if_pos tab]
    exact Or.inr (Or.inl ⟨'t', rfl, by decide, tab ▸ rfl, by decide⟩)
  rw [if_neg newline, if_neg carriage, if_neg tab]
  by_cases control : c.toNat < 32
  · obtain ⟨digits, high, low, bytes, small⟩ := hexByte_control c.toNat control
    rw [if_pos control, digits]
    rw [Char.ofNat_toNat] at bytes
    exact Or.inr (Or.inr ⟨_, _, rfl, high, low, bytes, small⟩)
  · rw [if_neg control]
    refine Or.inl ⟨?_, rfl⟩
    simp [isPlain, quote, backslash, Nat.le_of_not_lt control]

/-- The escape of a byte is spelled correctly, in front of anything. -/
theorem isStringBody_jsonEscape (c : Char) (rest : CString) :
    isStringBody (jsonEscape c ++ rest) = isStringBody rest := by
  rcases jsonEscape_forms c with ⟨plain, same⟩ | ⟨letter, same, notUnit, -, known⟩ |
    ⟨high, low, same, hexHigh, hexLow, -, -⟩
  · simp only [isPlain, Bool.and_eq_true, decide_eq_true_eq] at plain
    obtain ⟨⟨noQuote, noEscape⟩, printable⟩ := plain
    rw [same, List.singleton_append, isStringBody_cons noEscape]
    simp [noQuote, noEscape, printable]
  · have escape : isStringBody ('\\' :: letter :: rest) =
        ("\"\\/bfnrt".toList.contains letter && isStringBody rest) := by
      rw [isStringBody]
      exact fun _ _ _ _ _ unit => absurd unit notUnit
    rw [same]
    change isStringBody ('\\' :: letter :: rest) = _
    rw [escape, known, Bool.true_and]
  · rw [same]
    change isStringBody ('\\' :: 'u' :: '0' :: '0' :: high :: low :: rest) = _
    rw [isStringBody, hexHigh, hexLow]
    rfl

/-- The escape of a byte denotes it. -/
theorem stringValue_jsonEscape (c : Char) (rest : CString) :
    stringValue none (jsonEscape c ++ rest) = c :: stringValue none rest := by
  rcases jsonEscape_forms c with ⟨plain, same⟩ | ⟨letter, same, notUnit, denotes, -⟩ |
    ⟨high, low, same, -, -, bytes, small⟩
  · simp only [isPlain, Bool.and_eq_true, decide_eq_true_eq] at plain
    rw [same, List.singleton_append, stringValue_cons plain.1.2]
  · have escape : stringValue none ('\\' :: letter :: rest) =
        escapedChar letter :: stringValue none rest := by
      rw [stringValue]
      · rfl
      · exact fun _ _ _ _ _ unit => absurd unit notUnit
    rw [same]
    change stringValue none ('\\' :: letter :: rest) = _
    rw [escape, denotes]
  · rw [same]
    change stringValue none ('\\' :: 'u' :: '0' :: '0' :: high :: low :: rest) = _
    rw [stringValue]
    rw [if_neg fun surrogate => absurd small (Nat.not_lt_of_le surrogate.1), bytes]
    rfl

theorem isStringBody_jsonEscaped (value : CString) : isStringBody (jsonEscaped value) = true := by
  induction value with
  | nil => rfl
  | cons c value ih =>
      rw [jsonEscaped, List.flatMap_cons, isStringBody_jsonEscape]
      exact ih

/-- Unescaping gives the string back. -/
theorem stringValue_jsonEscaped (value : CString) :
    stringValue none (jsonEscaped value) = value := by
  induction value with
  | nil => rfl
  | cons c value ih =>
      rw [jsonEscaped, List.flatMap_cons, stringValue_jsonEscape]
      exact congrArg (c :: ·) ih

/-! ## Appending it -/

/-- Appends that end with the first one that fails. -/
def appendAllOrFail (buf : TextStorage) : List CString → TextStorage × Int
  | [] => (buf, 0)
  | text :: texts =>
      let appended := textBufferAppend buf (some text)
      if appended.2 < 0 then (appended.1, -1) else appendAllOrFail appended.1 texts

/-- `json_append_string`: a missing string counts as an empty one. -/
def jsonAppendString (buf : TextStorage) (value : Option CString) : TextStorage × Int :=
  appendAllOrFail buf (['"'] :: ((value.getD []).map jsonEscape ++ [['"']]))

section Append

variable {buf : TextStorage} {texts : List CString}

theorem appendAllOrFail_cons (buf : TextStorage) (text : CString) (texts : List CString) :
    appendAllOrFail buf (text :: texts) =
      if buf.view.Fits text then appendAllOrFail (textBufferAppend buf (some text)).1 texts
      else ((textBufferAppend buf (some text)).1, -1) := by
  rw [appendAllOrFail, textBufferAppend_result]
  by_cases fits : buf.view.Fits text
  · rw [if_pos fits, if_pos fits, if_neg (by decide)]
  · rw [if_neg fits, if_neg fits, if_pos (by decide)]

/-- What can be read grows as the daemon's text buffer does. -/
theorem appendAllOrFail_view (buf : TextStorage) (texts : List CString) :
    (appendAllOrFail buf texts).1.view = buf.view.appendWhile texts := by
  induction texts generalizing buf with
  | nil => rfl
  | cons text texts ih =>
      rw [appendAllOrFail_cons, TextBuffer.appendWhile]
      by_cases fits : buf.view.Fits text
      · rw [if_pos fits, if_pos fits, ih, textBufferAppend_view]
      · rw [if_neg fits, if_neg fits, textBufferAppend_view]

theorem jsonAppendString_view (buf : TextStorage) (value : CString) :
    (jsonAppendString buf (some value)).1.view = buf.view.appendJson value :=
  appendAllOrFail_view buf _

/-- The room behind a text that fits. -/
theorem TextBuffer.fits_append {out : TextBuffer} {text : CString} (fits : out.Fits text)
    (more : CString) : (out.append text).Fits more ↔ out.Fits (text ++ more) := by
  rw [append_of_fits fits, Fits, Fits, List.length_append, List.length_append, Nat.add_assoc]

/-- Texts that fit together are all appended. -/
theorem appendAllOrFail_fits (fits : buf.view.Fits texts.flatten) :
    (appendAllOrFail buf texts).2 = 0 := by
  induction texts generalizing buf with
  | nil => rfl
  | cons text texts ih =>
      rw [List.flatten_cons] at fits
      have first : buf.view.Fits text := by
        rw [TextBuffer.Fits, List.length_append] at fits
        exact lt_of_le_of_lt (Nat.add_le_add_left (Nat.le_add_right _ _) _) fits
      rw [appendAllOrFail_cons, if_pos first]
      refine ih ?_
      rw [textBufferAppend_view]
      exact (TextBuffer.fits_append first _).mpr fits

/-- Texts that do not fit together fail, and leave the buffer truncated. -/
theorem appendAllOrFail_fails (nonempty : texts ≠ []) (full : ¬ buf.view.Fits texts.flatten) :
    (appendAllOrFail buf texts).2 = -1 ∧ textBufferOk (appendAllOrFail buf texts).1 = false := by
  induction texts generalizing buf with
  | nil => exact absurd rfl nonempty
  | cons text texts ih =>
      rw [List.flatten_cons] at full
      rw [appendAllOrFail_cons]
      by_cases first : buf.view.Fits text
      · rw [if_pos first]
        have more : ¬ (textBufferAppend buf (some text)).1.view.Fits texts.flatten := by
          rw [textBufferAppend_view, TextBuffer.fits_append first]
          exact full
        refine ih ?_ more
        rintro rfl
        rw [List.flatten_nil, List.append_nil] at full
        exact full first
      · rw [if_neg first]
        refine ⟨rfl, ?_⟩
        have result := textBufferAppend_result buf text
        rw [if_neg first] at result
        exact textBufferAppend_failed result

/-- An append to a storage keeps the rest of it and ends in the terminating byte. -/
theorem appendAllOrFail_terminated {data : Nat → Char} (terminated : buf.Terminated data)
    (texts : List CString) : (appendAllOrFail buf texts).1.Terminated data := by
  induction texts generalizing buf with
  | nil => exact terminated
  | cons text texts ih =>
      have next := textBufferAppend_terminated terminated text
      rw [appendAllOrFail_cons]
      split
      · exact ih next
      · exact next

end Append

/-- What a successful append of a text leaves in the storage. -/
structure AppendedText (buf : TextStorage) (text : CString) (after : TextStorage) : Prop where
  cap : after.cap = buf.cap
  content : load after.data 0 after.len = load buf.data 0 buf.len ++ text
  terminated : after.Terminated buf.data
  ok : textBufferOk after = textBufferOk buf

/-- Texts that fit together are in the storage, behind what it held. -/
theorem appendAllOrFail_appended {buf : TextStorage} {text : CString} {texts : List CString}
    (fits : buf.view.Fits (text :: texts).flatten) :
    AppendedText buf (text :: texts).flatten (appendAllOrFail buf (text :: texts)).1 := by
  have view := appendAllOrFail_view buf (text :: texts)
  rw [TextBuffer.appendWhile_of_fits fits] at view
  have room : buf.len < buf.cap := by
    have length : buf.view.text.length = buf.len := load_length _ _ _
    rw [TextBuffer.Fits, length] at fits
    exact lt_of_le_of_lt (Nat.le_add_right _ _) fits
  refine ⟨congrArg TextBuffer.cap view, congrArg TextBuffer.text view, ?_, ?_⟩
  · rw [appendAllOrFail_cons]
    have first := textBufferAppend_terminates room text
    split
    · exact appendAllOrFail_terminated first texts
    · exact first
  · exact congrArg (! ·) (congrArg TextBuffer.truncated view)

/-- The pieces of a string are its token in quotes. -/
theorem jsonPieces_flatten (value : CString) :
    (['"'] :: (value.map jsonEscape ++ [['"']])).flatten = '"' :: (jsonEscaped value ++ ['"']) := by
  rw [jsonEscaped, List.flatMap_def]
  simp

/-- A string is appended as a JSON string that denotes it, or the append fails. -/
theorem jsonAppendString_lossless (buf : TextStorage) (value : CString) :
    ∃ token : StringToken, token.value = value ∧
      (buf.len + (Json.quotedToken token).length < buf.cap →
        (jsonAppendString buf (some value)).2 = 0 ∧
          AppendedText buf (Json.quotedToken token) (jsonAppendString buf (some value)).1) ∧
      (buf.cap ≤ buf.len + (Json.quotedToken token).length →
        (jsonAppendString buf (some value)).2 = -1 ∧
          textBufferOk (jsonAppendString buf (some value)).1 = false) := by
  refine ⟨⟨jsonEscaped value, isStringBody_jsonEscaped value⟩, stringValue_jsonEscaped value, ?_⟩
  have length : buf.view.text.length = buf.len := load_length _ _ _
  have whole : Json.quotedToken ⟨jsonEscaped value, isStringBody_jsonEscaped value⟩ =
      (['"'] :: (value.map jsonEscape ++ [['"']])).flatten := (jsonPieces_flatten value).symm
  have fits : buf.view.Fits (['"'] :: (value.map jsonEscape ++ [['"']])).flatten ↔
      buf.len + (['"'] :: (value.map jsonEscape ++ [['"']])).flatten.length < buf.cap := by
    rw [TextBuffer.Fits, length]
    exact Iff.rfl
  rw [whole]
  refine ⟨fun room => ?_, fun full => ?_⟩
  · exact ⟨appendAllOrFail_fits (fits.mpr room), appendAllOrFail_appended (fits.mpr room)⟩
  · exact appendAllOrFail_fails (List.cons_ne_nil _ _)
      fun room => absurd (fits.mp room) (Nat.not_lt_of_le full)

/-- Control bytes are spelled by name or by number. -/
example : jsonEscaped "a\"\n\x01".toList = "a\\\"\\n\\u0001".toList := by decide

end NitroSense
