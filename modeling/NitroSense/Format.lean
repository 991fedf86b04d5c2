import NitroSense.Json
import NitroSense.Lib.Storage

/-!
# Text buffers over their storage

`util/format.c` appends formatted text to the storage of its caller.  The
buffer of the status and state texts is what can be read in that storage, so
the two buffers append alike.
-/

namespace NitroSense

open Lib

def nul : Char := Char.ofNat 0

/-- `text_buffer` of `util/format.h`, with the bytes of its caller's storage. -/
structure TextStorage where
  data : Nat → Char
  len : Nat
  cap : Nat
  truncated : Bool

def textBufferInit (data : Nat → Char) (cap : Nat) : TextStorage where
  data := if cap > 0 then store data 0 [nul] else data
  len := 0
  cap := cap
  truncated := false

/-- The bytes `vsnprintf` leaves at an offset of a storage with `size` bytes of room. -/
def vsnprintf (data : Nat → Char) (off size : Nat) (text : CString) : Nat → Char :=
  if size = 0 then data else store data off (snprintf size text ++ [nul])

/-- `text_buffer_append` of a formatted text, or of none when the conversion fails. -/
def textBufferAppend (buf : TextStorage) (formatted : Option CString) : TextStorage × Int :=
  if buf.len ≥ buf.cap then ({ buf with truncated := true }, -1)
  else
    match formatted with
    -- what a failed conversion leaves in the storage is not followed
    | none => ({ buf with truncated := true }, -1)
    | some text =>
        let data := vsnprintf buf.data buf.len (buf.cap - buf.len) text
        if text.length ≥ buf.cap - buf.len then
          ({ buf with data := data, len := buf.cap - 1, truncated := true }, -1)
        else ({ buf with data := data, len := buf.len + text.length }, 0)

def textBufferOk (buf : TextStorage) : Bool := !buf.truncated

def appendTexts (buf : TextStorage) (texts : List CString) : TextStorage :=
  texts.foldl (fun buf text => (textBufferAppend buf (some text)).1) buf

def TextStorage.view (buf : TextStorage) : TextBuffer :=
  ⟨buf.cap, load buf.data 0 buf.len, buf.truncated⟩

/-! ## One append -/

section Append

variable {buf : TextStorage} {text : CString}

/-- The terminated text that one append stores behind the others. -/
theorem textBufferAppend_cases (buf : TextStorage) (text : CString) :
    buf.cap ≤ buf.len ∧
        textBufferAppend buf (some text) = ({ buf with truncated := true }, -1) ∨
      buf.len < buf.cap ∧ ∃ stored, stored = text.take (buf.cap - buf.len - 1) ∧
        (textBufferAppend buf (some text)).1 =
          ⟨store buf.data buf.len (stored ++ [nul]), buf.len + stored.length, buf.cap,
            buf.truncated || decide (buf.cap ≤ buf.len + text.length)⟩ ∧
        (textBufferAppend buf (some text)).2 =
          if buf.cap ≤ buf.len + text.length then -1 else 0 := by
  by_cases full : buf.cap ≤ buf.len
  · refine Or.inl ⟨full, ?_⟩
    rw [textBufferAppend, if_pos full]
  · refine Or.inr ⟨Nat.lt_of_not_le full, _, rfl, ?_⟩
    have room : ¬ buf.cap - buf.len = 0 := by omega
    have fits : text.length ≥ buf.cap - buf.len ↔ buf.cap ≤ buf.len + text.length := by omega
    rw [textBufferAppend, if_neg full]
    dsimp only
    rw [vsnprintf, if_neg room, snprintf]
    by_cases long : buf.cap ≤ buf.len + text.length
    · rw [if_pos (fits.mpr long), if_pos long, decide_eq_true long, Bool.or_true,
        List.length_take, Nat.min_eq_left (by omega)]
      have last : buf.cap - 1 = buf.len + (buf.cap - buf.len - 1) := by omega
      rw [← last]
      exact ⟨rfl, rfl⟩
    · rw [if_neg fun long' => long (fits.mp long'), if_neg long, decide_eq_false long, Bool.or_false,
        List.length_take, Nat.min_eq_right (by omega)]
      exact ⟨rfl, rfl⟩

/-- An append to a text buffer with room, whether the text fits or not. -/
theorem TextBuffer.append_of_room {out : TextBuffer} (room : out.text.length < out.cap)
    (text : CString) :
    out.append text =
      ⟨out.cap, out.text ++ text.take (out.cap - out.text.length - 1),
        out.truncated || decide (out.cap ≤ out.text.length + text.length)⟩ := by
  have fits : text.length ≥ out.cap - out.text.length ↔
      out.cap ≤ out.text.length + text.length := by omega
  rw [append, if_neg (Nat.not_le_of_lt room)]
  by_cases long : out.cap ≤ out.text.length + text.length
  · have cut : (out.text ++ text).take (out.cap - 1) =
        out.text ++ text.take (out.cap - out.text.length - 1) := by
      rw [List.take_append, List.take_of_length_le (by omega), Nat.sub_right_comm]
    rw [if_pos (fits.mpr long), cut, decide_eq_true long, Bool.or_true]
  · rw [if_neg fun long' => long (fits.mp long'), List.take_of_length_le (by omega),
      decide_eq_false long, Bool.or_false]

/-- What can be read grows as the text buffer of the daemon's texts does. -/
theorem textBufferAppend_view (buf : TextStorage) (text : CString) :
    (textBufferAppend buf (some text)).1.view = buf.view.append text := by
  have length : buf.view.text.length = buf.len := load_length _ _ _
  rcases textBufferAppend_cases buf text with ⟨full, same⟩ | ⟨room, stored, rfl, same, -⟩
  · have viewFull : buf.view.text.length ≥ buf.view.cap := length ▸ full
    rw [same, TextBuffer.append, if_pos viewFull]
    rfl
  · have content (stored : CString) :
        load (store buf.data buf.len (stored ++ [nul])) 0 (buf.len + stored.length) =
          load buf.data 0 buf.len ++ stored := by
      rw [load_add, load_store_before _ _ (Nat.le_of_eq (Nat.zero_add _)), Nat.zero_add,
        load_store_append]
    rw [same, TextBuffer.append_of_room (length ▸ room), length, TextStorage.view, content]
    rfl

/-- An append succeeds where the text fits behind the others. -/
theorem textBufferAppend_result (buf : TextStorage) (text : CString) :
    (textBufferAppend buf (some text)).2 = if buf.view.Fits text then 0 else -1 := by
  have length : buf.view.text.length = buf.len := load_length _ _ _
  have fits : buf.view.Fits text ↔ buf.len + text.length < buf.cap := by
    rw [TextBuffer.Fits, length]
    exact Iff.rfl
  rcases textBufferAppend_cases buf text with ⟨full, same⟩ | ⟨room, stored, -, -, result⟩
  · rw [same, if_neg fun enough => absurd (fits.mp enough) (by omega)]
  · rw [result]
    by_cases long : buf.cap ≤ buf.len + text.length
    · rw [if_pos long, if_neg fun enough => absurd (fits.mp enough) (Nat.not_lt_of_le long)]
    · rw [if_neg long, if_pos (fits.mpr (Nat.lt_of_not_le long))]

/-- A failed append leaves the buffer truncated. -/
theorem textBufferAppend_failed (failed : (textBufferAppend buf (some text)).2 = -1) :
    textBufferOk (textBufferAppend buf (some text)).1 = false := by
  rcases textBufferAppend_cases buf text with ⟨-, same⟩ | ⟨-, stored, -, same, result⟩
  · rw [same]
    rfl
  · have long : buf.cap ≤ buf.len + text.length := by
      by_contra fits
      rw [result, if_neg fits] at failed
      cases failed
    rw [same, textBufferOk, decide_eq_true long, Bool.or_true]
    rfl

theorem textBufferAppend_cap (buf : TextStorage) (text : CString) :
    (textBufferAppend buf (some text)).1.cap = buf.cap := by
  rcases textBufferAppend_cases buf text with ⟨-, same⟩ | ⟨-, stored, -, same, -⟩
  · rw [same]
  · rw [same]

/-- The bytes of the storage: a terminated text inside its capacity, and nothing beyond. -/
structure TextStorage.Terminated (data : Nat → Char) (buf : TextStorage) : Prop where
  room : buf.len < buf.cap
  terminator : buf.data buf.len = nul
  outside : ∀ index, buf.cap ≤ index → buf.data index = data index

theorem textBufferInit_terminated {cap : Nat} (positive : 1 ≤ cap) (data : Nat → Char) :
    (textBufferInit data cap).Terminated data := by
  have stored : (textBufferInit data cap).data = store data 0 [nul] := if_pos positive
  refine ⟨positive, ?_, fun index beyond => ?_⟩
  · rw [stored]
    exact store_last data 0 [] nul
  · rw [stored]
    exact store_outside (Or.inr (le_trans positive beyond))

/-- An append to a storage with room leaves it terminated, and nothing changes beyond. -/
theorem textBufferAppend_terminates (room : buf.len < buf.cap) (text : CString) :
    (textBufferAppend buf (some text)).1.Terminated buf.data := by
  rcases textBufferAppend_cases buf text with ⟨full, -⟩ | ⟨-, stored, cut, same, -⟩
  · exact absurd room (Nat.not_lt_of_le full)
  · have short : stored.length ≤ buf.cap - buf.len - 1 := cut ▸ List.length_take_le _ _
    rw [same]
    refine ⟨?_, store_last buf.data buf.len stored nul, fun index beyond => ?_⟩
    · change buf.len + stored.length < buf.cap
      omega
    · have last : buf.cap ≤ index := beyond
      refine store_outside (Or.inr ?_)
      rw [List.length_append, List.length_singleton]
      omega

theorem textBufferAppend_terminated {data : Nat → Char} (terminated : buf.Terminated data)
    (text : CString) : (textBufferAppend buf (some text)).1.Terminated data := by
  obtain ⟨room, terminator, outside⟩ := textBufferAppend_terminates terminated.room text
  refine ⟨room, terminator, fun index beyond => (outside index beyond).trans ?_⟩
  rw [textBufferAppend_cap] at beyond
  exact terminated.outside index beyond

/-- A full storage keeps its bytes. -/
theorem textBufferAppend_full {data : Nat → Char} (terminated : buf.Terminated data)
    (full : buf.len + 1 = buf.cap) (text : CString) :
    (textBufferAppend buf (some text)).1.data = buf.data ∧
      (textBufferAppend buf (some text)).1.len = buf.len := by
  obtain ⟨room, terminator, outside⟩ := terminated
  rcases textBufferAppend_cases buf text with ⟨beyond, -⟩ | ⟨-, stored, cut, same, -⟩
  · exact absurd room (Nat.not_lt_of_le beyond)
  · have none : stored = [] := by
      rw [cut, ← full, Nat.add_sub_cancel_left, Nat.sub_self, List.take_zero]
    rw [same, none]
    refine ⟨?_, rfl⟩
    change Function.update buf.data buf.len nul = buf.data
    rw [← terminator, Function.update_eq_self]

end Append

/-! ## Many appends -/

/-- The buffer holds a text, or as much of its beginning as fits. -/
structure TextBuffer.HoldsPrefix (out : TextBuffer) (whole : CString) : Prop where
  text : out.text = whole.take (out.cap - 1)
  truncated : out.truncated = true ↔ out.cap ≤ whole.length

theorem TextBuffer.HoldsPrefix.append {out : TextBuffer} {whole : CString}
    (holds : out.HoldsPrefix whole) (positive : 1 ≤ out.cap) (text : CString) :
    (out.append text).HoldsPrefix (whole ++ text) := by
  have length : out.text.length = min (out.cap - 1) whole.length := by
    rw [holds.text, List.length_take]
  rw [append_of_room (by omega)]
  refine ⟨?_, ?_⟩
  · dsimp only
    have left : out.cap - out.text.length - 1 = out.cap - 1 - whole.length := by omega
    rw [List.take_append, ← holds.text, left]
  · rw [Bool.or_eq_true, decide_eq_true_eq, holds.truncated, List.length_append]
    dsimp only
    omega

/-- A storage of this capacity to which a text has been appended. -/
structure TextStorage.Grown (data : Nat → Char) (cap : Nat) (buf : TextStorage)
    (whole : CString) : Prop where
  cap : buf.cap = cap
  terminated : buf.Terminated data
  view : buf.view.HoldsPrefix whole

section Texts

variable {data : Nat → Char} {cap : Nat} {buf : TextStorage} {whole : CString}

theorem textBufferInit_grown (positive : 1 ≤ cap) (data : Nat → Char) :
    (textBufferInit data cap).Grown data cap [] where
  cap := rfl
  terminated := textBufferInit_terminated positive data
  view := ⟨List.take_nil.symm, nofun, fun long => absurd positive (Nat.not_le_of_lt
    (Nat.lt_succ_of_le long))⟩

theorem TextStorage.Grown.append (grown : buf.Grown data cap whole) (text : CString) :
    (textBufferAppend buf (some text)).1.Grown data cap (whole ++ text) where
  cap := (textBufferAppend_cap buf text).trans grown.cap
  terminated := textBufferAppend_terminated grown.terminated text
  view := by
    rw [textBufferAppend_view]
    exact grown.view.append (Nat.zero_lt_of_lt grown.terminated.room) text

theorem TextStorage.Grown.appends (grown : buf.Grown data cap whole) (texts : List CString) :
    (appendTexts buf texts).Grown data cap (whole ++ texts.flatten) := by
  induction texts generalizing buf whole with
  | nil =>
      rw [List.flatten_nil, List.append_nil]
      exact grown
  | cons text texts ih =>
      rw [List.flatten_cons, ← List.append_assoc]
      exact ih (grown.append text)

/-- The text is complete where the whole fits in front of the terminating byte. -/
theorem TextStorage.Grown.ok_iff (grown : buf.Grown data cap whole) :
    textBufferOk buf = true ↔ whole.length ≤ cap - 1 := by
  have truncated : buf.truncated = true ↔ buf.cap ≤ whole.length := grown.view.truncated
  have room := grown.terminated.room
  rw [grown.cap] at truncated room
  rw [textBufferOk, Bool.not_eq_true', ← Bool.not_eq_true, truncated]
  omega

theorem TextStorage.Grown.len_eq (grown : buf.Grown data cap whole) :
    buf.len = (whole.take (cap - 1)).length := by
  have content : load buf.data 0 buf.len = whole.take (buf.cap - 1) := grown.view.text
  rw [← grown.cap, ← content, load_length]

/-- Behind a truncation nothing changes any more. -/
theorem TextStorage.Grown.truncated (grown : buf.Grown data cap whole) (long : cap ≤ whole.length)
    (texts : List CString) :
    (appendTexts buf texts).data = buf.data ∧ (appendTexts buf texts).len = buf.len := by
  induction texts generalizing buf whole with
  | nil => exact ⟨rfl, rfl⟩
  | cons text texts ih =>
      have room := grown.terminated.room
      have full : buf.len + 1 = buf.cap := by
        have len := grown.len_eq
        rw [List.length_take] at len
        have same := grown.cap
        omega
      obtain ⟨sameData, sameLen⟩ := textBufferAppend_full grown.terminated full text
      have longer : cap ≤ (whole ++ text).length := by
        rw [List.length_append]
        omega
      obtain ⟨laterData, laterLen⟩ := ih (grown.append text) longer
      exact ⟨laterData.trans sameData, laterLen.trans sameLen⟩

end Texts

/-- What the storage holds after appends: the beginning of the whole text, and its end mark. -/
structure TextStorage.HoldsPrefix (data : Nat → Char) (cap : Nat) (buf : TextStorage)
    (whole : CString) : Prop where
  content : load buf.data 0 buf.len = whole.take (cap - 1)
  len : buf.len = (whole.take (cap - 1)).length
  terminator : buf.data buf.len = nul
  outside : ∀ index, cap ≤ index → buf.data index = data index
  ok : textBufferOk buf = true ↔ whole.length ≤ cap - 1

theorem TextStorage.Grown.holdsPrefix {data : Nat → Char} {cap : Nat} {buf : TextStorage}
    {whole : CString} (grown : buf.Grown data cap whole) : buf.HoldsPrefix data cap whole where
  content := by
    have content : load buf.data 0 buf.len = whole.take (buf.cap - 1) := grown.view.text
    rw [content, grown.cap]
  len := grown.len_eq
  terminator := grown.terminated.terminator
  outside := grown.cap ▸ grown.terminated.outside
  ok := grown.ok_iff

/--
After any appends to a fresh buffer the storage holds the terminated beginning
of the whole text that fits, and the buffer is ok where all of it does; what is
appended behind a truncation changes nothing.
-/
theorem appendTexts_holds {cap : Nat} (positive : 1 ≤ cap) (data : Nat → Char)
    (texts : List CString) :
    (appendTexts (textBufferInit data cap) texts).HoldsPrefix data cap texts.flatten ∧
      (textBufferOk (appendTexts (textBufferInit data cap) texts) = false →
        ∀ more,
          (appendTexts (textBufferInit data cap) (texts ++ more)).data =
              (appendTexts (textBufferInit data cap) texts).data ∧
            (appendTexts (textBufferInit data cap) (texts ++ more)).len =
              (appendTexts (textBufferInit data cap) texts).len) := by
  have grown := (textBufferInit_grown positive data).appends texts
  rw [List.nil_append] at grown
  refine ⟨grown.holdsPrefix, fun truncated more => ?_⟩
  have long : cap ≤ texts.flatten.length := by
    have complete := grown.ok_iff
    rw [truncated] at complete
    have cut : ¬ texts.flatten.length ≤ cap - 1 := fun fits => nomatch complete.mpr fits
    omega
  have split : appendTexts (textBufferInit data cap) (texts ++ more) =
      appendTexts (appendTexts (textBufferInit data cap) texts) more := List.foldl_append
  rw [split]
  exact grown.truncated long more

/-- Three appends to a storage of eight bytes. -/
theorem appendTexts_holds_eight :
    (appendTexts (textBufferInit (fun _ => 'x') 8) ["fan ".toList, "speed ".toList, [],
        "50".toList]).HoldsPrefix (fun _ => 'x') 8
      ["fan ".toList, "speed ".toList, [], "50".toList].flatten :=
  (appendTexts_holds (by decide) (fun _ => 'x')
    ["fan ".toList, "speed ".toList, [], "50".toList]).1

end NitroSense
