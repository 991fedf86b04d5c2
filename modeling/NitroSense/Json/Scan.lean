import NitroSense.Json
import NitroSense.Lib.Nesting

/-!
# Arrays and objects in a JSON text

The list readers of `util/json_scan.c`.  They count brackets over the raw text,
so brackets inside strings count like the others.  A slice the source keeps as
two pointers is here the text between them.
-/

namespace NitroSense

open Lib

/-- `json_find_array`: the text inside the brackets. -/
def jsonFindArray (json key : CString) : Option CString :=
  match jsonValue json key with
  | some ('[' :: p) => (untilClosed '[' ']' 1 p).map Prod.fst
  | _ => none

/-- The scan of `json_next_object` until it sets `start`: the text behind the opening brace. -/
def objectStart : (depth : Int) → CString → Option CString
  | _, [] => none
  | depth, c :: rest =>
      if c = '\x7b' then if depth = 0 then some rest else objectStart (depth + 1) rest
      else if c = '\x7d' then objectStart (depth - 1) rest
      else objectStart depth rest

/-- `json_next_object`: the first object of the slice, and the slice behind it. -/
def jsonNextObject (p : CString) : Option (CString × CString) :=
  (objectStart 0 p).bind fun behind =>
    (untilClosed '\x7b' '\x7d' 1 behind).map fun cut =>
      ('\x7b' :: (cut.1 ++ ['\x7d']), cut.2)

/-- `json_copy_slice` into a buffer of positive size. -/
def jsonCopySlice (outLen : Nat) (slice : CString) : CString := slice.take (outLen - 1)

/-- The loops over an array: its first objects, each as its buffer holds it. -/
def jsonObjects (bufLen : Nat) : (limit : Nat) → CString → List CString
  | 0, _ => []
  | limit + 1, p =>
      match jsonNextObject p with
      | none => []
      | some (object, rest) => jsonCopySlice bufLen object :: jsonObjects bufLen limit rest

theorem jsonObjects_length_le (bufLen limit : Nat) (p : CString) :
    (jsonObjects bufLen limit p).length ≤ limit := by
  induction limit generalizing p with
  | zero => exact le_refl 0
  | succ limit ih =>
      rw [jsonObjects]
      split
      · exact Nat.zero_le _
      · rename_i object rest _
        exact Nat.succ_le_succ (ih rest)

end NitroSense
