import NitroSense.Client.Transport
import NitroSense.Config.Load

/-!
# The status commands of the client

`client/status.c` and `client_print_status_file`: the reply of the daemon is
printed token by token, and without a reply the status file has to do.
-/

namespace NitroSense

open Lib

/-- What a command of the client returns once it has, what it prints, and its own messages. -/
structure ClientPrint where
  result : Option Int
  stdout : CString := []
  stderr : CString := []
  deriving DecidableEq, Repr

/-! ## The status file -/

/-- `client_print_status_file`; `none` is a file that cannot be read. -/
def clientPrintStatusFile (statusFile : Option (List Char)) : ClientPrint :=
  match statusFile with
  | none => { result := some 1 }
  | some bytes => { result := some 0, stdout := readTextFile (64 * 1024) bytes }

/-- What `client_print_coolboost_status` reads from the status file. -/
def coolboostFromFile (bytes : List Char) : CString :=
  let status := readTextFile (64 * 1024) bytes
  let enabled := findSub "\"coolboost\": true".toList status
  let available := findSub "\"coolboost_available\": true".toList status
  if available = none then "coolboost=unavailable\n".toList
  else
    ["coolboost=".toList, if enabled = none then "off".toList else "on".toList, "\n".toList].flatten

def clientPrintCoolboostStatus (exchange : Exchange) (statusFile : Option (List Char)) :
    ClientPrint :=
  let call := clientSendCommandCapture "coolboost status\n".toList 256 exchange
  match call.result with
  | none => { result := none }
  | some 0 => { result := some 0, stdout := call.out }
  | some _ =>
      match statusFile with
      | none => { result := some 1 }
      | some bytes => { result := some 0, stdout := coolboostFromFile bytes }

/-! ## The reply for a human reader -/

inductive TempUnit where
  | celsius
  | fahrenheit
  deriving DecidableEq, Repr

/-- `convert_temp`: the product is an `int`, and wraps as one. -/
def convertTemp (celsius : Int) (unit : TempUnit) : Int :=
  if unit = .fahrenheit then ((celsius * 9).bmod (2 ^ 32)).tdiv 5 + 32 else celsius

def unitSuffix (unit : TempUnit) : CString :=
  if unit = .fahrenheit then "F".toList else "C".toList

def printStatusToken (token : CString) (unit : TempUnit) : CString :=
  if "temp=".toList <+: token then
    let temp := strtol 10 (token.drop 5)
    if temp.inRange = false ∨ temp.converted = false ∨ temp.rest ≠ [] then token
    else if temp.value < 0 then "temp=--".toList
    else "temp=".toList ++ (decimal (convertTemp (temp.value.bmod (2 ^ 32)) unit) ++ unitSuffix unit)
  else token

/-- `print_status_token_span`: a token is copied into 128 bytes. -/
def printStatusTokenSpan (span : CString) (unit : TempUnit) : CString :=
  printStatusToken (span.take (128 - 1)) unit

/-- What stands between the tokens of a line. -/
def isGap (c : Char) : Bool := c == ' ' || c == '\t'

theorem dropWhile_token_length {token : CString} (more : token ≠ []) :
    ((token.dropWhile (!isGap ·)).dropWhile isGap).length < token.length := by
  obtain ⟨c, rest, rfl⟩ := List.exists_cons_of_ne_nil more
  cases gap : isGap c with
  | true =>
      rw [List.dropWhile_cons_of_neg (by simp [gap]), List.dropWhile_cons_of_pos gap]
      exact Nat.lt_succ_of_le (List.dropWhile_suffix _).length_le
  | false =>
      rw [List.dropWhile_cons_of_pos (by simp [gap])]
      exact Nat.lt_succ_of_le
        ((List.dropWhile_suffix _).length_le.trans (List.dropWhile_suffix _).length_le)

/-- The loop of `print_status_human` over the tokens of a line. -/
def printStatusTokens (unit : TempUnit) (first : Bool) (token : CString) : CString :=
  if _more : token ≠ [] then
    (if first then [] else " ".toList) ++
      (printStatusTokenSpan (token.takeWhile (!isGap ·)) unit ++
        printStatusTokens unit false ((token.dropWhile (!isGap ·)).dropWhile isGap))
  else []
termination_by token.length
decreasing_by exact dropWhile_token_length _more

def printStatusHuman (unit : TempUnit) (line : CString) : CString :=
  if _more : line ≠ [] then
    printStatusTokens unit true (line.takeWhile (· != '\n')) ++
      '\n' :: printStatusHuman unit ((line.dropWhile (· != '\n')).drop 1)
  else []
termination_by line.length
decreasing_by
  have behind := (List.dropWhile_suffix (l := line) (· != '\n')).length_le
  have some := List.length_pos_iff.mpr _more
  rw [List.length_drop]
  omega

def clientPrintStatus (unit : TempUnit) (json : Bool) (exchange : Exchange)
    (statusFile : Option (List Char)) : ClientPrint :=
  if json then clientPrintStatusFile statusFile
  else
    let call := clientSendCommandCapture "status\n".toList 4096 exchange
    match call.result with
    | none => { result := none }
    | some 0 => { result := some 0, stdout := printStatusHuman unit call.out }
    | some _ => clientPrintStatusFile statusFile

end NitroSense
