import NitroSense.Lib.Search
import NitroSense.Lib.Tokens
import NitroSense.Text

/-!
# Groups of a process

`control/socket.c` looks for a group among those of a client's process, in the
`Groups` line of its status file.  The scan of the line leans on `strtol`, which
skips newlines like other white space: it stays on its line because the kernel
starts the next one with a letter.
-/

namespace NitroSense

open Lib

def groupsScan (group : UInt32) : CString → Bool
  | [] => false
  | c :: rest =>
      if c = '\n' then false
      else
        let value := strtol 10 (c :: rest)
        if value.converted = false then groupsScan group rest
        else if UInt32.ofInt value.value = group then true
        else groupsScan group value.rest
termination_by text => text.length
decreasing_by
  · exact Nat.lt_succ_self _
  · rename_i more _
    exact strtol_rest_lt (Bool.not_eq_false _ ▸ more)

/-- `groups_line_has_group`: a `gid_t` has 32 bits. -/
def groupsLineHasGroup (line : CString) (group : UInt32) : Bool :=
  match line.dropWhile (· ≠ ':') with
  | [] => false
  | _ :: gids => groupsScan group gids

/-- The line that `pid_has_group` finds in a status text. -/
def groupsLine (status : CString) : Option CString :=
  match findSub "\nGroups:".toList status with
  | some line => some line
  | none => if "Groups:".toList.isPrefixOf status then some status else none

/-- `pid_has_group`, on the status file if it can be read. -/
def pidHasGroup (status : Option CString) (group : UInt32) : Bool :=
  match status.bind fun text => groupsLine (text.take (64 * 1024)) with
  | none => false
  | some line => groupsLineHasGroup line group

/-! ## Status texts -/

/-- A line of a status text besides its `Groups` line. -/
structure OtherLine (line : CString) : Prop where
  oneLine : '\n' ∉ line
  letter : line.head?.any Char.isAlpha = true
  other : ¬ "Groups:".toList <+: line

def numbers (text : CString) : List Nat :=
  (tokens isSpace text).map fun digits => Nat.ofDigitChars 10 digits 0

structure GidList (text : CString) : Prop where
  oneLine : '\n' ∉ text
  digits : ∀ token ∈ tokens isSpace text, ∀ c ∈ token, c.isDigit = true
  small : ∀ gid ∈ numbers text, gid < 2 ^ 32

/-- A status text of the kernel, cut at its one `Groups` line; it may end without a newline. -/
structure StatusText where
  before : List CString
  gids : CString
  after : List CString
  newline : Bool
  others : ∀ line ∈ before ++ after, OtherLine line
  gidList : GidList gids

def StatusText.rest (status : StatusText) : CString :=
  marked '\n' status.after ++ if status.newline then ['\n'] else []

def StatusText.text (status : StatusText) : CString :=
  status.before.flatMap (· ++ ['\n']) ++ ("Groups:".toList ++ (status.gids ++ status.rest))

/-! ## The scan -/

section Scan

variable {group : UInt32} {spaces digits rest : CString}

theorem groupsScan_cons {c : Char} (same : c ≠ '\n') (rest : CString) :
    groupsScan group (c :: rest) =
      if (strtol 10 (c :: rest)).converted = false then groupsScan group rest
      else if UInt32.ofInt (strtol 10 (c :: rest)).value = group then true
      else groupsScan group (strtol 10 (c :: rest)).rest := by
  rw [groupsScan, if_neg same]

/-- Behind the last number the scan goes from blank to blank. -/
theorem groupsScan_spaces (skipped : ∀ c ∈ spaces, isSpace c = true) (oneLine : '\n' ∉ spaces)
    (ends : (strtol 10 rest).converted = false) :
    groupsScan group (spaces ++ rest) = groupsScan group rest := by
  induction spaces with
  | nil => rfl
  | cons c spaces ih =>
      have same : c ≠ '\n' := fun newline => oneLine (newline ▸ List.mem_cons_self)
      have none : (strtol 10 (c :: spaces ++ rest)).converted = false := by
        rw [strtol_spaces skipped]
        exact ends
      rw [List.cons_append, groupsScan_cons same, ← List.cons_append, if_pos none]
      exact ih (fun d member => skipped d (List.mem_cons_of_mem c member))
        fun member => oneLine (List.mem_cons_of_mem c member)

/-- The cast to `gid_t` keeps a group id. -/
theorem ofInt_eq_iff {gid : Nat} (small : gid < 2 ^ 32) :
    UInt32.ofInt (gid : Int) = group ↔ group.toNat = gid := by
  have cast : UInt32.ofInt (gid : Int) = UInt32.ofNat gid := by
    rw [UInt32.ofInt]
    congr 1
    omega
  rw [cast, ← UInt32.toNat_inj, UInt32.toNat_ofNat', Nat.mod_eq_of_lt small, eq_comm]

/-- The scan compares a number as a whole. -/
theorem groupsScan_number (skipped : ∀ c ∈ spaces, isSpace c = true) (oneLine : '\n' ∉ spaces)
    (nonempty : digits ≠ []) (all : ∀ c ∈ digits, c.isDigit = true)
    (small : Nat.ofDigitChars 10 digits 0 < 2 ^ 32) (ends : ∀ c ∈ rest.head?, c.isDigit = false) :
    groupsScan group (spaces ++ (digits ++ rest)) = true ↔
      group.toNat = Nat.ofDigitChars 10 digits 0 ∨ groupsScan group rest = true := by
  have read : strtol 10 (digits ++ rest) = _ := strtol_run false nonempty all ends
  have whole := @strtol_spaces 10 spaces skipped (digits ++ rest)
  have value : max (-2 ^ 63) (min (2 ^ 63 - 1) (signedValue false digits)) =
      (Nat.ofDigitChars 10 digits 0 : Int) := by
    change max (-2 ^ 63) (min (2 ^ 63 - 1) (Nat.ofDigitChars 10 digits 0 : Int)) = _
    omega
  rw [read, value] at whole
  have start : ∃ c text, spaces ++ (digits ++ rest) = c :: text ∧ c ≠ '\n' := by
    cases spaces with
    | nil =>
        obtain ⟨d, more, rfl⟩ := List.exists_cons_of_ne_nil nonempty
        refine ⟨d, more ++ rest, rfl, fun newline => ?_⟩
        have digit := all d List.mem_cons_self
        rw [newline] at digit
        cases digit
    | cons c spaces => exact ⟨c, _, rfl, fun newline => oneLine (newline ▸ List.mem_cons_self)⟩
  obtain ⟨c, text, shape, same⟩ := start
  rw [shape] at whole ⊢
  have converted : (strtol 10 (c :: text)).converted = true := by rw [whole]
  have number : (strtol 10 (c :: text)).value = (Nat.ofDigitChars 10 digits 0 : Int) := by rw [whole]
  have behind : (strtol 10 (c :: text)).rest = rest := by
    rw [whole]
    rfl
  rw [groupsScan_cons same, converted, number, behind, if_neg (by decide), ← ofInt_eq_iff small]
  by_cases found : UInt32.ofInt (Nat.ofDigitChars 10 digits 0 : Int) = group
  · simp [found]
  · simp [found]

/-- The ids behind the first one are such a list as well. -/
theorem GidList.behind {behind : CString} (list : GidList (spaces ++ (digits ++ behind)))
    (first : tokens isSpace (spaces ++ (digits ++ behind)) = digits :: tokens isSpace behind) :
    GidList behind where
  oneLine := fun newline => list.oneLine (by simp [newline])
  digits := fun token member => list.digits token (first ▸ List.mem_cons_of_mem digits member)
  small := by
    intro gid member
    refine list.small gid ?_
    rw [numbers, first]
    exact List.mem_cons_of_mem _ member

/-- A number ends in front of white space and at the end of the line. -/
theorem head?_not_digit {behind : CString} (separated : ∀ c ∈ behind.head?, isSpace c = true)
    (line : rest = [] ∨ ∃ later, rest = '\n' :: later) :
    ∀ c ∈ (behind ++ rest).head?, c.isDigit = false := by
  intro c head
  cases behind with
  | nil =>
      rcases line with rfl | ⟨later, rfl⟩
      · cases head
      · cases head
        rfl
  | cons d behind =>
      have space := separated c head
      by_contra digit
      rw [isSpace_of_isDigit (Bool.not_eq_false _ ▸ digit)] at space
      cases space

/-- The scan of a list of group ids stops behind its line. -/
theorem groupsScan_gids {gids : CString} (list : GidList gids)
    (line : rest = [] ∨ ∃ later, rest = '\n' :: later) (ends : (strtol 10 rest).converted = false) :
    groupsScan group (gids ++ rest) = true ↔ group.toNat ∈ numbers gids := by
  induction length : gids.length using Nat.strongRecOn generalizing gids with
  | _ n ih =>
      by_cases none : tokens isSpace gids = []
      · have skipped : ∀ c ∈ gids, isSpace c = true :=
          List.dropWhile_eq_nil_iff.mp ((tokens_eq_nil_iff gids).mp none)
        have stopped : groupsScan group rest = false := by
          rcases line with rfl | ⟨later, rfl⟩
          · rw [groupsScan]
          · rw [groupsScan, if_pos rfl]
        rw [groupsScan_spaces skipped list.oneLine ends, stopped, numbers, none]
        simp
      · obtain ⟨spaces, digits, behind, rfl, skipped, nonempty, separated, first⟩ :=
          tokens_first none
        have shorter : behind.length < n := by
          have some := List.length_pos_iff.mpr nonempty
          rw [← length, List.length_append, List.length_append]
          omega
        have listed : numbers (spaces ++ (digits ++ behind)) =
            Nat.ofDigitChars 10 digits 0 :: numbers behind := by
          rw [numbers, first]
          rfl
        have blank : '\n' ∉ spaces := fun newline => list.oneLine (by simp [newline])
        have all := list.digits digits (first ▸ List.mem_cons_self)
        have small := list.small _ (listed ▸ List.mem_cons_self)
        rw [List.append_assoc, List.append_assoc,
          groupsScan_number skipped blank nonempty all small (head?_not_digit separated line),
          ih behind.length shorter (list.behind first) rfl, listed, List.mem_cons]

end Scan

/-! ## The line -/

theorem isAlpha_bounds {c : Char} (letter : c.isAlpha = true) : 65 ≤ c.toNat := by
  have cases : (decide (c.val ≥ 'A'.val ∧ c.val ≤ 'Z'.val) ||
      (decide (c.val ≥ 'a'.val) && decide (c.val ≤ 'z'.val))) = true := letter
  simp only [Bool.or_eq_true, Bool.and_eq_true, decide_eq_true_eq, ge_iff_le,
    UInt32.le_iff_toNat_le] at cases
  rcases cases with upper | lower
  · exact upper.1
  · exact Nat.le_trans (by decide) lower.1

/-- No numeral starts in front of a letter. -/
theorem strtol_letter {c : Char} (letter : c.isAlpha = true) (rest : CString) :
    (strtol 10 (c :: rest)).converted = false := by
  have large := isAlpha_bounds letter
  refine strtol_none (isSpace_of_gt (by omega)) ⟨?_, ?_⟩ ?_ rest
  · rintro rfl
    exact absurd large (by decide)
  · rintro rfl
    exact absurd large (by decide)
  · by_contra digit
    have bounds := isDigit_bounds (Bool.not_eq_false _ ▸ digit)
    omega

/-- The scan cannot leave its line: the next one starts with a letter. -/
theorem StatusText.rest_ends (status : StatusText) :
    (status.rest = [] ∨ ∃ later, status.rest = '\n' :: later) ∧
      (strtol 10 status.rest).converted = false := by
  cases after : status.after with
  | nil =>
      rw [StatusText.rest, after, marked_nil, List.nil_append]
      cases status.newline with
      | true => exact ⟨Or.inr ⟨[], rfl⟩, by decide⟩
      | false => exact ⟨Or.inl rfl, by decide⟩
  | cons line more =>
      have letter := (status.others line (by simp [after])).letter
      cases line with
      | nil => cases letter
      | cons c line =>
          have shape : ∃ later, status.rest = ['\n'] ++ c :: later :=
            ⟨_, by rw [StatusText.rest, after]; rfl⟩
          obtain ⟨later, shape⟩ := shape
          rw [shape]
          refine ⟨Or.inr ⟨c :: later, rfl⟩, ?_⟩
          rw [strtol_spaces (by simp [isSpace, isBlank])]
          exact strtol_letter letter later

theorem OtherLine.search {line : CString} (other : OtherLine line) :
    '\n' ∉ line ∧ ¬ "Groups:".toList <+: line :=
  ⟨other.oneLine, other.other⟩

/-- `strstr` finds the line from the newline in front of it; a line at the start is found last. -/
theorem StatusText.groupsLine_text (status : StatusText) :
    ∃ start, (start = [] ∨ start = ['\n']) ∧
      groupsLine status.text = some (start ++ ("Groups:".toList ++ (status.gids ++ status.rest))) := by
  have keyFree : '\n' ∉ "Groups:".toList := by decide
  have needle : "\nGroups:".toList = '\n' :: "Groups:".toList := rfl
  cases before : status.before with
  | nil =>
      have after : ∀ line ∈ status.after, '\n' ∉ line ∧ ¬ "Groups:".toList <+: line :=
        fun line member => (status.others line (List.mem_append_right _ member)).search
      have absent : findSub "\nGroups:".toList status.rest = none := by
        cases ending : status.newline with
        | true =>
            rw [StatusText.rest, ending]
            exact findSub_none keyFree after (Or.inr ⟨[], rfl⟩) (by decide)
        | false =>
            rw [StatusText.rest, ending]
            exact findSub_none keyFree after (Or.inl rfl) (by decide)
      have line : '\n' ∉ "Groups:".toList ++ status.gids := by
        rw [List.mem_append]
        exact not_or.mpr ⟨keyFree, status.gidList.oneLine⟩
      have searched : findSub "\nGroups:".toList status.text = none := by
        rw [StatusText.text, before, List.flatMap_nil, List.nil_append, ← List.append_assoc, needle,
          findSub_append line]
        exact absent
      refine ⟨[], Or.inl rfl, ?_⟩
      rw [groupsLine, searched, StatusText.text, before]
      rfl
  | cons line more =>
      have others : ∀ other ∈ line :: more, '\n' ∉ other ∧ ¬ "Groups:".toList <+: other :=
        fun other member => (status.others other
          (List.mem_append_left _ (before ▸ member))).search
      obtain ⟨first, later⟩ := List.forall_mem_cons.mp others
      have searched : findSub "\nGroups:".toList status.text =
          some ('\n' :: ("Groups:".toList ++ (status.gids ++ status.rest))) := by
        rw [StatusText.text, before, List.flatMap_cons, List.append_assoc, List.append_assoc, needle,
          findSub_append first.1]
        exact findSub_first keyFree later _
      refine ⟨['\n'], Or.inr rfl, ?_⟩
      rw [groupsLine, searched]
      rfl

/-- The scan starts behind the colon. -/
theorem groupsLineHasGroup_line {start : CString} (found : start = [] ∨ start = ['\n'])
    (gids : CString) (group : UInt32) :
    groupsLineHasGroup (start ++ ("Groups:".toList ++ gids)) group = groupsScan group gids := by
  rcases found with rfl | rfl
  · rfl
  · rfl

/-- On a line that `pid_has_group` finds, a group is found exactly when it is one of the ids. -/
theorem StatusText.found_iff (status : StatusText) (group : UInt32) {line : CString}
    (found : groupsLine status.text = some line) :
    groupsLineHasGroup line group = true ↔ group.toNat ∈ numbers status.gids := by
  obtain ⟨start, newline, same⟩ := status.groupsLine_text
  obtain ⟨ended, ends⟩ := status.rest_ends
  rw [same] at found
  cases found
  rw [groupsLineHasGroup_line newline]
  exact groupsScan_gids status.gidList ended ends

/-- `pid_has_group` finds the line, and its scan finds exactly the groups on it. -/
theorem groupsLineHasGroup_iff (status : StatusText) (group : UInt32) :
    ∃ line, groupsLine status.text = some line ∧
      (groupsLineHasGroup line group = true ↔ group.toNat ∈ numbers status.gids) := by
  obtain ⟨start, -, found⟩ := status.groupsLine_text
  exact ⟨_, found, status.found_iff group found⟩

/-- A shell in three groups, with a larger number in the line below. -/
def shellStatus : StatusText where
  before := ["Name:\tbash".toList, "FDSize:\t256".toList]
  gids := "\t4 27 1000 ".toList
  after := ["VmPeak:\t    8964 kB".toList]
  newline := true
  others := by
    have all : ∀ line ∈ ["Name:\tbash".toList, "FDSize:\t256".toList,
        "VmPeak:\t    8964 kB".toList], '\n' ∉ line ∧ line.head?.any Char.isAlpha = true ∧
          ¬ "Groups:".toList <+: line := by decide
    intro line member
    obtain ⟨oneLine, letter, other⟩ := all line member
    exact ⟨oneLine, letter, other⟩
  gidList := by
    have digits : ∀ token ∈ tokens isSpace "\t4 27 1000 ".toList, token.all Char.isDigit = true := by
      decide
    exact ⟨by decide, fun token member => List.all_eq_true.mp (digits token member),
      by decide⟩

theorem groupsLineHasGroup_iff_shell :
    ∃ line, groupsLine shellStatus.text = some line ∧ groupsLineHasGroup line 27 = true := by
  obtain ⟨line, found, scanned⟩ := groupsLineHasGroup_iff shellStatus 27
  exact ⟨line, found, scanned.mpr (by decide)⟩

/-- A status text that is read whole shows the groups of its process. -/
theorem pidHasGroup_iff (status : StatusText) (whole : status.text.length ≤ 64 * 1024)
    (group : UInt32) :
    pidHasGroup (some status.text) group = true ↔ group.toNat ∈ numbers status.gids := by
  obtain ⟨start, -, found⟩ := status.groupsLine_text
  rw [pidHasGroup, Option.bind_some, List.take_of_length_le whole, found]
  exact status.found_iff group found

end NitroSense
