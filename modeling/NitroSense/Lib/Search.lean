import Mathlib.Data.List.Basic
import Mathlib.Data.List.Infix

/-!
# Searching a delimited text

`findSub` is the first occurrence of a needle in a text.  A text cut by a
delimiter is a list of segments, each free of the delimiter; a needle that
starts and ends with the delimiter is a list of keys.  Such a needle occurs
exactly where the keys are consecutive whole segments, so the search over
characters is a search over segments.
-/

namespace NitroSense.Lib

variable {α : Type*} {d : α}

/-- Every segment with the delimiter in front. -/
def marked (d : α) (segments : List (List α)) : List α := segments.flatMap (d :: ·)

@[simp] theorem marked_nil (d : α) : marked d [] = [] := rfl

@[simp] theorem marked_cons (d : α) (segment : List α) (segments : List (List α)) :
    marked d (segment :: segments) = d :: (segment ++ marked d segments) := rfl

/-- No segment contains the delimiter. -/
def Free (d : α) (segments : List (List α)) : Prop := ∀ segment ∈ segments, d ∉ segment

theorem free_cons {segment : List α} {segments : List (List α)} :
    Free d (segment :: segments) ↔ d ∉ segment ∧ Free d segments :=
  List.forall_mem_cons

/-- The keys are the first segments, and another segment follows. -/
def Heads (keys segments : List (List α)) : Prop := ∃ next rest, segments = keys ++ next :: rest

theorem heads_nil {segments : List (List α)} : Heads [] segments ↔ segments ≠ [] := by
  constructor
  · rintro ⟨next, rest, rfl⟩
    exact List.cons_ne_nil next rest
  · intro nonempty
    obtain ⟨next, rest, rfl⟩ := List.exists_cons_of_ne_nil nonempty
    exact ⟨next, rest, rfl⟩

theorem heads_cons {key segment : List α} {keys segments : List (List α)} :
    Heads (key :: keys) (segment :: segments) ↔ segment = key ∧ Heads keys segments := by
  simp only [Heads, List.cons_append, List.cons.injEq]
  constructor
  · rintro ⟨next, rest, same, tail⟩
    exact ⟨same, next, rest, tail⟩
  · rintro ⟨same, next, rest, tail⟩
    exact ⟨next, rest, same, tail⟩

theorem not_heads_nil {keys : List (List α)} : ¬ Heads keys [] := by
  rintro ⟨next, rest, same⟩
  simp at same

/-- The needle of a list of keys. -/
def quotedKeys (d : α) (keys : List (List α)) : List α := marked d keys ++ [d]

theorem quotedKeys_head (keys : List (List α)) : ∃ rest, quotedKeys d keys = d :: rest := by
  cases keys with
  | nil => exact ⟨[], rfl⟩
  | cons key keys => exact ⟨_, rfl⟩

/-- Delimiter-free heads of two texts that agree up to a delimiter are equal. -/
theorem append_prefix_iff {key segment needle text : List α} (keyFree : d ∉ key)
    (segmentFree : d ∉ segment) (marks : text = [] ∨ ∃ rest, text = d :: rest) :
    key ++ d :: needle <+: segment ++ text ↔ segment = key ∧ d :: needle <+: text := by
  induction key generalizing segment with
  | nil =>
      cases segment with
      | nil => simp
      | cons c segment =>
          have differs : d ≠ c := fun same => segmentFree (same ▸ List.mem_cons_self)
          simp [List.cons_prefix_cons, differs]
  | cons c key ih =>
      have keyTail : d ∉ key := fun member => keyFree (List.mem_cons_of_mem c member)
      have differs : c ≠ d := fun same => keyFree (same ▸ List.mem_cons_self)
      cases segment with
      | nil =>
          rcases marks with rfl | ⟨rest, rfl⟩
          · simp
          · simp [List.cons_prefix_cons, differs]
      | cons c' segment =>
          have segmentTail : d ∉ segment := fun member => segmentFree (List.mem_cons_of_mem c' member)
          simp only [List.cons_append, List.cons_prefix_cons, ih keyTail segmentTail, List.cons.injEq]
          constructor
          · rintro ⟨same, rest, headed⟩
            exact ⟨⟨same.symm, rest⟩, headed⟩
          · rintro ⟨⟨same, rest⟩, headed⟩
            exact ⟨same.symm, rest, headed⟩

/-- A key without the delimiter stands in front of a delimited text where it heads the segment. -/
theorem prefix_append_iff_of_free {key segment text : List α} (keyFree : d ∉ key)
    (marks : text = [] ∨ ∃ rest, text = d :: rest) : key <+: segment ++ text ↔ key <+: segment := by
  refine ⟨fun headed => ?_, fun headed => headed.trans (List.prefix_append segment text)⟩
  rcases List.prefix_or_prefix_of_prefix headed (List.prefix_append segment text) with within | ⟨more, rfl⟩
  · exact within
  · rw [List.prefix_append_right_inj] at headed
    cases more with
    | nil => simp
    | cons c more =>
        rcases marks with rfl | ⟨rest, rfl⟩
        · exact absurd (List.prefix_nil.mp headed) (List.cons_ne_nil c more)
        · rw [List.cons_prefix_cons] at headed
          exact absurd (headed.1 ▸ by simp) keyFree

theorem marked_starts (segments : List (List α)) :
    marked d segments = [] ∨ ∃ rest, marked d segments = d :: rest := by
  cases segments with
  | nil => exact Or.inl rfl
  | cons segment segments => exact Or.inr ⟨_, rfl⟩

/-- The needle is a prefix of a delimited text where its keys head the segments. -/
theorem quotedKeys_prefix_iff {keys segments : List (List α)} (keysFree : Free d keys)
    (segmentsFree : Free d segments) :
    quotedKeys d keys <+: marked d segments ↔ Heads keys segments := by
  induction keys generalizing segments with
  | nil =>
      rw [heads_nil]
      cases segments with
      | nil => simp [quotedKeys]
      | cons segment segments => simp [quotedKeys, List.cons_prefix_cons]
  | cons key keys ih =>
      cases segments with
      | nil => simp [quotedKeys, not_heads_nil]
      | cons segment segments =>
          obtain ⟨keyFree, keysTail⟩ := free_cons.mp keysFree
          obtain ⟨segmentFree, segmentsTail⟩ := free_cons.mp segmentsFree
          obtain ⟨needle, head⟩ := quotedKeys_head (d := d) keys
          have unfold : quotedKeys d (key :: keys) = d :: (key ++ d :: needle) := by
            rw [← head]
            simp [quotedKeys]
          rw [unfold, marked_cons, List.cons_prefix_cons,
            append_prefix_iff keyFree segmentFree (marked_starts segments), ← head,
            ih keysTail segmentsTail, heads_cons]
          simp

/-! ## The search -/

section Search

variable [DecidableEq α]

/-- The text from the first occurrence of the needle. -/
def findSub (needle : List α) : List α → Option (List α)
  | [] => if needle = [] then some [] else none
  | c :: rest => if needle <+: c :: rest then some (c :: rest) else findSub needle rest

/-- `found` is the text from the first place where the needle stands. -/
def FirstAt (needle text found : List α) : Prop :=
  needle <+: found ∧ ∃ before, text = before ++ found ∧
    ∀ start rest, before = start ++ rest → rest ≠ [] → ¬ needle <+: rest ++ found

omit [DecidableEq α] in
theorem firstAt_cons_iff {needle text found : List α} {c : α} :
    FirstAt needle (c :: text) found ↔
      (needle <+: c :: text ∧ found = c :: text) ∨
        (¬ needle <+: c :: text ∧ FirstAt needle text found) := by
  constructor
  · rintro ⟨here, before, same, first⟩
    cases before with
    | nil =>
        rw [List.nil_append] at same
        exact Or.inl ⟨same ▸ here, same.symm⟩
    | cons b before =>
        obtain ⟨rfl, rfl⟩ := List.cons.inj same
        refine Or.inr ⟨first [] _ rfl (List.cons_ne_nil _ _), here, before, rfl, ?_⟩
        intro start rest split nonempty
        exact first (c :: start) rest (by rw [split, List.cons_append]) nonempty
  · rintro (⟨here, rfl⟩ | ⟨absent, here, before, rfl, first⟩)
    · refine ⟨here, [], rfl, fun start rest split nonempty => ?_⟩
      exact absurd (List.append_eq_nil_iff.mp split.symm).2 nonempty
    · refine ⟨here, c :: before, rfl, fun start rest split nonempty => ?_⟩
      cases start with
      | nil =>
          rw [List.nil_append] at split
          rw [← split]
          exact absent
      | cons s start =>
          obtain ⟨-, tail⟩ := List.cons.inj split
          exact first start rest tail nonempty

/-- The search finds the first place. -/
theorem findSub_eq_some_iff {needle text found : List α} (nonempty : needle ≠ []) :
    findSub needle text = some found ↔ FirstAt needle text found := by
  induction text with
  | nil =>
      rw [findSub, if_neg nonempty]
      refine ⟨nofun, fun ⟨here, before, same, _⟩ => ?_⟩
      obtain ⟨-, rfl⟩ := List.append_eq_nil_iff.mp same.symm
      exact absurd (List.prefix_nil.mp here) nonempty
  | cons c text ih =>
      rw [findSub, firstAt_cons_iff, ← ih]
      by_cases here : needle <+: c :: text
      · simp [here, eq_comm]
      · simp [here]

/-- The search fails where the needle does not occur. -/
theorem findSub_eq_none_iff {needle text : List α} :
    findSub needle text = none ↔ ¬ needle <:+: text := by
  induction text with
  | nil =>
      rw [findSub, List.infix_nil]
      split
      · rename_i empty
        exact ⟨nofun, fun absent => absurd empty absent⟩
      · rename_i nonempty
        exact ⟨fun _ => nonempty, fun _ => rfl⟩
  | cons c text ih =>
      rw [findSub, List.infix_cons_iff]
      by_cases here : needle <+: c :: text
      · simp [here]
      · simp [here, ih]

instance decidableHeads : (keys segments : List (List α)) → Decidable (Heads keys segments)
  | [], _ => decidable_of_iff _ heads_nil.symm
  | _ :: _, [] => isFalse not_heads_nil
  | _ :: keys, _ :: segments =>
      have := decidableHeads keys segments
      decidable_of_iff _ heads_cons.symm

/-- The segments from the first place where the keys head them. -/
def findSegments (keys : List (List α)) : List (List α) → Option (List (List α))
  | [] => none
  | segment :: rest =>
      if Heads keys (segment :: rest) then some (segment :: rest) else findSegments keys rest

/-- A needle that starts with the delimiter is not found inside a segment. -/
theorem findSub_append {needle segment : List α} (segmentFree : d ∉ segment) (text : List α) :
    findSub (d :: needle) (segment ++ text) = findSub (d :: needle) text := by
  induction segment with
  | nil => rfl
  | cons c segment ih =>
      have differs : d ≠ c := fun same => segmentFree (same ▸ List.mem_cons_self)
      have tail : d ∉ segment := fun member => segmentFree (List.mem_cons_of_mem c member)
      rw [List.cons_append, findSub, if_neg (by simp [List.cons_prefix_cons, differs])]
      exact ih tail

/-- A segment that the key does not head is passed over. -/
theorem findSub_pass {key segment text : List α} (keyFree : d ∉ key) (segmentFree : d ∉ segment)
    (other : ¬ key <+: segment) (marks : text = [] ∨ ∃ rest, text = d :: rest) :
    findSub (d :: key) (d :: (segment ++ text)) = findSub (d :: key) text := by
  rw [findSub, if_neg, findSub_append segmentFree]
  rw [List.cons_prefix_cons, prefix_append_iff_of_free keyFree marks]
  exact fun headed => other headed.2

/-- The search stops at the first segment that the key heads. -/
theorem findSub_first {key : List α} {segments : List (List α)} (keyFree : d ∉ key)
    (others : ∀ segment ∈ segments, d ∉ segment ∧ ¬ key <+: segment) (text : List α) :
    findSub (d :: key) (d :: (segments.flatMap (· ++ [d]) ++ (key ++ text))) =
      some (d :: (key ++ text)) := by
  induction segments with
  | nil => exact if_pos (List.prefix_append (d :: key) text)
  | cons segment segments ih =>
      obtain ⟨segmentFree, other⟩ := others segment List.mem_cons_self
      rw [List.flatMap_cons, List.append_assoc, List.append_assoc, List.singleton_append,
        findSub_pass keyFree segmentFree other (Or.inr ⟨_, rfl⟩)]
      exact ih fun later member => others later (List.mem_cons_of_mem segment member)

/-- The search fails when the key heads no segment. -/
theorem findSub_none {key ending : List α} {segments : List (List α)} (keyFree : d ∉ key)
    (others : ∀ segment ∈ segments, d ∉ segment ∧ ¬ key <+: segment)
    (marks : ending = [] ∨ ∃ rest, ending = d :: rest) (absent : findSub (d :: key) ending = none) :
    findSub (d :: key) (marked d segments ++ ending) = none := by
  induction segments with
  | nil => exact absent
  | cons segment segments ih =>
      obtain ⟨segmentFree, other⟩ := others segment List.mem_cons_self
      have marksMore : marked d segments ++ ending = [] ∨
          ∃ rest, marked d segments ++ ending = d :: rest := by
        cases segments with
        | nil => exact marks
        | cons next more => exact Or.inr ⟨_, rfl⟩
      rw [marked_cons, List.cons_append, List.append_assoc,
        findSub_pass keyFree segmentFree other marksMore]
      exact ih fun later member => others later (List.mem_cons_of_mem segment member)

/-- Searching a delimited text is searching its segments. -/
theorem findSub_marked {keys segments : List (List α)} (keysFree : Free d keys)
    (segmentsFree : Free d segments) :
    findSub (quotedKeys d keys) (marked d segments) =
      (findSegments keys segments).map (marked d) := by
  obtain ⟨needle, head⟩ := quotedKeys_head (d := d) keys
  induction segments with
  | nil => simp [findSub, findSegments, head]
  | cons segment segments ih =>
      obtain ⟨segmentFree, segmentsTail⟩ := free_cons.mp segmentsFree
      have here := quotedKeys_prefix_iff keysFree segmentsFree
      rw [marked_cons, findSub, ← marked_cons, findSegments]
      by_cases heads : Heads keys (segment :: segments)
      · rw [if_pos (here.mpr heads), if_pos heads, Option.map_some]
      · rw [if_neg fun found => heads (here.mp found), if_neg heads, head,
          findSub_append segmentFree, ← head]
        exact ih segmentsTail

end Search

end NitroSense.Lib
