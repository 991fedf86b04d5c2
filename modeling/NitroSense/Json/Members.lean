import NitroSense.Json.Scalars
import NitroSense.Json.Scan
import NitroSense.Lib.JsonText

/-!
# Reading the members of a document

When the text search finds the member of an object, the readers see its value:
what they accept is the value the document gives it.
-/

namespace NitroSense

open Lib

/-- Behind a value the text ends, or goes on with a blank or a delimiter. -/
def Delimited (tail : CString) : Prop :=
  ∀ c ∈ tail.head?, isBlank c = true ∨ c = ',' ∨ c = '\x7d' ∨ c = ']'

/-- The text search for a key finds this member first. -/
def FindsMember (text key : CString) (member : Json.Member) : Prop :=
  member.2.1.raw = key ∧
    ∃ rest, FirstAt (quoted key) text (Json.memberText member ++ rest) ∧ Delimited rest

instance : (tail : CString) → Decidable (Delimited tail)
  | [] => isTrue nofun
  | c :: rest =>
      decidable_of_iff (isBlank c = true ∨ c = ',' ∨ c = '\x7d' ∨ c = ']')
        (by simp [Delimited])

theorem findsMember_iff {text key : CString} {member : Json.Member} :
    FindsMember text key member ↔ member.2.1.raw = key ∧
      ∃ found ∈ findSub (quoted key) text, Json.memberText member <+: found ∧
        Delimited (found.drop (Json.memberText member).length) := by
  refine and_congr_right fun _ => ⟨fun ⟨rest, first, delimited⟩ => ?_, ?_⟩
  · refine ⟨_, (findSub_eq_some_iff (List.cons_ne_nil _ _)).mpr first, List.prefix_append _ _, ?_⟩
    rw [List.drop_left]
    exact delimited
  · rintro ⟨found, searched, ⟨rest, rfl⟩, delimited⟩
    rw [List.drop_left] at delimited
    exact ⟨rest, (findSub_eq_some_iff (List.cons_ne_nil _ _)).mp searched, delimited⟩

instance (text key : CString) (member : Json.Member) : Decidable (FindsMember text key member) :=
  decidable_of_iff _ findsMember_iff.symm

section Finding

variable {text key : CString}

theorem isBlank_space (space : Space) : ∀ c ∈ space.text, isBlank c = true :=
  List.all_eq_true.mp space.blank

theorem dropWhile_space (space : Space) (rest : CString) :
    (space.text ++ rest).dropWhile isBlank = rest.dropWhile isBlank :=
  List.dropWhile_append_of_pos (isBlank_space space)

theorem isBlank_of_startsLike {c : Char} {value : Json} (starts : Json.StartsLike c value) :
    isBlank c = false := by
  have digit (isDigit : c.isDigit = true) : isBlank c = false := by
    have space := isSpace_of_isDigit isDigit
    simp only [isSpace, Bool.or_eq_false_iff] at space
    exact space.1.1
  cases value with
  | null => subst starts; rfl
  | bool value => cases value <;> (subst starts; rfl)
  | number token =>
      rcases starts with rfl | isDigit
      · rfl
      · exact digit isDigit
  | string token => subst starts; rfl
  | array space items => subst starts; rfl
  | object space members => subst starts; rfl

theorem dropWhile_value (value : Json) (rest : CString) :
    (value.text ++ rest).dropWhile isBlank = value.text ++ rest := by
  obtain ⟨c, tail, shape, starts⟩ := value.text_head
  rw [shape]
  exact List.dropWhile_cons_of_neg (by simp [isBlank_of_startsLike starts])

/-- Behind the colon of a found member stands its value. -/
theorem jsonValue_member (keyText : KeyText key) {member : Json.Member}
    (finds : FindsMember text key member) :
    ∃ tail, jsonValue text key = some ((Json.memberValue member).text ++ tail) ∧
      Delimited tail := by
  obtain ⟨raw, rest, first, delimited⟩ := finds
  obtain ⟨before, token, afterKey, beforeValue, value, after⟩ := member
  obtain ⟨_, _, _, noColon⟩ := id keyText
  have head : ∀ c ∈ quoted key ++ afterKey.text, decide (c ≠ ':') = true := by
    intro c inside
    rcases List.mem_append.mp inside with inKey | inSpace
    · have others : c = '"' ∨ c ∈ key ∨ c = '"' := by simpa [quoted] using inKey
      rcases others with rfl | member | rfl
      · rfl
      · exact decide_eq_true fun same => noColon (same ▸ member)
      · rfl
    · refine decide_eq_true fun same => ?_
      have blank := isBlank_space afterKey c inSpace
      rw [same] at blank
      cases blank
  have shape : Json.memberText (before, token, afterKey, beforeValue, value, after) ++ rest =
      (quoted key ++ afterKey.text) ++ (':' :: (beforeValue.text ++
        (value.text ++ (after.text ++ rest)))) := by
    have same : Json.quotedToken token = quoted key := by
      rw [Json.quotedToken, quoted, show token.raw = key from raw]
    simp only [Json.memberText, same, List.append_assoc, List.cons_append]
  refine ⟨after.text ++ rest, ?_, ?_⟩
  · rw [jsonValue, (jsonFindKey_eq_some_iff keyText.1).mpr first, Option.bind_some, shape,
      jsonAfterColon, List.dropWhile_append_of_pos head, List.dropWhile_cons_of_neg (by simp)]
    dsimp only
    rw [dropWhile_space, dropWhile_value]
    rfl
  · intro c isHead
    cases space : after.text with
    | nil =>
        rw [space] at isHead
        exact delimited c isHead
    | cons d more =>
        rw [space] at isHead
        cases isHead
        exact Or.inl (isBlank_space after _ (space ▸ List.mem_cons_self))

end Finding

/-! ## Integers -/

section Values

variable {json key tail : CString} {value : Json}

theorem Delimited.not_digit (delimited : Delimited tail) :
    ∀ c ∈ tail.head?, c.isDigit = false := by
  intro c isHead
  rcases delimited c isHead with blank | rfl | rfl | rfl
  · by_contra digit
    have space := isSpace_of_isDigit (Bool.not_eq_false _ ▸ digit)
    simp [isSpace, blank] at space
  · rfl
  · rfl
  · rfl

theorem takeWhile_digits {digits rest : CString} (all : ∀ c ∈ digits, c.isDigit = true)
    (ends : ∀ c ∈ rest.head?, c.isDigit = false) :
    (digits ++ rest).takeWhile Char.isDigit = digits ∧
      (digits ++ rest).dropWhile Char.isDigit = rest := by
  rw [List.takeWhile_append_of_pos all, List.dropWhile_append_of_pos all]
  cases rest with
  | nil => exact ⟨List.append_nil _, rfl⟩
  | cons c rest =>
      have notDigit : ¬ c.isDigit = true := by simp [ends c rfl]
      rw [List.takeWhile_cons_of_neg notDigit, List.dropWhile_cons_of_neg notDigit]
      exact ⟨List.append_nil _, rfl⟩

/-- A number whose digits end where a value may end is an integer. -/
theorem number_int? {token : NumberToken} {negative : Bool} {digits rest : CString}
    (delimited : Delimited tail) (nonempty : digits ≠ [])
    (all : ∀ c ∈ digits, c.isDigit = true) (ends : ∀ c ∈ rest.head?, c.isDigit = false)
    (shape : token.raw ++ tail = signed negative (digits ++ rest))
    (ended : jsonValueEnded rest = true) : token.int? = some (signedValue negative digits) := by
  obtain ⟨raw, number⟩ := token
  -- the spelling splits into the same sign, and into the same digits
  have same (body : CString) (isBody : isUnsignedNumber body = true)
      (shape : body ++ tail = digits ++ rest) : body = digits := by
    obtain ⟨own, more, rfl, _, ownAll, goes⟩ := isUnsignedNumber_split isBody
    have ownEnds : ∀ c ∈ (more ++ tail).head?, c.isDigit = false := by
      intro c isHead
      rcases goes with rfl | ⟨d, others, rfl, mark⟩
      · exact delimited.not_digit c isHead
      · cases isHead
        rcases mark with rfl | rfl | rfl <;> rfl
    have ours := takeWhile_digits all ends
    rw [← shape, List.append_assoc] at ours
    obtain ⟨taken, left⟩ := takeWhile_digits ownAll ownEnds
    rw [taken, left] at ours
    obtain ⟨rfl, rfl⟩ := ours
    rcases goes with rfl | ⟨d, others, rfl, mark⟩
    · exact List.append_nil own
    · rcases mark with rfl | rfl | rfl <;> cases ended
  dsimp only at shape
  unfold NumberToken.int?
  cases negative with
  | true =>
      cases raw with
      | nil => cases number
      | cons c body =>
          obtain ⟨rfl, bodies⟩ := List.cons.inj shape
          rw [← same body number bodies] at all ⊢
          simp [signedValue, List.all_eq_true.mpr all]
  | false =>
      have whole : raw = digits := by
        refine same raw ?_ shape
        unfold isNumber at number
        split at number
        · obtain ⟨d, others, rfl⟩ := List.exists_cons_of_ne_nil nonempty
          have digit := all d List.mem_cons_self
          rw [← (List.cons.inj shape).1] at digit
          cases digit
        · exact number
      subst whole
      dsimp only
      split
      · have digit := all '-' List.mem_cons_self
        cases digit
      · simp [signedValue, List.all_eq_true.mpr all]

/-- An integer the reader accepts is the value of the member. -/
theorem jsonIntKeyChecked_value {x : Int} (found : jsonValue json key = some (value.text ++ tail))
    (delimited : Delimited tail) (read : jsonIntKeyChecked json key = some x) :
    value.int? = some x := by
  obtain ⟨negative, digits, rest, shape, form, ended, rfl, _⟩ :=
    (jsonIntKeyChecked_iff found).mp read
  obtain ⟨c, more, text, starts⟩ := value.text_head
  have first : c = '-' ∨ c.isDigit = true := by
    rw [text, List.cons_append] at shape
    cases negative with
    | true => exact Or.inl (List.cons.inj shape).1
    | false =>
        obtain ⟨d, others, rfl⟩ := List.exists_cons_of_ne_nil form.ne_nil
        exact Or.inr ((List.cons.inj shape).1 ▸ form.isDigit d List.mem_cons_self)
  cases value with
  | number token =>
      exact number_int? delimited form.ne_nil form.isDigit ended.not_digit shape
        (jsonValueEnded_iff.mpr ended)
  | null => subst starts; simp at first
  | bool value => cases value <;> (subst starts; simp at first)
  | string token => subst starts; simp at first
  | array space items => subst starts; simp at first
  | object space members => subst starts; simp at first

/-! ## Booleans and strings -/

theorem jsonBoolKeyChecked_value {x : Bool} (found : jsonValue json key = some (value.text ++ tail))
    (read : jsonBoolKeyChecked json key = some x) : value.bool? = some x := by
  rw [jsonBoolKeyChecked, found, Option.bind_some] at read
  obtain ⟨c, more, text, starts⟩ := value.text_head
  have first : c = 't' ∧ x = true ∨ c = 'f' ∧ x = false := by
    rw [text, List.cons_append] at read
    split at read
    · rename_i isTrue
      cases read
      exact Or.inl ⟨(List.cons_prefix_cons.mp isTrue.1).1.symm, rfl⟩
    · split at read
      · rename_i isFalse
        cases read
        exact Or.inr ⟨(List.cons_prefix_cons.mp isFalse.1).1.symm, rfl⟩
      · cases read
  cases value with
  | bool value =>
      cases value with
      | true =>
          rcases first with ⟨_, rfl⟩ | ⟨isFalse, _⟩
          · rfl
          · subst starts; cases isFalse
      | false =>
          rcases first with ⟨isTrue, _⟩ | ⟨_, rfl⟩
          · subst starts; cases isTrue
          · rfl
  | number token =>
      rcases starts with rfl | digit
      · simp at first
      · rcases first with ⟨rfl, _⟩ | ⟨rfl, _⟩ <;> cases digit
  | null => subst starts; simp at first
  | string token => subst starts; simp at first
  | array space items => subst starts; simp at first
  | object space members => subst starts; simp at first

/-- A string the reader stores is the one the member's token denotes. -/
theorem jsonStringKeyChecked_value {out : CString} {outLen : Nat}
    (found : jsonValue json key = some (value.text ++ tail))
    (read : (jsonStringKeyChecked json key out outLen).2 = true) :
    value.string? = some (jsonStringKeyChecked json key out outLen).1 := by
  obtain ⟨text, quote, ⟨rest, shape, plain, _⟩, _⟩ := jsonStringKeyChecked_stored read
  generalize (jsonStringKeyChecked json key out outLen).1 = stored at shape plain
  rw [← Option.some.inj (found.symm.trans quote)] at shape
  obtain ⟨c, more, text, starts⟩ := value.text_head
  have first : c = '"' := by
    rw [text] at shape
    exact (List.cons.inj shape).1
  cases value with
  | string token =>
      obtain ⟨raw, body⟩ := token
      have same : raw ++ '"' :: tail = stored ++ '"' :: rest := by
        have behind := (List.cons.inj shape).2
        simpa using behind
      have cut : raw.takeWhile (· ≠ '"') = stored := by
        have ours : (stored ++ '"' :: rest).takeWhile (· ≠ '"') = stored := by
          rw [List.takeWhile_append_of_pos plain.noQuote]
          simp
        rw [← same, List.takeWhile_append] at ours
        split at ours
        · rename_i whole
          have all := (List.takeWhile_prefix (· ≠ '"')).eq_of_length whole
          rw [List.takeWhile_cons_of_neg (by simp), List.append_nil] at ours
          rw [all, ours]
        · exact ours
      rcases isStringBody_plain body with escaped | ⟨free, denotes⟩
      · rw [cut] at escaped
        have allowed := List.all_eq_true.mp plain _ escaped
        cases allowed
      · have whole : raw.takeWhile (· ≠ '"') = raw := by
          rw [List.takeWhile_eq_self_iff]
          intro d member
          exact decide_eq_true fun same => free (same ▸ member)
        rw [← cut, whole]
        exact congrArg some denotes
  | null => subst starts; cases first
  | bool value => cases value <;> (subst starts; cases first)
  | number token =>
      subst first
      rcases starts with minus | digit
      · cases minus
      · cases digit
  | array space items => subst starts; cases first
  | object space members => subst starts; cases first

end Values

end NitroSense
