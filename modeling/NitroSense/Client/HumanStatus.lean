import NitroSense.Client.Status
import NitroSense.Json.Scalars
import NitroSense.Lib.Lines

/-!
# The status for a human reader

What `print_status_human` prints has the lines and the words of the reply, in
their order.  Only temperatures are written another way.
-/

namespace NitroSense

open Lib

section Tokens

variable {token : CString} {c : Char}

/-- A temperature as it is printed; `none` is one that is not known. -/
def shownTemp (unit : TempUnit) : Option Int → CString
  | none => "temp=--".toList
  | some degrees => "temp=".toList ++ (decimal degrees ++ unitSuffix unit)

theorem solid_of_digit (digit : c = '-' ∨ c.isDigit = true) : isGap c = false ∧ c ≠ '\n' := by
  rcases digit with rfl | digit
  · exact ⟨rfl, by decide⟩
  · constructor
    · rw [isGap, Bool.or_eq_false_iff]
      constructor
      · rw [beq_eq_false_iff_ne]
        rintro rfl
        cases digit
      · rw [beq_eq_false_iff_ne]
        rintro rfl
        cases digit
    · rintro rfl
      cases digit

theorem mem_shownTemp {unit : TempUnit} {degrees : Option Int}
    (member : c ∈ shownTemp unit degrees) :
    isGap c = false ∧ c ≠ '\n' := by
  have name : ("temp=--FC".toList.all fun c => !isGap c && c != '\n') = true := by decide
  have plain {c : Char} (inside : c ∈ "temp=--FC".toList) : isGap c = false ∧ c ≠ '\n' := by
    have solid := List.all_eq_true.mp name c inside
    rw [Bool.and_eq_true, Bool.not_eq_true', bne_iff_ne] at solid
    exact solid
  cases degrees with
  | none => exact plain (List.mem_append_left ['F', 'C'] member)
  | some value =>
      rcases List.mem_append.mp member with here | member
      · exact plain (List.mem_append_left ['-', '-', 'F', 'C'] here)
      · rcases List.mem_append.mp member with number | suffix
        · exact solid_of_digit (mem_decimal number)
        · refine plain ?_
          unfold unitSuffix at suffix
          split at suffix
          · rw [List.mem_singleton.mp suffix]
            decide
          · rw [List.mem_singleton.mp suffix]
            decide

/-- What is printed of a token is its start, or a temperature. -/
theorem printStatusTokenSpan_cases (token : CString) (unit : TempUnit) :
    printStatusTokenSpan token unit = token.take 127 ∨
      token ≠ [] ∧ ∃ degrees, printStatusTokenSpan token unit = shownTemp unit degrees := by
  unfold printStatusTokenSpan printStatusToken
  split
  · rename_i temp
    have word : token ≠ [] := by
      rintro rfl
      revert temp
      decide
    dsimp only
    split
    · exact Or.inl rfl
    · refine Or.inr ⟨word, ?_⟩
      split
      · exact ⟨none, rfl⟩
      · exact ⟨some _, rfl⟩
  · exact Or.inl rfl

theorem shownTemp_ne_nil (unit : TempUnit) (degrees : Option Int) :
    shownTemp unit degrees ≠ [] := by
  cases degrees with
  | none => nofun
  | some value => nofun

/-- A word of the reply is a word of what is printed. -/
theorem printStatusTokenSpan_word (word : token ≠ []) (solid : ∀ c ∈ token, isGap c = false)
    (unit : TempUnit) :
    printStatusTokenSpan token unit ≠ [] ∧
      ∀ c ∈ printStatusTokenSpan token unit, isGap c = false := by
  rcases printStatusTokenSpan_cases token unit with start | ⟨-, degrees, temp⟩
  · rw [start]
    refine ⟨?_, fun c member => solid c (List.mem_of_mem_take member)⟩
    cases token with
    | nil => exact absurd rfl word
    | cons c rest => nofun
  · rw [temp]
    exact ⟨shownTemp_ne_nil unit degrees, fun c member => (mem_shownTemp member).1⟩

/-- What is printed of a token of a line stays on the line. -/
theorem printStatusTokenSpan_line (line : '\n' ∉ token) (unit : TempUnit) :
    '\n' ∉ printStatusTokenSpan token unit := by
  intro member
  rcases printStatusTokenSpan_cases token unit with start | ⟨-, degrees, temp⟩
  · rw [start] at member
    exact line (List.mem_of_mem_take member)
  · rw [temp] at member
    exact (mem_shownTemp member).2 rfl

end Tokens

section Words

variable {unit : TempUnit}

theorem printStatusTokens_nil (first : Bool) : printStatusTokens unit first [] = [] := by
  rw [printStatusTokens, dif_neg (fun more => more rfl)]

/-- Behind its first token a line starts with a blank, or it is over. -/
theorem printStatusTokens_head (token : CString) :
    ∀ c ∈ (printStatusTokens unit false token).head?, isGap c = true := by
  intro c head
  rw [printStatusTokens] at head
  split at head
  · cases head
    rfl
  · cases head

theorem printStatusTokens_line {first : Bool} {token : CString} (line : '\n' ∉ token) :
    '\n' ∉ printStatusTokens unit first token := by
  fun_induction printStatusTokens unit first token with
  | case1 first token more ih =>
      have rest : '\n' ∉ (token.dropWhile (!isGap ·)).dropWhile isGap := fun member =>
        line ((List.dropWhile_suffix _).subset ((List.dropWhile_suffix _).subset member))
      have word : '\n' ∉ token.takeWhile (!isGap ·) := fun member =>
        line ((List.takeWhile_prefix _).subset member)
      rw [List.mem_append, List.mem_append, not_or, not_or]
      refine ⟨?_, printStatusTokenSpan_line word unit, ih rest⟩
      split
      · nofun
      · decide
  | case2 => nofun

/-- A first word, and the words behind it. -/
theorem tokens_line {token : CString} (start : ∀ c ∈ token.head?, isGap c = false)
    (more : token ≠ []) :
    (token.takeWhile (!isGap ·) ≠ [] ∧ ∀ c ∈ token.takeWhile (!isGap ·), isGap c = false) ∧
      tokens isGap token = token.takeWhile (!isGap ·) ::
        tokens isGap ((token.dropWhile (!isGap ·)).dropWhile isGap) := by
  obtain ⟨c, rest, rfl⟩ := List.exists_cons_of_ne_nil more
  have solid : isGap c = false := start c rfl
  have word : (c :: rest).takeWhile (!isGap ·) ≠ [] := by
    rw [List.takeWhile_cons_of_pos (by simp [solid])]
    nofun
  have letters : ∀ d ∈ (c :: rest).takeWhile (!isGap ·), isGap d = false := fun d member => by
    simpa using List.mem_takeWhile_imp member
  refine ⟨⟨word, letters⟩, ?_⟩
  have ends : ∀ d ∈ ((c :: rest).dropWhile (!isGap ·)).head?, isGap d = true := fun d head => by
    simpa using mem_head?_dropWhile (!isGap ·) (c :: rest) d head
  have run := tokens_run word letters ends
  rwa [List.takeWhile_append_dropWhile, ← tokens_dropWhile ((c :: rest).dropWhile _)] at run

/-- The printed first word, and the words printed behind it. -/
theorem printed_line {token : CString} (start : ∀ c ∈ token.head?, isGap c = false)
    (more : token ≠ [])
    (behind : tokens isGap
        (printStatusTokens unit false ((token.dropWhile (!isGap ·)).dropWhile isGap)) =
      (tokens isGap ((token.dropWhile (!isGap ·)).dropWhile isGap)).map fun word =>
        printStatusTokenSpan word unit) :
    tokens isGap (printStatusTokenSpan (token.takeWhile (!isGap ·)) unit ++
        printStatusTokens unit false ((token.dropWhile (!isGap ·)).dropWhile isGap)) =
      (tokens isGap token).map fun word => printStatusTokenSpan word unit := by
  obtain ⟨⟨word, letters⟩, first⟩ := tokens_line start more
  obtain ⟨shown, solid⟩ := printStatusTokenSpan_word word letters unit
  rw [tokens_run shown solid (printStatusTokens_head _), behind, first, List.map_cons]

/-- The words behind the first token are printed one by one. -/
theorem printStatusTokens_words (token : CString) (start : ∀ c ∈ token.head?, isGap c = false) :
    tokens isGap (printStatusTokens unit false token) =
      (tokens isGap token).map fun word => printStatusTokenSpan word unit := by
  generalize here : token.length = count
  induction count using Nat.strong_induction_on generalizing token with
  | _ count ih =>
      by_cases more : token = []
      · rw [more, printStatusTokens_nil]
        rfl
      · have shorter := dropWhile_token_length more
        have behind := ih _ (by omega) ((token.dropWhile (!isGap ·)).dropWhile isGap)
          (fun c head => mem_head?_dropWhile isGap _ c head) rfl
        rw [printStatusTokens, dif_pos more, if_neg Bool.false_ne_true]
        exact (tokens_sep_cons rfl _).trans (printed_line start more behind)

/-- So are all words of a line; a blank in front of the first prints an empty token. -/
theorem printStatusTokens_first (token : CString) :
    tokens isGap (printStatusTokens unit true token) =
      (tokens isGap token).map fun word => printStatusTokenSpan word unit := by
  cases token with
  | nil =>
      rw [printStatusTokens_nil]
      rfl
  | cons c rest =>
      have behind := @printStatusTokens_words unit
        (((c :: rest).dropWhile (!isGap ·)).dropWhile isGap) fun d head =>
          mem_head?_dropWhile isGap _ d head
      rw [printStatusTokens, dif_pos (List.cons_ne_nil c rest), if_pos rfl, List.nil_append]
      cases gap : isGap c with
      | false =>
          refine printed_line (fun d head => ?_) (List.cons_ne_nil c rest) behind
          cases head
          exact gap
      | true =>
          have none : (c :: rest).takeWhile (!isGap ·) = [] :=
            List.takeWhile_cons_of_neg (by simp [gap])
          have all : (c :: rest).dropWhile (!isGap ·) = c :: rest :=
            List.dropWhile_cons_of_neg (by simp [gap])
          have empty : printStatusTokenSpan [] unit = [] :=
            (printStatusTokenSpan_cases [] unit).resolve_right fun word => word.1 rfl
          rw [all, tokens_dropWhile] at behind
          rw [none, all, empty, List.nil_append, behind]

end Words

/-! ## What a word becomes -/

/-- A word that is no temperature is kept, as far as it fits the buffer of a word. -/
theorem printStatusTokenSpan_kept {word : CString} (other : ¬ "temp=".toList <+: word)
    (unit : TempUnit) : printStatusTokenSpan word unit = word.take 127 := by
  have start : ¬ "temp=".toList <+: word.take (128 - 1) := fun here =>
    other (here.trans (List.take_prefix _ _))
  rw [printStatusTokenSpan, printStatusToken, if_neg start]

/-- Up to 238609294 °C the product does not wrap. -/
theorem convertTemp_fahrenheit {celsius : Int} (known : 0 ≤ celsius)
    (small : celsius * 9 ≤ 2 ^ 31 - 1) :
    convertTemp celsius .fahrenheit = celsius * 9 / 5 + 32 := by
  have whole : (celsius * 9).bmod (2 ^ 32) = celsius * 9 :=
    Int.bmod_eq_of_le (by omega) (by omega)
  rw [convertTemp, if_pos rfl, whole, Int.tdiv_eq_ediv_of_nonneg (by omega)]

example : convertTemp 300000000 .fahrenheit = -318993427 := by decide

/-- A temperature of the daemon is converted; one that is not known shows as such. -/
theorem printStatusTokenSpan_temp {celsius : Int}
    (int : -2 ^ 31 ≤ celsius ∧ celsius ≤ 2 ^ 31 - 1) (unit : TempUnit) :
    printStatusTokenSpan ("temp=".toList ++ decimal celsius) unit =
      shownTemp unit (if celsius < 0 then none else some (convertTemp celsius unit)) := by
  have short : (decimal celsius).length ≤ 10 + 1 := by
    refine decimal_length_le (by decide) ?_
    omega
  have whole : ("temp=".toList ++ decimal celsius).take (128 - 1) =
      "temp=".toList ++ decimal celsius := by
    refine List.take_of_length_le ?_
    rw [List.length_append]
    have name : "temp=".toList.length = 5 := by decide
    omega
  obtain ⟨negative, digits, shape, form, value⟩ := decimal_form celsius
  have nothing : ∀ c ∈ ([] : CString).head?, c.isDigit = false := nofun
  have read := strtol_run negative form.ne_nil form.isDigit nothing
  rw [List.append_nil, ← shape, value] at read
  have clipped : max (-2 ^ 63) (min (2 ^ 63 - 1) celsius) = celsius := by omega
  have behind : ("temp=".toList ++ decimal celsius).drop 5 = decimal celsius := rfl
  rw [printStatusTokenSpan, whole, printStatusToken, if_pos (List.prefix_append _ _), behind, read]
  have long : decide (-2 ^ 63 ≤ celsius ∧ celsius ≤ 2 ^ 63 - 1) = true := by
    rw [decide_eq_true_eq]
    omega
  have cast : celsius.bmod (2 ^ 32) = celsius := Int.bmod_eq_of_le (by omega) (by omega)
  rw [long, clipped]
  dsimp only
  rw [if_neg (by simp), cast]
  split
  · rfl
  · rfl

/-- What the user reads of a reply: its lines and its words, with the temperatures converted. -/
structure ShowsReply (unit : TempUnit) (text shown : CString) : Prop where
  words : (lines '\n' shown).map (tokens isGap) =
    (lines '\n' text).map fun line =>
      (tokens isGap line).map fun word => printStatusTokenSpan word unit
  temps : ∀ celsius, -2 ^ 31 ≤ celsius ∧ celsius ≤ 2 ^ 31 - 1 →
    printStatusTokenSpan ("temp=".toList ++ decimal celsius) unit =
      shownTemp unit (if celsius < 0 then none else some (convertTemp celsius unit))
  fahrenheit : ∀ celsius, 0 ≤ celsius → celsius * 9 ≤ 2 ^ 31 - 1 →
    convertTemp celsius .fahrenheit = celsius * 9 / 5 + 32
  others : ∀ word, ¬ "temp=".toList <+: word → printStatusTokenSpan word unit = word.take 127

/--
Line by line and word by word, what is printed is the reply: no word is lost,
added or moved to another line, whatever the text is.
-/
theorem printStatusHuman_shows (unit : TempUnit) (text : CString) :
    ShowsReply unit text (printStatusHuman unit text) where
  temps _ int := printStatusTokenSpan_temp int unit
  fahrenheit _ known small := convertTemp_fahrenheit known small
  others _ other := printStatusTokenSpan_kept other unit
  words := by
    fun_induction printStatusHuman unit text with
    | case1 text more ih =>
        have free : '\n' ∉ printStatusTokens unit true (text.takeWhile (· != '\n')) :=
          printStatusTokens_line (takeWhile_free text)
        rw [lines_append free, lines_scan more, List.map_cons, List.map_cons, ih,
          printStatusTokens_first]
    | case2 text empty =>
        have same : text = [] := by_contra empty
        rw [same]
        rfl

end NitroSense
