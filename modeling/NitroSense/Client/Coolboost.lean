import NitroSense.Client.Status
import NitroSense.Commands.Registry
import NitroSense.Daemon.StatusRoom
import NitroSense.Lib.JsonSearch

/-!
# The cool boost of the status file

Without an answer of the daemon, the client searches the text of the status
file for two members.  For every state of the daemon, and whatever its strings
hold, the search finds what the daemon would have answered.
-/

namespace NitroSense

open Lib

/-! ## The document -/

section Document

variable {key : String} {scalars : List (String × Scalar)}

theorem scalar_not_holdsTrue (scalar : Scalar) : ¬ scalar.json.HoldsTrue key.toList := by
  cases scalar <;> exact id

theorem scalar_json_true {scalar : Scalar} : scalar.json = .bool true ↔ scalar = .bool true := by
  cases scalar <;> simp [Scalar.json]

/-- Among printed values a search finds the one that has the key. -/
theorem scalarMember_holds (plain : PlainKeys scalars) {scalar : String × Scalar}
    (member : scalar ∈ scalars) :
    ((scalarMember scalar).1.raw = key.toList ∧ (scalarMember scalar).2 = .bool true ∨
      (scalarMember scalar).2.HoldsTrue key.toList) ↔ scalar.1 = key ∧ scalar.2 = .bool true := by
  have spelled : PlainText scalar.1.toList :=
    List.all_eq_true.mp plain scalar.1 (List.mem_map_of_mem member)
  rw [scalarMember, (key_plain spelled).1, scalar_json_true, or_iff_left (scalar_not_holdsTrue _)]
  simp only [String.toList_inj]

/-- With one value for every key it is the value of the key that is true. -/
theorem keyed_true_iff (nodup : (scalars.map Prod.fst).Nodup) {value : Bool}
    (member : (key, Scalar.bool value) ∈ scalars) :
    (∃ scalar ∈ scalars, scalar.1 = key ∧ scalar.2 = .bool true) ↔ value = true := by
  constructor
  · rintro ⟨scalar, listed, same, isTrue⟩
    have found := List.inj_on_of_nodup_map nodup listed member same
    rw [found] at isTrue
    cases isTrue
    rfl
  · rintro rfl
    exact ⟨_, member, rfl, rfl⟩

theorem scalarMember_quoteFree (plain : PlainKeys scalars) {scalar : String × Scalar}
    (member : scalar ∈ scalars) :
    '"' ∉ (scalarMember scalar).1.raw ∧ (scalarMember scalar).2.QuoteFreeKeys := by
  have spelled : PlainText scalar.1.toList :=
    List.all_eq_true.mp plain scalar.1 (List.mem_map_of_mem member)
  refine ⟨?_, ?_⟩
  · rw [scalarMember, (key_plain spelled).1]
    intro quote
    cases List.all_eq_true.mp spelled '"' quote
  · rw [scalarMember]
    cases scalar.2 <;> trivial

theorem inlineObject_holdsTrue (plain : PlainKeys scalars) :
    (inlineObject scalars).HoldsTrue key.toList ↔
      ∃ scalar ∈ scalars, scalar.1 = key ∧ scalar.2 = .bool true := by
  rw [inlineObject, Json.HoldsTrue, Json.membersHoldTrue_lay]
  constructor
  · rintro ⟨_, listed, holds⟩
    obtain ⟨scalar, member, rfl⟩ := List.mem_map.mp listed
    exact ⟨scalar, member, (scalarMember_holds plain member).mp holds⟩
  · rintro ⟨scalar, member, holds⟩
    exact ⟨_, List.mem_map_of_mem member, (scalarMember_holds plain member).mpr holds⟩

theorem inlineObject_quoteFree (plain : PlainKeys scalars) :
    (inlineObject scalars).QuoteFreeKeys := by
  refine Json.membersQuoteFree_lay fun _ listed => ?_
  obtain ⟨scalar, member, rfl⟩ := List.mem_map.mp listed
  exact scalarMember_quoteFree plain member

end Document

namespace StatusReport

variable (report : StatusReport)

/-- A key of the file that is no key of a fan is found where it is true. -/
theorem document_holdsTrue {key : String} (notFans : "fans" ≠ key) (notFan : key ∉ fanKeys) :
    report.document.HoldsTrue key.toList ↔
      ∃ scalar ∈ report.scalars, scalar.1 = key ∧ scalar.2 = .bool true := by
  have fans : ¬ (lineArray ((List.range report.cfg.fanLen).map report.fanObject)).HoldsTrue
      key.toList := by
    rw [lineArray, Json.HoldsTrue, Json.itemsHoldTrue_lay]
    rintro ⟨_, listed, holds⟩
    obtain ⟨index, -, rfl⟩ := List.mem_map.mp listed
    rw [fanObject, inlineObject_holdsTrue (report.fanScalars_plain index)] at holds
    obtain ⟨scalar, member, rfl, -⟩ := holds
    refine notFan ?_
    rw [← fanScalars_keys report.cfg report.states report.names report.firmwareMode index]
    exact List.mem_map_of_mem member
  have fansKey : (StringToken.key "fans").raw = "fans".toList := (key_plain (by decide)).1
  rw [document, Json.HoldsTrue, Json.membersHoldTrue_lay]
  constructor
  · rintro ⟨_, listed, holds⟩
    rcases List.mem_append.mp listed with known | last
    · obtain ⟨scalar, member, rfl⟩ := List.mem_map.mp known
      exact ⟨scalar, member, (scalarMember_holds report.scalars_plain member).mp holds⟩
    · rw [List.mem_singleton.mp last] at holds
      rcases holds with ⟨same, -⟩ | inside
      · rw [fansKey, String.toList_inj] at same
        exact absurd same notFans
      · exact absurd inside fans
  · rintro ⟨scalar, member, holds⟩
    exact ⟨_, List.mem_append_left _ (List.mem_map_of_mem member),
      (scalarMember_holds report.scalars_plain member).mpr holds⟩

theorem document_quoteFree : report.document.QuoteFreeKeys := by
  refine Json.membersQuoteFree_lay fun _ listed => ?_
  rcases List.mem_append.mp listed with known | last
  · obtain ⟨scalar, member, rfl⟩ := List.mem_map.mp known
    exact scalarMember_quoteFree report.scalars_plain member
  · rw [List.mem_singleton.mp last]
    refine ⟨?_, Json.itemsQuoteFree_lay fun _ listed => ?_⟩
    · rw [(key_plain (by decide)).1]
      decide
    · obtain ⟨index, -, rfl⟩ := List.mem_map.mp listed
      exact inlineObject_quoteFree (report.fanScalars_plain index)

theorem search_document {key : String} (word : SearchKey key.toList) (notFans : "fans" ≠ key)
    (notFan : key ∉ fanKeys) :
    findSub (trueMember key.toList) (report.document.text ++ "\n".toList) ≠ none ↔
      ∃ scalar ∈ report.scalars, scalar.1 = key ∧ scalar.2 = .bool true := by
  have ended : Ended "\n".toList := ended_cons rfl
  rw [Ne, findSub_eq_none_iff, not_not,
    Json.trueMember_infix_iff word report.document_quoteFree ended (by decide),
    report.document_holdsTrue notFans notFan]

theorem scalars_nodup : (report.scalars.map Prod.fst).Nodup := by
  rw [report.scalars_keys]
  decide

theorem coolboost_listed :
    (∃ scalar ∈ report.scalars, scalar.1 = "coolboost" ∧ scalar.2 = .bool true) ↔
      report.coolboostEnabled = true :=
  keyed_true_iff report.scalars_nodup (List.mem_of_getElem? (i := 6) rfl)

theorem coolboostAvailable_listed :
    (∃ scalar ∈ report.scalars, scalar.1 = "coolboost_available" ∧ scalar.2 = .bool true) ↔
      report.cfg.fanModes.available = true :=
  keyed_true_iff report.scalars_nodup (List.mem_of_getElem? (i := 5) rfl)

/-- The file is read whole. -/
theorem readTextFile_document (short : (report.document.text ++ "\n".toList).length ≤ 64 * 1024) :
    readTextFile (64 * 1024) (report.document.text ++ "\n".toList) =
      report.document.text ++ "\n".toList := by
  have odd : Json.IsControl '\x00' := ⟨by decide, rfl⟩
  rw [readTextFile, List.take_of_length_le short, List.takeWhile_eq_self_iff]
  intro c member
  rw [decide_eq_true_eq]
  rintro rfl
  rcases List.mem_append.mp member with inside | last
  · exact odd.not_text report.document inside
  · cases List.mem_singleton.mp last

/-- What the client reads in the file is what the daemon would answer. -/
theorem coolboostFromFile_document
    (short : (report.document.text ++ "\n".toList).length ≤ 64 * 1024) :
    coolboostFromFile (report.document.text ++ "\n".toList) =
      replyCoolboostStatus report.cfg report.coolboostEnabled := by
  have enabledWord : SearchKey "coolboost".toList :=
    ⟨by decide, by decide, 'c', _, rfl, by decide, by decide⟩
  have availableWord : SearchKey "coolboost_available".toList :=
    ⟨by decide, by decide, 'c', _, rfl, by decide, by decide⟩
  have enabled := (report.search_document enabledWord (by decide) (by decide)).trans
    report.coolboost_listed
  have available := (report.search_document availableWord (by decide) (by decide)).trans
    report.coolboostAvailable_listed
  have enabledNeedle : "\"coolboost\": true".toList = trueMember "coolboost".toList := by decide
  have availableNeedle : "\"coolboost_available\": true".toList =
      trueMember "coolboost_available".toList := by decide
  rw [coolboostFromFile, report.readTextFile_document short, enabledNeedle, availableNeedle,
    replyCoolboostStatus]
  cases isAvailable : report.cfg.fanModes.available with
  | false =>
      rw [isAvailable] at available
      have absent := not_not.mp (mt available.mp (by decide))
      rw [if_pos absent]
      rfl
  | true =>
      rw [if_neg (available.mpr isAvailable), if_pos rfl]
      cases isEnabled : report.coolboostEnabled with
      | false =>
          rw [isEnabled] at enabled
          rw [if_pos (not_not.mp (mt enabled.mp (by decide)))]
          rfl
      | true =>
          rw [if_neg (enabled.mpr isEnabled)]
          rfl

end StatusReport

/-! ## The command of the client -/

/-- The daemon tells everyone. -/
theorem executeCommand_coolboostStatus (cfg : AnsConfig) (daemon : Daemon) (canControl : Bool) :
    (executeCommand cfg daemon "coolboost status".toList canControl).2 =
      replyCoolboostStatus cfg daemon.coolboostEnabled :=
  rfl

theorem replyCoolboostStatus_short (cfg : AnsConfig) (enabled : Bool) :
    nul ∉ replyCoolboostStatus cfg enabled ∧ (replyCoolboostStatus cfg enabled).length ≤ 255 := by
  rw [replyCoolboostStatus]
  cases cfg.fanModes.available with
  | false => exact ⟨by decide +revert, by decide +revert⟩
  | true =>
      cases enabled with
      | false => decide
      | true => decide

/-- Without a reply the file is read. -/
theorem clientPrintCoolboostStatus_failed {exchange : Exchange} {code : Int} (failed : code ≠ 0)
    (result : (clientSendCommandCapture "coolboost status\n".toList 256 exchange).result = some code)
    (bytes : List Char) :
    clientPrintCoolboostStatus exchange (some bytes) =
      { result := some 0, stdout := coolboostFromFile bytes } := by
  unfold clientPrintCoolboostStatus
  dsimp only
  rw [result]
  split
  · rename_i waiting
    cases waiting
  · rename_i zero
    exact absurd (Option.some.inj zero) failed
  · rfl

/--
`coolboost status` of the client prints what the daemon has to say, whether the
daemon answers or the exchange fails and only its status file is left: the file
does not mislead the text search, whatever the strings of the daemon hold.
-/
theorem client_coolboost_status {cfg : AnsConfig} {backend : CString} {names : HardwareNames}
    {daemon : Daemon} {bytes : List Char} {exchange : Exchange} {canControl : Bool}
    (written : statusFileText cfg backend names daemon = some bytes)
    (ended : Answers exchange "coolboost status\n".toList
        (executeCommand cfg daemon "coolboost status".toList canControl).2 ∨
      ∃ code, code ≠ 0 ∧
        (clientSendCommandCapture "coolboost status\n".toList 256 exchange).result = some code) :
    clientPrintCoolboostStatus exchange (some bytes) =
      { result := some 0
        stdout := (executeCommand cfg daemon "coolboost status".toList canControl).2 } := by
  rw [executeCommand_coolboostStatus] at ended ⊢
  obtain ⟨noNul, short⟩ := replyCoolboostStatus_short cfg daemon.coolboostEnabled
  rcases ended with answers | ⟨code, failed, result⟩
  · have call := clientSendCommandCapture_answered answers noNul 256
    rw [keptReply, if_pos (by decide), List.take_of_length_le short] at call
    unfold clientPrintCoolboostStatus
    dsimp only
    rw [call]
    rfl
  · have text := (readStatusReport cfg backend names daemon).2.format_eq 8192
    rw [statusFileText, text] at written
    split at written
    · rename_i fits
      have whole := Option.some.inj written
      have read := (readStatusReport cfg backend names daemon).2.coolboostFromFile_document
        (le_trans (Nat.le_of_lt fits) (by decide))
      rw [whole] at read
      rw [clientPrintCoolboostStatus_failed failed result, read]
      rfl
    · cases written

/-- A client that cannot connect, and the status file of a daemon with the shipped profile. -/
theorem client_coolboost_status_unconnected :
    ∃ bytes, AcerNitroAn517.statusReport.format 8192 = some bytes ∧
      clientPrintCoolboostStatus { connects := false } (some bytes) =
        { result := some 0
          stdout := (executeCommand AcerNitroAn517.config (heldDaemon true "auto".toList)
            "coolboost status".toList false).2 } := by
  refine ⟨_, (AcerNitroAn517.statusReport.format_eq 8192).trans (if_pos statusReport_inTypes.fits), ?_⟩
  exact client_coolboost_status
    ((AcerNitroAn517.statusReport.format_eq 8192).trans (if_pos statusReport_inTypes.fits))
    (Or.inr ⟨1, by decide, rfl⟩)

end NitroSense
