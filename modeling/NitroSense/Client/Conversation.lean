import NitroSense.Client.Lines
import NitroSense.Control.Socket

/-!
# The client and the daemon

A command line of the user, the line the client sends, the line the daemon
reads and executes, and the reply the client prints.  The socket may cut the
bytes of both directions into any pieces and interrupt every call.  What the
doctor asks leaves the daemon as it was.
-/

namespace NitroSense

open Lib

/-! ## Lines that fit the daemon -/

/-- A command that the daemon reads whole: it ends its line, has a command on it, and fits. -/
structure IsLine (argv : List CString) (text : CString) : Prop where
  ends : '\n' ∈ text
  starts : firstLine text ≠ []
  fits : text.length < 256
  noNul : (∀ word ∈ argv, nul ∉ word) → nul ∉ text

section Lines

variable {argv : List CString} {start middle text : CString}

theorem isLine_of (fits : (start ++ (middle ++ "\n".toList)).length < 256)
    (plain : (!start.isEmpty && start.all (fun c => c != '\n' && c != nul)) = true)
    (strings : (∀ word ∈ argv, nul ∉ word) → nul ∉ middle) :
    IsLine argv (start ++ (middle ++ "\n".toList)) := by
  simp only [Bool.and_eq_true, Bool.not_eq_true', List.isEmpty_eq_false_iff, List.all_eq_true,
    bne_iff_ne] at plain
  obtain ⟨nonempty, plain⟩ := plain
  have noNewline : '\n' ∉ start := fun member => (plain '\n' member).1 rfl
  refine ⟨by simp, ?_, fits, fun words => ?_⟩
  · rw [firstLine_append noNewline]
    exact List.append_ne_nil_of_left_ne_nil nonempty _
  · rw [List.mem_append, List.mem_append]
    rintro (inStart | inMiddle | last)
    · exact (plain nul inStart).2 rfl
    · exact strings words inMiddle
    · cases List.mem_singleton.mp last

theorem decimal_noNul (value : Int) : nul ∉ decimal value := by
  intro member
  rcases mem_decimal member with same | digit
  · cases same
  · cases digit

theorem argument_noNul (words : ∀ word ∈ argv, nul ∉ word) (i : Nat) : nul ∉ argument argv i := by
  rw [argument, List.getD_eq_getElem?_getD]
  cases found : argv[i]? with
  | none => exact nofun
  | some word => exact words word (List.mem_of_getElem? found)

theorem sendf_fits {line : CString} (sent : (ClientAction.sendf line).command = some text) :
    text = line ∧ line.length < 256 := by
  rw [ClientAction.command] at sent
  split at sent
  · rename_i fits
    exact ⟨(Option.some.inj sent).symm, fits⟩
  · cases sent

/-- A formatted line, with a keyword in front and a text without a NUL behind it. -/
theorem sendf_isLine (sent : (ClientAction.sendf (start ++ (middle ++ "\n".toList))).command =
      some text)
    (plain : (!start.isEmpty && start.all (fun c => c != '\n' && c != nul)) = true)
    (strings : (∀ word ∈ argv, nul ∉ word) → nul ∉ middle) : IsLine argv text := by
  obtain ⟨rfl, fits⟩ := sendf_fits sent
  exact isLine_of fits plain strings

/-- A printed number behind a keyword. -/
theorem decimal_isLine {value : Int}
    (sent : (ClientAction.sendf (start ++ (decimal value ++ "\n".toList))).command = some text)
    (plain : (!start.isEmpty && start.all (fun c => c != '\n' && c != nul)) = true) :
    IsLine argv text :=
  sendf_isLine sent plain fun _ => decimal_noNul value

/-- A line of the client's own words. -/
theorem isLine_fixed (plain : (!start.isEmpty && start.all (fun c => c != '\n' && c != nul) &&
    decide (start.length < 255)) = true) : IsLine argv (start ++ "\n".toList) := by
  rw [Bool.and_eq_true, decide_eq_true_eq] at plain
  have fits : (start ++ ([] ++ "\n".toList)).length < 256 := by
    rw [List.length_append]
    exact Nat.succ_lt_succ plain.2
  exact isLine_of fits plain.1 fun _ => List.not_mem_nil

/-- A line with a value of a closed list at its end. -/
theorem isLine_listed {name value : String} {values : List String} (listed : value ∈ values)
    (plain : values.all (fun value =>
      let line := name.toList ++ (" ".toList ++ value.toList)
      !line.isEmpty && line.all (fun c => c != '\n' && c != nul) && decide (line.length < 255)) =
        true) :
    IsLine argv (name.toList ++ (" ".toList ++ (value.toList ++ "\n".toList))) := by
  have line : IsLine argv ((name.toList ++ (" ".toList ++ value.toList)) ++ "\n".toList) :=
    isLine_fixed (List.all_eq_true.mp plain value listed)
  rwa [List.append_assoc, List.append_assoc] at line

theorem fixed_isLine {line : CString} {expected : Nat} {action : ClientAction}
    (isLine : IsLine argv line) (sends : action.command = some line)
    (sent : (clientExpectArgc argv expected action).command = some text) : IsLine argv text := by
  have same := (expectArgc_command sent).symm.trans sends
  cases same
  exact isLine

theorem coolboost_isLine (sent : (clientHandleCoolboostCommand argv).command = some text) :
    IsLine argv text := by
  obtain ⟨handler, listed, sent⟩ := group_command rfl sent
  simp only [List.mem_cons, Prod.mk.injEq, List.not_mem_nil, or_false] at listed
  have set (sent : (clientHandleCoolboostSetCommand argv).command = some text) :
      IsLine argv text :=
    sendf_isLine (expectArgc_command sent) (by decide) fun words => argument_noNul words 2
  rcases listed with ⟨-, rfl⟩ | ⟨-, rfl⟩ | ⟨-, rfl⟩
  · exact set sent
  · exact set sent
  · have line : IsLine argv ("coolboost status".toList ++ "\n".toList) := isLine_fixed (by decide)
    exact fixed_isLine line rfl sent

theorem powerSource_isLine (sent : (clientHandlePowerSourceCommand argv).command = some text) :
    IsLine argv text := by
  obtain ⟨handler, listed, sent⟩ := group_command rfl sent
  simp only [List.mem_cons, Prod.mk.injEq, List.not_mem_nil, or_false] at listed
  have status : IsLine argv ("power-source status".toList ++ "\n".toList) :=
    isLine_fixed (by decide)
  have apply' : IsLine argv ("power-source apply".toList ++ "\n".toList) := isLine_fixed (by decide)
  rcases listed with ⟨-, rfl⟩ | ⟨-, rfl⟩ | ⟨-, rfl⟩
  · exact fixed_isLine status rfl sent
  · exact fixed_isLine apply' rfl sent
  · obtain ⟨value, allowed, -, rfl⟩ := listedValue_command sent
    exact isLine_listed allowed (by decide)

theorem keyboard_isLine
    (sent : (clientHandleKeyboardBacklightCommand argv).command = some text) :
    IsLine argv text := by
  obtain ⟨handler, listed, sent⟩ := group_command rfl sent
  simp only [List.mem_cons, Prod.mk.injEq, List.not_mem_nil, or_false] at listed
  have status : IsLine argv ("keyboard-backlight status".toList ++ "\n".toList) :=
    isLine_fixed (by decide)
  rcases listed with ⟨-, rfl⟩ | ⟨-, rfl⟩ | ⟨-, rfl⟩
  · exact fixed_isLine status rfl sent
  · have sent := expectArgc_command sent
    dsimp only at sent
    split at sent
    · cases sent
    · exact decimal_isLine sent (by decide)
  · obtain ⟨value, allowed, -, rfl⟩ := listedValue_command sent
    exact isLine_listed allowed (by decide)

theorem ec_isLine (sent : (clientHandleEcCommand argv).command = some text) :
    IsLine argv text := by
  obtain ⟨handler, listed, sent⟩ := group_command rfl sent
  simp only [clientEcCommands, List.mem_cons, Prod.mk.injEq, List.not_mem_nil, or_false] at listed
  rcases listed with ⟨-, rfl⟩ | ⟨-, rfl⟩
  · have sent := expectArgc_command sent
    split at sent
    · cases sent
    · exact decimal_isLine sent (by decide)
  · have sent := expectArgc_command sent
    split at sent
    · rename_i start last _ _
      split at sent
      · cases sent
      · have numbers : decimal start ++ (" ".toList ++ (decimal last ++ "\n".toList)) =
            (decimal start ++ (" ".toList ++ decimal last)) ++ "\n".toList := by
          rw [List.append_assoc, List.append_assoc]
        rw [numbers] at sent
        refine sendf_isLine sent (by decide) fun _ => ?_
        have blank : nul ∉ " ".toList := by decide
        rw [List.mem_append, List.mem_append, not_or, not_or]
        exact ⟨decimal_noNul start, blank, decimal_noNul last⟩
    · cases sent

theorem set_isLine (sent : (clientHandleSetCommand argv).command = some text) :
    IsLine argv text := by
  have sent := expectArgc_command sent
  split at sent
  · cases sent
  · rename_i percent _
    split at sent
    · rename_i listed
      have fans : (["cpu".toList, "gpu".toList, "all".toList].all fun fan =>
          let line := "set ".toList ++ (fan ++ " ".toList)
          !line.isEmpty && line.all (fun c => c != '\n' && c != nul)) = true := by decide
      have plain := List.all_eq_true.mp fans _ listed
      have number : "set ".toList ++ (argument argv 2 ++ (" ".toList ++
          (decimal percent ++ "\n".toList))) =
          ("set ".toList ++ (argument argv 2 ++ " ".toList)) ++ (decimal percent ++ "\n".toList) := by
        rw [List.append_assoc, List.append_assoc]
      rw [number] at sent
      exact decimal_isLine sent plain
    · cases sent

theorem preset_isLine (sent : (clientHandlePresetCommand argv).command = some text) :
    IsLine argv text := by
  have sent := expectArgc_command sent
  split at sent
  · rename_i handler found
    have listed := findClientCommand_mem found
    simp only [List.mem_cons, Prod.mk.injEq, List.not_mem_nil, or_false] at listed
    obtain ⟨-, rfl⟩ := listed
    have line : IsLine argv ("preset-show".toList ++ "\n".toList) := isLine_fixed (by decide)
    exact fixed_isLine line rfl sent
  · exact sendf_isLine sent (by decide) fun words => argument_noNul words 2

theorem status_isLine (sent : (clientHandleStatusCommand argv).command = some text) :
    IsLine argv text := by
  have line : IsLine argv ("status".toList ++ "\n".toList) := isLine_fixed (by decide)
  rw [status_command sent]
  exact line

/-- Every command of the client is a line that the daemon reads whole. -/
theorem client_isLine (sent : (clientRun argv).command = some text) : IsLine argv text := by
  obtain ⟨handler, listed, sent⟩ := clientRun_command sent
  simp only [clientCommands, List.mem_cons, Prod.mk.injEq, List.not_mem_nil, or_false] at listed
  have fixed {w : CString} {action : ClientAction} {expected : Nat}
      (plain : (!w.isEmpty && w.all (fun c => c != '\n' && c != nul) &&
        decide (w.length < 255)) = true)
      (sends : action.command = some (w ++ "\n".toList))
      (sent : (clientExpectArgc argv expected action).command = some text) : IsLine argv text :=
    fixed_isLine (isLine_fixed plain) sends sent
  rcases listed with ⟨-, rfl⟩ | ⟨-, rfl⟩ | ⟨-, rfl⟩ | ⟨-, rfl⟩ | ⟨-, rfl⟩ | ⟨-, rfl⟩ | ⟨-, rfl⟩ |
    ⟨-, rfl⟩ | ⟨-, rfl⟩ | ⟨-, rfl⟩ | ⟨-, rfl⟩ | ⟨-, rfl⟩ | ⟨-, rfl⟩ | ⟨-, rfl⟩ | ⟨-, rfl⟩ |
    ⟨-, rfl⟩ | ⟨-, rfl⟩ | ⟨-, rfl⟩ | ⟨-, rfl⟩ | ⟨-, rfl⟩
  · cases expectArgc_command sent
  · cases expectArgc_command sent
  · exact fixed (w := "stop".toList) (by decide) rfl sent
  · exact status_isLine sent
  · exact fixed (w := "auto".toList) (by decide) rfl sent
  · exact fixed (w := "firmware-auto".toList) (by decide) rfl sent
  · exact fixed (w := "presets".toList) (by decide) rfl sent
  · exact fixed (w := "capabilities".toList) (by decide) rfl sent
  · exact fixed (w := "resume".toList) (by decide) rfl sent
  · cases expectArgc_command sent
  · cases expectArgc_command sent
  · exact coolboost_isLine sent
  · obtain ⟨value, allowed, -, rfl⟩ := listed_command sent
    exact isLine_listed allowed (by decide)
  · exact sendf_isLine (expectArgc_command sent) (by decide) fun words => argument_noNul words 2
  · obtain ⟨value, allowed, -, rfl⟩ := listed_command sent
    exact isLine_listed allowed (by decide)
  · exact powerSource_isLine sent
  · exact keyboard_isLine sent
  · exact ec_isLine sent
  · exact set_isLine sent
  · exact preset_isLine sent

end Lines

/-! ## A conversation -/

/-- What a command prints of its reply. -/
def ClientAction.shows (reply : CString) : ClientAction → CString
  | printStatus unit _ => printStatusHuman unit (keptReply 4096 reply)
  | printCoolboostStatus => keptReply 256 reply
  | usage | refused _ | send _ | sendf _ | stop | systemctl _ | validateModel | doctor => reply

/-- A command that gets its reply succeeds and prints it. -/
theorem ClientAction.perform_answered {action : ClientAction} {host : ClientHost}
    {text reply : CString} (sends : action.command = some text)
    (answers : Answers host.exchange text reply) (noNul : nul ∉ reply) :
    action.perform host = { result := some 0, stdout := action.shows reply } := by
  have call (outLen : Nat) := clientSendCommandCapture_answered answers noNul outLen
  cases action with
  | send command =>
      cases sends
      rw [perform, clientSendCommand, call 0]
      rfl
  | sendf line =>
      obtain ⟨rfl, fits⟩ := sendf_fits sends
      have short : ¬ text.length ≥ 256 := by omega
      rw [perform, clientSendCommandf, if_neg short, if_neg short, clientSendCommand, call 0]
      rfl
  | stop =>
      cases sends
      rw [perform, clientSendCommand]
      dsimp only
      rw [call 0]
      rfl
  | printStatus unit json =>
      cases json with
      | true => cases sends
      | false =>
          cases sends
          rw [perform, clientPrintStatus, if_neg (by decide)]
          dsimp only
          rw [call 4096]
          rfl
  | printCoolboostStatus =>
      cases sends
      have answered := call 256
      unfold perform clientPrintCoolboostStatus
      dsimp only
      rw [answered]
      rfl
  | usage => cases sends
  | refused message => cases sends
  | systemctl action => cases sends
  | validateModel => cases sends
  | doctor => cases sends

/-! ## The doctor -/

section Doctor

variable {exchange : Exchange} {reply : CString}

theorem doctorPrintStatus_answered (answers : Answers exchange "status\n".toList reply)
    (noNul : nul ∉ reply) (statusFile : Option (List Char)) :
    doctorPrintStatus exchange statusFile = some (keptReply 4096 reply) := by
  rw [doctorPrintStatus, clientSendCommandCapture_answered answers noNul]
  rfl

theorem doctorRunDaemonCommand_answered {probe : DoctorProbe}
    (answers : Answers exchange probe.command reply) (noNul : nul ∉ reply) :
    doctorRunDaemonCommand probe exchange = some ("$ acer-nitro-sense ".toList ++
      (probe.display ++ ("\n".toList ++ keptReply 4096 reply))) := by
  rw [doctorRunDaemonCommand, clientSendCommandCapture_answered answers noNul]
  rfl

/-- A line of the doctor only looks. -/
theorem doctorCommand_inspects {command : CString} (asked : command ∈ clientDoctorCommands)
    (cfg : AnsConfig) (daemon : Daemon) (canControl : Bool) :
    OnlyInspected daemon (executeCommand cfg daemon (firstLine command) canControl).1 := by
  have silent : ∀ line ∈ clientDoctorCommands, (commandRequest (firstLine line)).isNone := by
    decide
  rcases handleClient_outcome cfg daemon (some (firstLine command)) canControl with
    inspected | ⟨request, requested, -⟩
  · exact inspected
  · -- none of these lines is a request
    cases canControl with
    | true =>
        have line : commandRequest (firstLine command) = some request := requested
        have nothing := silent command asked
        rw [line] at nothing
        cases nothing
    | false => cases requested

/-- However many of its lines the daemon has executed, it is as it was. -/
theorem doctorCommands_inspect {commands : List CString} (asked : commands ⊆ clientDoctorCommands)
    (cfg : AnsConfig) (daemon : Daemon) (canControl : Bool) :
    OnlyInspected daemon (run (fun daemon command =>
      (executeCommand cfg daemon (firstLine command) canControl).1) daemon commands) := by
  induction commands generalizing daemon with
  | nil => exact OnlyInspected.refl daemon
  | cons command commands ih =>
      obtain ⟨first, others⟩ := List.cons_subset.mp asked
      exact (doctorCommand_inspects first cfg daemon canControl).trans (ih others _)

end Doctor

section Served

variable {argv : List CString} {text : CString}

theorem IsLine.split (isLine : IsLine argv text) :
    '\n' ∉ firstLine text ∧ ∃ behind, text = firstLine text ++ '\n' :: behind := by
  obtain ⟨line, behind, rfl, noNewline⟩ := List.eq_append_cons_of_mem isLine.ends
  have first : firstLine (line ++ '\n' :: behind) = line := by
    rw [firstLine_append noNewline]
    exact List.append_nil line
  rw [first]
  exact ⟨noNewline, behind, rfl⟩

/-- The daemon executes the line that arrives, with the permission of its client. -/
theorem serveClient_line (isLine : IsLine argv text) (strings : ∀ word ∈ argv, nul ∉ word)
    {client : Client} {rest : List ReadResult}
    (arrives : client.results.filter ReadResult.settled = text.map .byte ++ rest)
    (cfg : AnsConfig) (accounts : Accounts) (cmd : Nat → Char) (daemon : Daemon) :
    serveClient cfg accounts cmd daemon client =
      executeCommand cfg daemon (firstLine text) (clientCanControl accounts client.peer) := by
  obtain ⟨noNewline, behind, whole⟩ := isLine.split
  have sends : SendsLine client.results (firstLine text) := by
    refine ⟨.byte '\n', behind.map .byte ++ rest, Or.inr rfl, noNewline, ?_⟩
    rw [arrives]
    nth_rewrite 1 [whole]
    rw [List.map_append, List.append_assoc]
    rfl
  have some : 1 ≤ (firstLine text).length := List.length_pos_iff.mpr isLine.starts
  have short : (firstLine text).length ≤ 254 := by
    have length := congrArg List.length whole
    have fits := isLine.fits
    rw [List.length_append, List.length_cons] at length
    omega
  have string : (firstLine text).takeWhile (· != nul) = firstLine text := by
    rw [List.takeWhile_eq_self_iff]
    intro c member
    have inText : c ∈ text := (List.takeWhile_prefix _).subset member
    simpa using fun same : c = nul => isLine.noNul strings (same ▸ inText)
  rw [serveClient, clientCommand_line sends some short, string]
  rfl

end Served

/-- What a conversation comes to: the user sees the reply, the daemon does what it was asked or
refuses, and without the permission it is left as it was. -/
structure Conversation (cfg : AnsConfig) (accounts : Accounts) (cmd : Nat → Char)
    (daemon : Daemon) (client : Client) (argv : List CString) (host : ClientHost) : Prop where
  shown : (clientRun argv).perform host =
    { result := some 0
      stdout := (clientRun argv).shows (serveClient cfg accounts cmd daemon client).2 }
  fulfilled : (askedBy argv).Fulfilled cfg daemon (serveClient cfg accounts cmd daemon client) ∨
    clientCanControl accounts client.peer = false ∧
      serveClient cfg accounts cmd daemon client = (daemon, permissionDenied)
  inspected : clientCanControl accounts client.peer = false →
    OnlyInspected daemon (serveClient cfg accounts cmd daemon client).1

/--
A command line of the user becomes a line to the daemon, which it executes as a
whole; its reply is what the user sees.  The kernel may cut both into any pieces
and interrupt any call.
-/
theorem client_conversation {cfg : AnsConfig} {accounts : Accounts} {cmd : Nat → Char}
    {daemon : Daemon} {client : Client} {argv : List CString} {text : CString} {host : ClientHost}
    {rest : List ReadResult} (sent : (clientRun argv).command = some text)
    (strings : ∀ word ∈ argv, nul ∉ word)
    (arrives : client.results.filter ReadResult.settled = text.map .byte ++ rest)
    (answers : Answers host.exchange text (serveClient cfg accounts cmd daemon client).2)
    (noNul : nul ∉ (serveClient cfg accounts cmd daemon client).2) :
    Conversation cfg accounts cmd daemon client argv host := by
  have served := serveClient_line (client_isLine sent) strings arrives cfg accounts cmd daemon
  obtain ⟨handler, listed, handled⟩ := clientRun_command sent
  have fulfilled := clientCommands_serve listed text handled cfg daemon
  refine ⟨ClientAction.perform_answered sent answers noNul, ?_, ?_⟩
  · cases control : clientCanControl accounts client.peer with
    | true =>
        rw [served, control]
        exact Or.inl fulfilled
    | false =>
        rw [served, control]
        rcases executeCommand_refused_or_same cfg daemon (firstLine text) with refused | same
        · exact Or.inr ⟨rfl, refused⟩
        · exact Or.inl (same ▸ fulfilled)
  · intro noControl
    rcases handleClient_outcome cfg daemon (some (firstLine text)) false with inspected | ⟨_, none, -⟩
    · rw [served, noControl]
      exact inspected
    · cases none

/-- A client that may only look, and the preset it asks for in two pieces. -/
theorem client_conversation_refused :
    Conversation AcerNitroAn517.config ⟨fun _ => none, fun _ => none, none⟩ (fun _ => nul)
      (heldDaemon true "auto".toList) ⟨none, "preset cool\n".toList.map .byte⟩
      ["acer-nitro-sense".toList, "preset".toList, "cool".toList]
      { exchange :=
          { writes := [.done 7, .interrupted, .done 5]
            reads := [.data permissionDenied, .interrupted, .data []] }
        statusFile := none
        systemctl := fun _ => ⟨some 0, [], []⟩
        validateModel := ⟨some 0, [], []⟩
        doctor := ⟨some 0, [], []⟩ } := by
  have sent : (clientRun ["acer-nitro-sense".toList, "preset".toList, "cool".toList]).command =
      some "preset cool\n".toList := rfl
  have arrives : ("preset cool\n".toList.map ReadResult.byte).filter ReadResult.settled =
      "preset cool\n".toList.map .byte ++ [] := rfl
  have piece : Piece permissionDenied := by
    constructor
    · decide
    · decide
  have noNul : nul ∉ permissionDenied := by decide
  apply client_conversation sent
  case strings => decide
  case arrives => exact arrives
  case answers =>
    exact ⟨rfl, rfl, by decide, [permissionDenied], [], rfl,
      List.forall_mem_singleton.mpr piece, rfl⟩
  case noNul => exact noNul

end NitroSense
