import NitroSense.Client.Status

/-!
# The commands of the client

`commands/client/` and `client/parse.c`.  A command line of the user is refused,
handled on the spot, or becomes one line to the daemon.  The arguments are those
of `main`, the name of the program first.
-/

namespace NitroSense

/-- What a command line of the user comes down to. -/
inductive ClientAction where
  | usage
  | refused (message : CString)
  | send (command : CString)
  /-- `client_send_commandf`, with its formatted text. -/
  | sendf (text : CString)
  | stop
  | systemctl (action : CString)
  | printStatus (unit : TempUnit) (json : Bool)
  | printCoolboostStatus
  | validateModel
  | doctor
  deriving DecidableEq, Repr

abbrev ClientHandler := List CString → ClientAction

/-- `argv[i]`, where the handler has checked that there is one. -/
def argument (argv : List CString) (i : Nat) : CString := argv.getD i []

/-- `find_client_platform_subcommand`, `find_client_ec_command` and the loop of `client_run`. -/
def findClientCommand (commands : List (CString × ClientHandler)) (name : CString) :
    Option ClientHandler :=
  (commands.find? fun command => command.1 = name).map Prod.snd

def clientExpectArgc (argv : List CString) (expected : Nat) (action : ClientAction) :
    ClientAction :=
  if argv.length = expected then action else .usage

def clientParsePercent (text : CString) : Option Int := parseIntRange text 1 100 10

def clientParseByteValue (text : CString) : Option Int := parseIntRange text 0 255 0

/-! ## `commands/client/builtin.c` -/

/-- `find_status_option` over `STATUS_OPTIONS`. -/
def findStatusOption (name : CString) : Option (TempUnit × Bool) :=
  if name = "--json".toList then some (.celsius, true)
  else if name = "--celsius".toList then some (.celsius, false)
  else if name = "--fahrenheit".toList then some (.fahrenheit, false)
  else none

def clientHandleStatusCommand : ClientHandler := fun argv =>
  if argv.length > 3 then .usage
  else if argv.length = 3 then
    match findStatusOption (argument argv 2) with
    | none => .usage
    | some option => .printStatus option.1 option.2
  else .printStatus .celsius false

def clientHandleStartCommand : ClientHandler := fun argv =>
  clientExpectArgc argv 2 (.systemctl "start".toList)

def clientHandleRestartCommand : ClientHandler := fun argv =>
  clientExpectArgc argv 2 (.systemctl "restart".toList)

def clientHandleStopCommand : ClientHandler := fun argv => clientExpectArgc argv 2 .stop

def clientHandleAutoCommand : ClientHandler := fun argv =>
  clientExpectArgc argv 2 (.send "auto\n".toList)

def clientHandleFirmwareAutoCommand : ClientHandler := fun argv =>
  clientExpectArgc argv 2 (.send "firmware-auto\n".toList)

def clientHandlePresetsCommand : ClientHandler := fun argv =>
  clientExpectArgc argv 2 (.send "presets\n".toList)

def clientHandleCapabilitiesCommand : ClientHandler := fun argv =>
  clientExpectArgc argv 2 (.send "capabilities\n".toList)

def clientHandleResumeCommand : ClientHandler := fun argv =>
  clientExpectArgc argv 2 (.send "resume\n".toList)

def clientHandleValidateCommand : ClientHandler := fun argv =>
  clientExpectArgc argv 2 .validateModel

def clientHandleDoctorCommand : ClientHandler := fun argv => clientExpectArgc argv 2 .doctor

/-! ## `commands/client/fan.c` -/

def clientHandleEcReadCommand : ClientHandler := fun argv =>
  clientExpectArgc argv 4
    (match clientParseByteValue (argument argv 3) with
    | none => .refused "register must be 0-255\n".toList
    | some start => .sendf ("ec-read ".toList ++ (decimal start ++ "\n".toList)))

def clientHandleEcDumpCommand : ClientHandler := fun argv =>
  clientExpectArgc argv 5
    (match clientParseByteValue (argument argv 3), clientParseByteValue (argument argv 4) with
    | some start, some last =>
        if last < start ∨ last - start > 127 then
          .refused "dump range must be ascending and at most 128 bytes\n".toList
        else
          .sendf ("ec-dump ".toList ++
            (decimal start ++ (" ".toList ++ (decimal last ++ "\n".toList))))
    | _, _ => .refused "registers must be 0-255\n".toList)

def clientEcCommands : List (CString × ClientHandler) :=
  [("read".toList, clientHandleEcReadCommand), ("dump".toList, clientHandleEcDumpCommand)]

/-- A group of commands: the handler of the subcommand, which `other` is for if it is unknown. -/
def clientHandleGroup (commands : List (CString × ClientHandler)) (other : ClientAction) :
    ClientHandler := fun argv =>
  if argv.length < 3 then .usage
  else
    match findClientCommand commands (argument argv 2) with
    | some handler => handler argv
    | none => other

def clientHandleEcCommand : ClientHandler := clientHandleGroup clientEcCommands .usage

def clientHandleSetCommand : ClientHandler := fun argv =>
  clientExpectArgc argv 4
    (match clientParsePercent (argument argv 3) with
    | none => .refused "percent must be 1-100\n".toList
    | some percent =>
        if argument argv 2 ∈ ["cpu".toList, "gpu".toList, "all".toList] then
          .sendf ("set ".toList ++
            (argument argv 2 ++ (" ".toList ++ (decimal percent ++ "\n".toList))))
        else .refused "fan must be cpu, gpu, or all\n".toList)

def clientHandlePresetShowCommand : ClientHandler := fun argv =>
  clientExpectArgc argv 3 (.send "preset-show\n".toList)

def clientHandlePresetCommand : ClientHandler := fun argv =>
  clientExpectArgc argv 3
    (match findClientCommand [("show".toList, clientHandlePresetShowCommand)]
        (argument argv 2) with
    | some handler => handler argv
    | none => .sendf ("preset ".toList ++ (argument argv 2 ++ "\n".toList)))

/-! ## `commands/client/platform.c` -/

/-- A command with one argument from a closed list. -/
def clientHandleListed (name : String) (values : List String) (refusal : String) : ClientHandler :=
  fun argv =>
    clientExpectArgc argv 3
      (if argument argv 2 ∈ values.map String.toList then
        .sendf (name.toList ++ (" ".toList ++ (argument argv 2 ++ "\n".toList)))
      else .refused refusal.toList)

/-- A subcommand with one argument from a closed list. -/
def clientHandleListedValue (name : String) (values : List String) (refusal : String) :
    ClientHandler := fun argv =>
  clientExpectArgc argv 4
    (if argument argv 3 ∈ values.map String.toList then
      .sendf (name.toList ++ (" ".toList ++ (argument argv 3 ++ "\n".toList)))
    else .refused refusal.toList)

def clientHandleCoolboostSetCommand : ClientHandler := fun argv =>
  clientExpectArgc argv 3 (.sendf ("coolboost ".toList ++ (argument argv 2 ++ "\n".toList)))

def clientHandleCoolboostStatusCommand : ClientHandler := fun argv =>
  clientExpectArgc argv 3 .printCoolboostStatus

def clientHandleCoolboostCommand : ClientHandler :=
  clientHandleGroup
    [("on".toList, clientHandleCoolboostSetCommand),
      ("off".toList, clientHandleCoolboostSetCommand),
      ("status".toList, clientHandleCoolboostStatusCommand)]
    (.refused "coolboost must be on, off, or status\n".toList)

def clientHandleFanModeCommand : ClientHandler :=
  clientHandleListed "fan-mode" ["status", "auto", "manual", "turbo"]
    "fan-mode must be status, auto, manual, or turbo\n"

def clientHandleProfileCommand : ClientHandler := fun argv =>
  clientExpectArgc argv 3 (.sendf ("profile ".toList ++ (argument argv 2 ++ "\n".toList)))

def clientHandleGpuTempCommand : ClientHandler :=
  clientHandleListed "gpu-temp" ["status", "auto", "live"]
    "gpu-temp must be status, auto, or live\n"

def clientHandlePowerSourceStatusCommand : ClientHandler := fun argv =>
  clientExpectArgc argv 3 (.send "power-source status\n".toList)

def clientHandlePowerSourceApplyCommand : ClientHandler := fun argv =>
  clientExpectArgc argv 3 (.send "power-source apply\n".toList)

def clientHandlePowerSourceAutoCommand : ClientHandler :=
  clientHandleListedValue "power-source auto" ["on", "off"]
    "power-source auto must be on or off\n"

def clientHandlePowerSourceCommand : ClientHandler :=
  clientHandleGroup
    [("status".toList, clientHandlePowerSourceStatusCommand),
      ("apply".toList, clientHandlePowerSourceApplyCommand),
      ("auto".toList, clientHandlePowerSourceAutoCommand)]
    (.refused "power-source must be status, apply, auto on, or auto off\n".toList)

def clientHandleKeyboardBacklightStatusCommand : ClientHandler := fun argv =>
  clientExpectArgc argv 3 (.send "keyboard-backlight status\n".toList)

/-- The percent is checked as an `int` and sent as a `long`. -/
def clientHandleKeyboardBacklightSetCommand : ClientHandler := fun argv =>
  clientExpectArgc argv 4
    (let percent := strtol 10 (argument argv 3)
    if percent.converted = false ∨ percent.rest ≠ [] ∨
        percent.value.bmod (2 ^ 32) ∉ [(0 : Int), 25, 50, 75, 100] then
      .refused "keyboard-backlight set must be 0, 25, 50, 75, or 100\n".toList
    else .sendf ("keyboard-backlight set ".toList ++ (decimal percent.value ++ "\n".toList)))

def clientHandleKeyboardBacklightTimeoutCommand : ClientHandler :=
  clientHandleListedValue "keyboard-backlight timeout" ["status", "on", "off"]
    "keyboard-backlight timeout must be status, on, or off\n"

def clientHandleKeyboardBacklightCommand : ClientHandler :=
  clientHandleGroup
    [("status".toList, clientHandleKeyboardBacklightStatusCommand),
      ("set".toList, clientHandleKeyboardBacklightSetCommand),
      ("timeout".toList, clientHandleKeyboardBacklightTimeoutCommand)]
    (.refused
      ("keyboard-backlight must be status, set 0|25|50|75|100, or timeout status|on|off\n").toList)

/-! ## `commands/client/dispatch.c` -/

def clientCommands : List (CString × ClientHandler) :=
  [("start".toList, clientHandleStartCommand), ("restart".toList, clientHandleRestartCommand),
    ("stop".toList, clientHandleStopCommand), ("status".toList, clientHandleStatusCommand),
    ("auto".toList, clientHandleAutoCommand),
    ("firmware-auto".toList, clientHandleFirmwareAutoCommand),
    ("presets".toList, clientHandlePresetsCommand),
    ("capabilities".toList, clientHandleCapabilitiesCommand),
    ("resume".toList, clientHandleResumeCommand),
    ("validate".toList, clientHandleValidateCommand), ("doctor".toList, clientHandleDoctorCommand),
    ("coolboost".toList, clientHandleCoolboostCommand),
    ("fan-mode".toList, clientHandleFanModeCommand),
    ("profile".toList, clientHandleProfileCommand),
    ("gpu-temp".toList, clientHandleGpuTempCommand),
    ("power-source".toList, clientHandlePowerSourceCommand),
    ("keyboard-backlight".toList, clientHandleKeyboardBacklightCommand),
    ("ec".toList, clientHandleEcCommand), ("set".toList, clientHandleSetCommand),
    ("preset".toList, clientHandlePresetCommand)]

def clientRun : ClientHandler := fun argv =>
  if argv.length < 2 then .usage
  else
    match findClientCommand clientCommands (argument argv 1) with
    | some handler => handler argv
    | none => .usage

/-! ## What the actions do -/

def clientUsage : CString :=
  ("usage:\n" ++
    "  acer-nitro-sense start|stop|restart|status|capabilities|auto|firmware-auto|presets|" ++
    "resume|validate|doctor\n" ++
    "  acer-nitro-sense status --json|--celsius|--fahrenheit\n" ++
    "  acer-nitro-sense coolboost on|off|status\n" ++
    "  acer-nitro-sense fan-mode status|auto|manual|turbo\n" ++
    "  acer-nitro-sense profile status|quiet|balanced|performance\n" ++
    "  acer-nitro-sense gpu-temp status|auto|live\n" ++
    "  acer-nitro-sense power-source status|apply|auto on|auto off\n" ++
    "  acer-nitro-sense keyboard-backlight status|set 0-100|timeout status|on|off\n" ++
    "  acer-nitro-sense ec read REG\n" ++
    "  acer-nitro-sense ec dump START END\n" ++
    "  acer-nitro-sense set cpu|gpu|all 1-100\n" ++
    "  acer-nitro-sense preset show|silent|quiet|balanced|cool|performance|turbo|max\n").toList

/-- What a command of the client meets: the socket, the status file, and what the commands it
leaves to others return and print. -/
structure ClientHost where
  exchange : Exchange
  statusFile : Option (List Char)
  systemctl : CString → ClientPrint
  validateModel : ClientPrint
  doctor : ClientPrint

def ClientCall.print (call : ClientCall) : ClientPrint :=
  { result := call.result, stdout := call.out }

def ClientAction.perform (host : ClientHost) : ClientAction → ClientPrint
  | usage => { result := some 2, stderr := clientUsage }
  | refused message => { result := some 2, stderr := message }
  | send command => (clientSendCommand command host.exchange).print
  | sendf text =>
      { (clientSendCommandf text host.exchange).print with
        stderr := if text.length ≥ 256 then "command too long\n".toList else [] }
  | stop =>
      let call := clientSendCommand "stop\n".toList host.exchange
      match call.result with
      | none => call.print
      | some 0 => call.print
      | some _ =>
          let child := host.systemctl "stop".toList
          { child with stdout := call.out ++ child.stdout }
  | systemctl action => host.systemctl action
  | printStatus unit json => clientPrintStatus unit json host.exchange host.statusFile
  | printCoolboostStatus => clientPrintCoolboostStatus host.exchange host.statusFile
  | validateModel => host.validateModel
  | doctor => host.doctor

/-- The line an action is sent to the daemon for; `doctor` asks for its report with the fixed lines
of `clientDoctorCommands`. -/
def ClientAction.command : ClientAction → Option CString
  | send command => some command
  | sendf text => if text.length < 256 then some text else none
  | stop => some "stop\n".toList
  | printStatus _ json => if json then none else some "status\n".toList
  | printCoolboostStatus => some "coolboost status\n".toList
  | usage | refused _ | systemctl _ | validateModel | doctor => none

/-! ## What the doctor asks -/

/-- The arguments of `doctor_run_daemon_command`. -/
structure DoctorProbe where
  label : CString
  display : CString
  command : CString

def doctorRunDaemonCommand (probe : DoctorProbe) (exchange : Exchange) : Option CString :=
  let call := clientSendCommandCapture probe.command 4096 exchange
  call.result.map fun result =>
    "$ acer-nitro-sense ".toList ++ (probe.display ++ ("\n".toList ++
      if result = 0 then call.out
      else probe.label ++ "=unavailable reason=daemon-command-failed\n".toList))

/-- The calls of `doctor_run_daemon_command` in `client_doctor`. -/
def doctorProbes : List DoctorProbe :=
  [⟨"coolboost".toList, "coolboost status".toList, "coolboost status\n".toList⟩,
    ⟨"fan_mode".toList, "fan-mode status".toList, "fan-mode status\n".toList⟩,
    ⟨"profile".toList, "profile status".toList, "profile status\n".toList⟩,
    ⟨"gpu_temp".toList, "gpu-temp status".toList, "gpu-temp status\n".toList⟩,
    ⟨"keyboard_backlight".toList, "keyboard-backlight status".toList,
      "keyboard-backlight status\n".toList⟩]

/-- The section `ANS Status` of `client_doctor`. -/
def doctorPrintStatus (exchange : Exchange) (statusFile : Option (List Char)) : Option CString :=
  let call := clientSendCommandCapture "status\n".toList 4096 exchange
  call.result.map fun result =>
    if result = 0 then call.out else (clientPrintStatusFile statusFile).stdout

/-- The lines `client_doctor` sends, in order. -/
def clientDoctorCommands : List CString :=
  "status\n".toList :: doctorProbes.map DoctorProbe.command

end NitroSense
