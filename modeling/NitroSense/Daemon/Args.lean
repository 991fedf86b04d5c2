import NitroSense.Text

/-!
# The arguments of the daemon

`daemon/args.c`.  A command line is a list of options, and the parser takes it
apart again: nothing that stands for a path is taken for an option.
-/

namespace NitroSense

/-- `daemon_args`, as `daemon_args_init` leaves them. -/
structure DaemonArgs where
  configPath : CString := "/etc/acer-nitro-sense/model.json".toList
  configPathExplicit : Bool := false
  forceModel : Bool := false
  checkConfig : Bool := false
  probe : Bool := false
  validate : Bool := false
  deriving DecidableEq, Repr

/-- The results 0, 1 and -1 of `daemon_args_parse`. -/
inductive ParsedArgs where
  | run (args : DaemonArgs)
  | help
  | invalid
  deriving DecidableEq, Repr

def daemonArgsLoop : List CString → DaemonArgs → ParsedArgs
  | [], args => .run args
  | arg :: rest, args =>
      if arg = "--config".toList then
        match rest with
        | [] => .invalid
        | path :: rest =>
            daemonArgsLoop rest { args with configPath := path, configPathExplicit := true }
      else if arg = "--force-model".toList then daemonArgsLoop rest { args with forceModel := true }
      else if arg = "--check-config".toList then
        daemonArgsLoop rest { args with checkConfig := true }
      else if arg = "--probe".toList then daemonArgsLoop rest { args with probe := true }
      else if arg = "--validate-model".toList then
        daemonArgsLoop rest { args with validate := true }
      else if arg = "--help".toList then .help
      else .invalid

/-- `daemon_args_parse`; the first argument is the name of the program. -/
def daemonArgsParse (argv : List CString) : ParsedArgs := daemonArgsLoop argv.tail {}

/-! ## Options -/

inductive DaemonOption where
  | config (path : CString)
  | forceModel
  | checkConfig
  | probe
  | validate
  deriving DecidableEq, Repr

namespace DaemonOption

def words : DaemonOption → List CString
  | config path => ["--config".toList, path]
  | forceModel => ["--force-model".toList]
  | checkConfig => ["--check-config".toList]
  | probe => ["--probe".toList]
  | validate => ["--validate-model".toList]

def set (args : DaemonArgs) : DaemonOption → DaemonArgs
  | config path => { args with configPath := path, configPathExplicit := true }
  | forceModel => { args with forceModel := true }
  | checkConfig => { args with checkConfig := true }
  | probe => { args with probe := true }
  | validate => { args with validate := true }

end DaemonOption

open DaemonOption

/-- The options of a command line are taken one by one. -/
theorem daemonArgsLoop_option (option : DaemonOption) (rest : List CString) (args : DaemonArgs) :
    daemonArgsLoop (option.words ++ rest) args = daemonArgsLoop rest (option.set args) := by
  cases option with
  | config path => rfl
  | forceModel =>
      rw [words, List.singleton_append, daemonArgsLoop.eq_def]
      exact (if_neg (by decide)).trans (if_pos rfl)
  | checkConfig =>
      rw [words, List.singleton_append, daemonArgsLoop.eq_def]
      exact (if_neg (by decide)).trans ((if_neg (by decide)).trans (if_pos rfl))
  | probe =>
      rw [words, List.singleton_append, daemonArgsLoop.eq_def]
      exact (if_neg (by decide)).trans ((if_neg (by decide)).trans
        ((if_neg (by decide)).trans (if_pos rfl)))
  | validate =>
      rw [words, List.singleton_append, daemonArgsLoop.eq_def]
      exact (if_neg (by decide)).trans ((if_neg (by decide)).trans
        ((if_neg (by decide)).trans ((if_neg (by decide)).trans (if_pos rfl))))

theorem daemonArgsLoop_options (options : List DaemonOption) (rest : List CString)
    (args : DaemonArgs) :
    daemonArgsLoop (options.flatMap words ++ rest) args =
      daemonArgsLoop rest (options.foldl set args) := by
  induction options generalizing args with
  | nil => rfl
  | cons option options ih =>
      rw [List.flatMap_cons, List.append_assoc, daemonArgsLoop_option, ih, List.foldl_cons]

theorem daemonArgsLoop_help (behind : List CString) (args : DaemonArgs) :
    daemonArgsLoop ("--help".toList :: behind) args = .help := by
  rw [daemonArgsLoop.eq_def]
  exact (if_neg (by decide)).trans ((if_neg (by decide)).trans ((if_neg (by decide)).trans
    ((if_neg (by decide)).trans ((if_neg (by decide)).trans (if_pos rfl)))))

/-- What a command line says: a list of options, or one in front of a call for help. -/
inductive ArgsMean (args : DaemonArgs) : List CString → ParsedArgs → Prop where
  | run (options : List DaemonOption) :
      ArgsMean args (options.flatMap words) (.run (options.foldl set args))
  | help (options : List DaemonOption) (behind : List CString) :
      ArgsMean args (options.flatMap words ++ "--help".toList :: behind) .help

theorem ArgsMean.option {args : DaemonArgs} {argv : List CString} {parsed : ParsedArgs}
    (option : DaemonOption) (means : ArgsMean (option.set args) argv parsed) :
    ArgsMean args (option.words ++ argv) parsed := by
  cases means with
  | run options => exact .run (option :: options)
  | help options behind =>
      rw [← List.append_assoc]
      exact .help (option :: options) behind

/-- A command line that is not refused says what it is parsed as. -/
theorem daemonArgsLoop_means (argv : List CString) (args : DaemonArgs) :
    daemonArgsLoop argv args = .invalid ∨ ArgsMean args argv (daemonArgsLoop argv args) := by
  fun_induction daemonArgsLoop argv args with
  | case1 args => exact Or.inr (.run [])
  | case2 args => exact Or.inl rfl
  | case3 args path rest ih => exact ih.imp_right fun means => .option (.config path) means
  | case4 rest args _ ih => exact ih.imp_right fun means => .option .forceModel means
  | case5 rest args _ _ ih => exact ih.imp_right fun means => .option .checkConfig means
  | case6 rest args _ _ _ ih => exact ih.imp_right fun means => .option .probe means
  | case7 rest args _ _ _ _ ih => exact ih.imp_right fun means => .option .validate means
  | case8 rest args => exact Or.inr (.help [] rest)
  | case9 => exact Or.inl rfl

/-- The parser accepts exactly the command lines that say something, as what they say. -/
theorem daemonArgsParse_iff (argv : List CString) (parsed : ParsedArgs)
    (accepted : parsed ≠ .invalid) :
    daemonArgsParse argv = parsed ↔ ArgsMean {} argv.tail parsed := by
  constructor
  · rintro rfl
    exact (daemonArgsLoop_means argv.tail {}).resolve_left accepted
  · intro means
    unfold daemonArgsParse
    generalize argv.tail = line at means
    cases means with
    | run options =>
        have all := daemonArgsLoop_options options [] {}
        rw [List.append_nil] at all
        exact all
    | help options behind => rw [daemonArgsLoop_options, daemonArgsLoop_help]

/-- A path that looks like an option is a path. -/
theorem daemonArgsParse_iff_probe :
    daemonArgsParse ["daemon".toList, "--probe".toList, "--config".toList, "--help".toList] =
      .run { configPath := "--help".toList, configPathExplicit := true, probe := true } := by
  refine (daemonArgsParse_iff _ _ ?_).mpr (.run [.probe, .config "--help".toList])
  intro same
  cases same

end NitroSense
