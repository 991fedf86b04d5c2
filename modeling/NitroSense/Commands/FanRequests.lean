import NitroSense.Commands.Rejection

/-!
# Which fan requests are kept

A `set` or `preset` line that is not refused should leave each fan it is about
with the percent it asks for.  `set_one` counts the writes that worked, and
`apply_preset` drops even that count, so a fan whose own write fails keeps the
request it had while the reply tells the new one.
-/

namespace NitroSense

open Lib EcDevice

/-- The percent a request asks of fan `i`, when it is about that fan. -/
def Request.asks (cfg : AnsConfig) (i : Nat) : Request → Option Int
  | set fan percent _ => if SelectsFan cfg fan i then some percent else none
  | preset name _ =>
      (configFindPreset cfg name).bind fun preset =>
        if (cfg.fan i).id = "cpu".toList then some preset.cpu
        else if (cfg.fan i).id = "gpu".toList then some preset.gpu
        else none
  | _ => none

/-- Unless it replies an error, a command leaves every fan with the percent it asks for. -/
def LosesNoRequest (cfg : AnsConfig) (request : Option Request) (result : Daemon × CString) : Prop :=
  ¬ IsError result.2 → ∀ asked ∈ request, ∀ i < cfg.fanLen, ∀ percent ∈ asked.asks cfg i,
    (result.1.states i).requestedPercent = percent

/-! ## When a request is kept -/

/-- The request of a fan behind its write, the one at `place` among those to come. -/
def takenRequest (ec : EcDevice) (place : Nat) (held asked : Int) : Int :=
  if ec.writeFails (ec.writes.length + place) then held else clampInt asked 1 100

/-- The request fan `i` holds when the command sets it: disabling CoolBoost writes it once more. -/
def heldRequest (cfg : AnsConfig) (daemon : Daemon) (i : Nat) : Int :=
  if daemon.coolboostEnabled = false ∨ cfg.fanModes.available = false ∨
      daemon.ec.writeFails daemon.ec.writes.length ∨
        daemon.ec.writeFails (daemon.ec.writes.length + 1) then
    (daemon.states i).requestedPercent
  else
    takenRequest daemon.ec (2 + i) (daemon.states i).requestedPercent
      (daemon.states i).statusRequestedPercent

/-- The place of the write of fan `i` among the speeds a request writes. -/
def Request.speedPlace (cfg : AnsConfig) (i : Nat) : Request → Nat
  | set fan _ _ => selectedFans cfg fan i
  | preset _ _ =>
      if (cfg.fan i).id = "cpu".toList then selectedFans cfg "cpu".toList i
      else selectedFans cfg "cpu".toList cfg.fanLen + selectedFans cfg "gpu".toList i
  | _ => 0

def SpeedWorks (cfg : AnsConfig) (daemon : Daemon) (request : Request) (i : Nat) : Prop :=
  daemon.ec.writeFails
    (switchStart cfg daemon + (if cfg.fanModes.available then 2 else 0) +
      request.speedPlace cfg i) = false

/-- The commands for fans that are not refused. -/
def FanRequestAccepted (cfg : AnsConfig) (daemon : Daemon) : Request → Prop
  | .set fan _ _ => SwitchWorks cfg daemon ∧ SomeFanTakesSpeed cfg daemon fan
  | .preset _ _ => SwitchWorks cfg daemon
  | _ => True

/-- Each fan of an accepted request takes its speed, or has held that request before. -/
def TakesEveryRequest (cfg : AnsConfig) (daemon : Daemon) (request : Option Request) : Prop :=
  ∀ asked ∈ request, FanRequestAccepted cfg daemon asked →
    ∀ i < cfg.fanLen, ∀ percent ∈ asked.asks cfg i,
      SpeedWorks cfg daemon asked i ∨ heldRequest cfg daemon i = percent

/-! ## What setting fans leaves as their requests -/

section SetFans

variable {cfg : AnsConfig} {bank : FanBank}

/-- A fan write records the request when it works. -/
theorem setFanPercent_requestedAt (bank : FanBank) (i : Nat) (percent : Int)
    (forced : SafetyReason) :
    ((setFanPercent cfg bank i percent forced).1.states i).requestedPercent =
      takenRequest bank.ec 0 (bank.states i).requestedPercent percent := by
  rw [setFanPercent_state_self, takenRequest, Nat.add_zero, nextWriteOk]
  cases bank.ec.writeFails bank.ec.writes.length with
  | true => rfl
  | false => rfl

theorem takenRequest_after {made place : Nat} {before after : EcDevice}
    (writes : MakesWrites made before after) (held asked : Int) :
    takenRequest after place held asked = takenRequest before (made + place) held asked := by
  rw [takenRequest, writes.writeFails, writes.length, Nat.add_assoc, takenRequest]

/-- The first `count` fans have had their turn: each selected one was written at its place. -/
structure FansSet (selected : Nat → Bool) (asked : Nat → Int) (before : FanBank) (count : Nat)
    (after : FanBank) : Prop where
  made : MakesWrites ((List.range count).countP selected) before.ec after.ec
  untouched : ∀ i, count ≤ i → after.states i = before.states i
  taken : ∀ i < count, (after.states i).requestedPercent =
    if selected i then
      takenRequest before.ec ((List.range i).countP selected) (before.states i).requestedPercent
        (asked i)
    else (before.states i).requestedPercent

/-- A fan that is not selected has no turn. -/
theorem FansSet.skip {selected : Nat → Bool} {asked : Nat → Int} {count : Nat} {later : FanBank}
    (before : FansSet selected asked bank count later) (skipped : selected count = false) :
    FansSet selected asked bank (count + 1) later := by
  constructor
  · rw [countP_range_succ, skipped]
    exact before.made
  · intro i above
    exact before.untouched i (by omega)
  · intro i upTo
    rcases Nat.lt_succ_iff_lt_or_eq.mp upTo with below | rfl
    · exact before.taken i below
    · rw [skipped, before.untouched i le_rfl]
      rfl

/-- A selected fan is written behind those before it. -/
theorem FansSet.write {selected : Nat → Bool} {asked : Nat → Int} {count : Nat} {later : FanBank}
    (before : FansSet selected asked bank count later) (chosen : selected count = true)
    (forced : SafetyReason) :
    FansSet selected asked bank (count + 1)
      (setFanPercent cfg later count (asked count) forced).1 := by
  constructor
  · rw [countP_range_succ, chosen]
    exact before.made.trans (setFanPercent_makesWrites count _ _)
  · intro i above
    rw [setFanPercent_state_ne cfg later count _ _ (by omega)]
    exact before.untouched i (by omega)
  · intro i upTo
    rcases Nat.lt_succ_iff_lt_or_eq.mp upTo with below | rfl
    · rw [setFanPercent_state_ne cfg later count _ _ (by omega)]
      exact before.taken i below
    · rw [setFanPercent_requestedAt, takenRequest_after before.made, before.untouched i le_rfl,
        chosen]
      rfl

/-- A loop that sets some fans, when what it asks of a fan depends on that fan only. -/
theorem setFans_fansSet {selected : Nat → Bool} {percent : FanBank → Nat → Int}
    {forced : FanBank → SafetyReason} {asked : Nat → Int}
    (reads : ∀ later i, later.states i = bank.states i → percent later i = asked i) :
    FansSet selected asked bank cfg.fanLen (setFans cfg selected percent forced bank) := by
  unfold setFans
  refine loop_invariant (FansSet selected asked bank) ?_ ?_
  · exact ⟨MakesWrites.refl _, fun _ _ => rfl, fun i below => absurd below (Nat.not_lt_zero i)⟩
  · intro i later below before
    cases chosen : selected i with
    | false =>
        rw [if_neg Bool.false_ne_true]
        exact before.skip chosen
    | true =>
        rw [if_pos rfl, reads later i (before.untouched i le_rfl)]
        exact before.write chosen _

/-- `set_one` leaves a selected fan with its request exactly when that fan's write works. -/
theorem setOne_fansSet (id : CString) (percent : Int) :
    FansSet (fun i => decide (SelectsFan cfg id i)) (fun _ => percent) bank cfg.fanLen
      (setOne cfg bank id percent).1 := by
  rw [setOne_bank]
  exact setFans_fansSet fun _ _ _ => rfl

theorem setOne_requestedAt {i : Nat} (below : i < cfg.fanLen) (id : CString) (percent : Int) :
    ((setOne cfg bank id percent).1.states i).requestedPercent =
      if SelectsFan cfg id i then
        takenRequest bank.ec (selectedFans cfg id i) (bank.states i).requestedPercent percent
      else (bank.states i).requestedPercent := by
  have taken := (@setOne_fansSet cfg bank id percent).taken i below
  by_cases selects : SelectsFan cfg id i
  · rw [if_pos selects]
    rw [if_pos (decide_eq_true selects)] at taken
    exact taken
  · rw [if_neg selects]
    rw [if_neg (by simpa using selects)] at taken
    exact taken

end SetFans

/-! ## What the commands leave -/

section Commands

variable {cfg : AnsConfig} {daemon : Daemon} {i : Nat}

/-- Disabling CoolBoost writes every fan its own request once more. -/
theorem disableCoolboost_requestedAt (below : i < cfg.fanLen) :
    ((disableCoolboostIfNeeded cfg daemon).states i).requestedPercent =
      heldRequest cfg daemon i := by
  unfold heldRequest
  rcases disableCoolboost_cases cfg daemon with
    ⟨idle, bank⟩ | ⟨⟨enabled, available⟩, ⟨failed, bank⟩ | ⟨⟨first, second⟩, bank⟩⟩
  · rw [bank, if_pos (by tauto)]
  · rw [bank, if_pos (Or.inr (Or.inr failed))]
  · have switch := @applyFanMode_makesWrites cfg daemon.ec .manual available
    rw [nextWriteOk, first] at switch
    have set := (@setFans_fansSet cfg ⟨(applyFanMode daemon.ec cfg .manual).1, daemon.states⟩
      (fun _ => true) (fun bank i => (bank.states i).statusRequestedPercent)
      (fun _ => globalSafetyReason cfg daemon.states)
      (fun i => (daemon.states i).statusRequestedPercent)
      fun later i same => by rw [same]).taken i below
    rw [if_pos rfl, takenRequest_after switch, List.countP_true, List.length_range] at set
    rw [bank, if_neg (by simp [enabled, available, first, second])]
    exact set

theorem prepare_requestedAt (below : i < cfg.fanLen) :
    ((fanCommandPrepareDaemonControl cfg daemon).1.states i).requestedPercent =
      heldRequest cfg daemon i :=
  disableCoolboost_requestedAt below

/-- The speeds of a command are written behind the switch to daemon control. -/
theorem takenRequest_prepared (works : SwitchWorks cfg daemon) (place : Nat) (held asked : Int) :
    takenRequest (fanCommandPrepareDaemonControl cfg daemon).1.ec place held asked =
      if daemon.ec.writeFails
        (switchStart cfg daemon + (if cfg.fanModes.available then 2 else 0) + place)
      then held else clampInt asked 1 100 := by
  rw [takenRequest_after (prepare_makesWrites works), takenRequest, switchStart]
  simp only [Nat.add_assoc]

/-- What a request leaves of a fan it is about. -/
theorem taken_eq_iff (request : Request) {percent : Int} (range : 1 ≤ percent ∧ percent ≤ 100)
    (i : Nat) :
    (if daemon.ec.writeFails
        (switchStart cfg daemon + (if cfg.fanModes.available then 2 else 0) +
          request.speedPlace cfg i)
      then heldRequest cfg daemon i else clampInt percent 1 100) = percent ↔
      SpeedWorks cfg daemon request i ∨ heldRequest cfg daemon i = percent := by
  have asked : clampInt percent 1 100 = percent := clamp_of_mem range.1 range.2
  unfold SpeedWorks
  cases daemon.ec.writeFails _ with
  | true => simp
  | false => simp [asked]

/-! ## Setting fans by hand -/

/-- The requests behind an accepted `set`. -/
theorem setFan_requestedAt (valid : cfg.Valid) (works : SwitchWorks cfg daemon) {fan : CString}
    {percent : Int} (takes : SomeFanTakesSpeed cfg daemon fan) (below : i < cfg.fanLen)
    (selects : SelectsFan cfg fan i) :
    ((setFan cfg daemon fan percent).1.states i).requestedPercent =
      if daemon.ec.writeFails
        (switchStart cfg daemon + (if cfg.fanModes.available then 2 else 0) +
          selectedFans cfg fan i)
      then heldRequest cfg daemon i else clampInt percent 1 100 := by
  have switched : ¬ (fanCommandPrepareDaemonControl cfg daemon).2 = false := by
    rw [prepare_ok_iff.mpr works]
    decide
  have changed := (someFanTakesSpeed_iff valid works fan percent).mpr takes
  have branch : ¬ (setOne cfg (fanCommandSetControlMode (fanCommandPrepareDaemonControl cfg daemon).1
      false "manual".toList).toFanBank fan percent).2 = 0 := changed
  rw [setFan, if_neg switched]
  dsimp only
  rw [if_neg branch, writeControlState_toFanBank]
  change ((setOne cfg (fanCommandPrepareDaemonControl cfg daemon).1.toFanBank fan percent).1.states
    i).requestedPercent = _
  rw [setOne_requestedAt below, if_pos selects, takenRequest_prepared works,
    prepare_requestedAt below]

theorem setFan_losesNoRequest_iff (valid : cfg.Valid) {fan : CString} {percent : Int}
    (accepted : fan.length < 32 ∧ 1 ≤ percent ∧ percent ≤ 100) :
    LosesNoRequest cfg (some (.set fan percent accepted)) (setFan cfg daemon fan percent) ↔
      TakesEveryRequest cfg daemon (some (.set fan percent accepted)) := by
  unfold LosesNoRequest TakesEveryRequest
  rw [setFan_accepted_iff valid accepted.1]
  simp only [Option.mem_def, Option.some.injEq, forall_eq', Request.asks, FanRequestAccepted]
  refine forall_congr' fun taken => forall_congr' fun i => forall_congr' fun below => ?_
  by_cases selects : SelectsFan cfg fan i
  · simp only [if_pos selects, Option.some.injEq, forall_eq']
    rw [setFan_requestedAt valid taken.1 taken.2 below selects]
    exact taken_eq_iff (.set fan percent accepted) accepted.2 i
  · simp [if_neg selects]

/-! ## Applying a preset -/

theorem usePreset_accepted_iff {name : CString} {preset : PresetConfig}
    (found : configFindPreset cfg name = some preset) :
    ¬ IsError (usePreset cfg daemon name).2 ↔ SwitchWorks cfg daemon := by
  rw [← prepare_ok_iff]
  cases ready : (fanCommandPrepareDaemonControl cfg daemon).2 with
  | false =>
      simp only [usePreset, found, ready, if_true]
      exact ⟨fun accepted => absurd isError_fanModeWriteFailed accepted,
        fun works => absurd works Bool.false_ne_true⟩
  | true =>
      simp only [usePreset, found, ready, Bool.true_eq_false, if_false]
      exact ⟨fun _ => trivial, fun _ => not_isError_of_head 'm' rfl (by decide)⟩

/-- The fans behind a preset: first its CPU fans are set, then its GPU fans. -/
theorem usePreset_states {name : CString} {preset : PresetConfig}
    (found : configFindPreset cfg name = some preset) (works : SwitchWorks cfg daemon) :
    (usePreset cfg daemon name).1.states =
      (setOne cfg
        (setOne cfg (fanCommandPrepareDaemonControl cfg daemon).1.toFanBank "cpu".toList
          preset.cpu).1 "gpu".toList preset.gpu).1.states := by
  have ready := prepare_ok_iff.mpr works
  have again : configFindPreset cfg preset.id = some preset := by
    rw [(configFindPreset_id found).2, found]
  simp only [usePreset, found, ready, Bool.true_eq_false, if_false, writeControlState_toFanBank,
    applyPreset, again]
  rfl

theorem selectsFan_cpu : SelectsFan cfg "cpu".toList i ↔ (cfg.fan i).id = "cpu".toList :=
  or_iff_right (by decide)

theorem selectsFan_gpu : SelectsFan cfg "gpu".toList i ↔ (cfg.fan i).id = "gpu".toList :=
  or_iff_right (by decide)

/-- The requests behind an accepted preset. -/
theorem usePreset_requestedAt {name : CString} (short : name.length < 32) {preset : PresetConfig}
    (found : configFindPreset cfg name = some preset) (works : SwitchWorks cfg daemon)
    (below : i < cfg.fanLen) {percent : Int}
    (asks : percent ∈ (Request.preset name short).asks cfg i) :
    ((usePreset cfg daemon name).1.states i).requestedPercent =
      if daemon.ec.writeFails
        (switchStart cfg daemon + (if cfg.fanModes.available then 2 else 0) +
          (Request.preset name short).speedPlace cfg i)
      then heldRequest cfg daemon i else clampInt percent 1 100 := by
  have made := (@setOne_fansSet cfg (fanCommandPrepareDaemonControl cfg daemon).1.toFanBank
    "cpu".toList preset.cpu).made
  rw [usePreset_states found works, setOne_requestedAt below, setOne_requestedAt below,
    prepare_requestedAt below, takenRequest_after made, takenRequest_prepared works,
    takenRequest_prepared works]
  simp only [Request.asks, found, Option.bind_some] at asks
  unfold Request.speedPlace
  dsimp only
  by_cases cpu : (cfg.fan i).id = "cpu".toList
  · have other : ¬ SelectsFan cfg "gpu".toList i := by
      rw [selectsFan_gpu, cpu]
      decide
    rw [if_pos cpu] at asks
    obtain rfl : preset.cpu = percent := Option.some.inj asks
    rw [if_neg other, if_pos (selectsFan_cpu.mpr cpu), if_pos cpu]
  · rw [if_neg cpu] at asks
    by_cases gpu : (cfg.fan i).id = "gpu".toList
    · rw [if_pos gpu] at asks
      obtain rfl : preset.gpu = percent := Option.some.inj asks
      have other : ¬ SelectsFan cfg "cpu".toList i := by rwa [selectsFan_cpu]
      rw [if_pos (selectsFan_gpu.mpr gpu), if_neg other, if_neg cpu]
      rfl
    · rw [if_neg gpu] at asks
      cases asks

theorem Request.asks_range (valid : cfg.Valid) {name : CString} (short : name.length < 32)
    {percent : Int} (asks : percent ∈ (Request.preset name short).asks cfg i) :
    1 ≤ percent ∧ percent ≤ 100 := by
  unfold Request.asks at asks
  cases found : configFindPreset cfg name with
  | none => simp [found] at asks
  | some preset =>
      simp only [found, Option.bind_some] at asks
      split at asks
      · obtain rfl : preset.cpu = percent := Option.some.inj asks
        exact (valid.preset found).2.1
      · split at asks
        · obtain rfl : preset.gpu = percent := Option.some.inj asks
          exact (valid.preset found).2.2
        · cases asks

theorem usePreset_losesNoRequest_iff (valid : cfg.Valid) {name : CString}
    (short : name.length < 32) :
    LosesNoRequest cfg (some (.preset name short)) (usePreset cfg daemon name) ↔
      TakesEveryRequest cfg daemon (some (.preset name short)) := by
  unfold LosesNoRequest TakesEveryRequest
  cases found : configFindPreset cfg name with
  | none => simp [Request.asks, found]
  | some preset =>
      rw [usePreset_accepted_iff found]
      simp only [Option.mem_def, Option.some.injEq, forall_eq', FanRequestAccepted]
      refine forall_congr' fun works => forall_congr' fun i => forall_congr' fun below =>
        forall_congr' fun percent => forall_congr' fun asks => ?_
      rw [usePreset_requestedAt short found works below asks]
      exact taken_eq_iff (.preset name short) (Request.asks_range valid short asks) i

/-! ## Every command line -/

/--
A line of an authorised client that is not refused leaves every fan with the
percent it asks for exactly when each of these fans takes its speed, or has held
that request before.
-/
theorem losesNoRequest_iff (valid : cfg.Valid) (daemon : Daemon) (cmd : CString) :
    LosesNoRequest cfg (commandRequest cmd) (executeCommand cfg daemon cmd true) ↔
      TakesEveryRequest cfg daemon (commandRequest cmd) := by
  have performs := executeCommand_performs cfg daemon cmd
  cases requested : commandRequest cmd with
  | none => simp [LosesNoRequest, TakesEveryRequest]
  | some request =>
      rw [requested] at performs
      have result : executeCommand cfg daemon cmd true = request.perform cfg daemon := performs
      rw [result]
      cases request with
      | set fan percent accepted => exact setFan_losesNoRequest_iff valid accepted
      | preset name short => exact usePreset_losesNoRequest_iff valid short
      | _ => simp [LosesNoRequest, TakesEveryRequest, Request.asks]

end Commands

/-- A daemon in manual mode whose EC takes the mode switch and the CPU speed, but no GPU speed. -/
def gpuWriteFails : Daemon :=
  { heldDaemon false "manual".toList with
    ec := { regs := fun _ => 0, writeFails := fun index => index == 3 } }

/-- The GPU fan keeps 50 %, while the reply is `mode=manual fan=all requested=30`. -/
theorem losesNoRequest_fails :
    ¬ ∀ (cfg : AnsConfig) (daemon : Daemon) (cmd : CString), cfg.Valid →
      LosesNoRequest cfg (commandRequest cmd) (executeCommand cfg daemon cmd true) := by
  intro claim
  have kept := claim AcerNitroAn517.config gpuWriteFails "set all 30".toList
    AcerNitroAn517.config_valid (by decide) (.set "all".toList 30 (by decide)) (by decide) 1
    (by decide) 30 (by decide)
  exact absurd kept (by decide +kernel)

/-- It has held 50 % before, so nothing is lost of that request. -/
theorem losesNoRequest_held :
    LosesNoRequest AcerNitroAn517.config (commandRequest "set all 50".toList)
      (executeCommand AcerNitroAn517.config gpuWriteFails "set all 50".toList true) :=
  (losesNoRequest_iff AcerNitroAn517.config_valid _ _).mpr fun request asked _ i below percent
      asks => by
    obtain rfl : .set "all".toList 50 (by decide) = request :=
      Option.some.inj (Eq.trans (by decide) asked)
    obtain rfl : 50 = percent := Option.some.inj asks
    exact Or.inr rfl

end NitroSense
