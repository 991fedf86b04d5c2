import NitroSense.Daemon.KeyboardTimeout
import NitroSense.Daemon.Remembered

/-!
# Following the power source

`maybe_apply_power_source_profile` remembers the source before it writes the
profile.  A run is followed here by a known source, the last reading that was
not unknown, and the EC as it was when that source was first read, so that the
log tells whether the profile has been written since.
-/

namespace NitroSense

open Lib EcDevice

/-! ## Who changes the remembered source -/

section Frame

variable {cfg : AnsConfig} {daemon : Daemon}

/-- An action other than a poll leaves the remembered source alone. -/
theorem act_lastPowerSource {action : Action} (notPoll : ∀ activity, action ≠ .poll activity) :
    (daemon.act cfg action).lastPowerSource = daemon.lastPowerSource := by
  cases action with
  | poll activity => exact absurd rfl (notPoll activity)
  | input activity => rfl
  | signal => rfl
  | client line canControl =>
      exact (handleClient_remembers cfg daemon line canControl).lastPowerSource

/-- A poll remembers a known reading. -/
theorem act_poll_lastPowerSource (activity : Option InputActivity) :
    (daemon.act cfg (.poll activity)).lastPowerSource =
      (maybeApplyPowerSourceProfile cfg daemon).lastPowerSource := by
  cases activity <;> rfl

end Frame

/-! ## The known source -/

/-- The last known reading, and the EC as it was when this source was first read. -/
structure KnownSource where
  source : PowerSource
  since : EcDevice

/-- A reading changes the known source when it is known and another one. -/
def KnownSource.see (known : KnownSource) (source : PowerSource) (ec : EcDevice) : KnownSource :=
  if source = .unknown ∨ source = known.source then known else ⟨source, ec⟩

def IsProfileWrite (cfg : AnsConfig) (source : PowerSource) (write : EcWrite) : Prop :=
  ∃ profile entry, powerSourceProfileFor cfg source = some profile ∧
    configFindPlatformProfile cfg profile = some entry ∧
    write.reg = cfg.platformProfiles.reg ∧ write.value = entry.value

/-- The profile of the known source has been written since the source was first read. -/
def KnownSource.Written (cfg : AnsConfig) (known : KnownSource) (ec : EcDevice) : Prop :=
  ∃ write ∈ writesSince known.since ec,
    write.ok = true ∧ IsProfileWrite cfg known.source write

namespace Daemon

def source (daemon : Daemon) : PowerSource := readPowerSource daemon.host.powerSupplies

/-- What `maybe_apply_power_source_profile` writes. -/
def profileWrites (cfg : AnsConfig) (daemon : Daemon) : List EcWrite :=
  writesSince daemon.ec (maybeApplyPowerSourceProfile cfg daemon).ec

end Daemon

/-- What a poll owes to the power source: the write of its profile until it has succeeded. -/
structure AppliesProfile (cfg : AnsConfig) (known : KnownSource) (daemon : Daemon) : Prop where
  attempts : daemon.source ≠ .unknown →
    ¬ (known.see daemon.source daemon.ec).Written cfg daemon.ec →
      ∃ write ∈ daemon.profileWrites cfg, IsProfileWrite cfg daemon.source write
  once : (known.see daemon.source daemon.ec).Written cfg daemon.ec →
    daemon.profileWrites cfg = []

/-- The same source is not read again before its profile has been written. -/
def RereadWritten (cfg : AnsConfig) (known : KnownSource) (daemon : Daemon) : Prop :=
  daemon.source ≠ .unknown → daemon.source = known.source → known.Written cfg daemon.ec

section Poll

variable {cfg : AnsConfig} {daemon : Daemon}

/-- An accepted policy has a profile for every known source. -/
theorem isProfileWrite_exists (valid : cfg.Valid)
    (policy : powerSourceProfilePolicyAvailable cfg = true) {source : PowerSource}
    (isKnown : source ≠ .unknown) :
    ∃ profile entry, powerSourceProfileFor cfg source = some profile ∧
      configFindPlatformProfile cfg profile = some entry := by
  have target : ∃ profile, powerSourceProfileFor cfg source = some profile := by
    unfold powerSourceProfileFor
    rw [if_neg (by simp [policy])]
    cases source with
    | unknown => exact absurd rfl isKnown
    | ac => exact ⟨_, rfl⟩
    | battery => exact ⟨_, rfl⟩
  obtain ⟨profile, target⟩ := target
  obtain ⟨entry, found⟩ := Option.isSome_iff_exists.mp (powerSourceProfileFor_found valid target).2
  exact ⟨profile, entry, target, found⟩

theorem maybeApply_quiet (same : daemon.source = .unknown ∨ daemon.source = daemon.lastPowerSource) :
    maybeApplyPowerSourceProfile cfg daemon = daemon :=
  if_pos same

/-- The remembered source follows the known one. -/
theorem maybeApply_remembers {known : KnownSource}
    (remembered : daemon.lastPowerSource = known.source) :
    (maybeApplyPowerSourceProfile cfg daemon).lastPowerSource =
      (known.see daemon.source daemon.ec).source := by
  by_cases same : daemon.source = .unknown ∨ daemon.source = known.source
  · rw [maybeApply_quiet (remembered ▸ same), KnownSource.see, if_pos same, remembered]
  · have moved : ¬ (readPowerSource daemon.host.powerSupplies = .unknown ∨
        readPowerSource daemon.host.powerSupplies = daemon.lastPowerSource) := remembered ▸ same
    rw [KnownSource.see, if_neg same]
    unfold maybeApplyPowerSourceProfile
    dsimp only
    rw [if_neg moved]
    split
    · rfl
    · split <;> rfl

/-- At a changed source the write of its profile is tried, once. -/
theorem maybeApply_changed (valid : cfg.Valid)
    (policy : powerSourceProfilePolicyAvailable cfg = true)
    (auto : daemon.runtime.powerSourceAutoApply = true) (isKnown : daemon.source ≠ .unknown)
    (changed : daemon.source ≠ daemon.lastPowerSource) :
    ∃ write, daemon.profileWrites cfg = [write] ∧ IsProfileWrite cfg daemon.source write := by
  obtain ⟨profile, entry, target, found⟩ := isProfileWrite_exists valid policy isKnown
  have available := (powerSourceProfileFor_found valid target).1
  have value : configByteValueValid entry.value :=
    (valid.platformProfiles entry (List.mem_of_find?_eq_some found)).2
  have moved : ¬ (daemon.source = .unknown ∨ daemon.source = daemon.lastPowerSource) := by
    simp [isKnown, changed]
  have applied : (maybeApplyPowerSourceProfile cfg daemon).ec =
      (ecWriteByte daemon.ec cfg.platformProfiles.reg entry.value).1 := by
    unfold Daemon.source at moved target
    unfold maybeApplyPowerSourceProfile
    dsimp only
    rw [if_neg moved, if_neg (by simp [auto]), target]
    dsimp only
    rw [applyPowerSourceProfile, target]
    dsimp only
    rw [applyPlatformProfile, if_neg (by simp [available]), found]
  refine ⟨⟨cfg.platformProfiles.reg, clampInt entry.value 0 255, daemon.ec.nextWriteOk⟩, ?_,
    profile, entry, target, found, rfl, clamp_of_mem value.1 value.2⟩
  rw [Daemon.profileWrites, applied]
  exact writesSince_of_append (ecWriteByte_writes daemon.ec _ _)

theorem writesSince_self (ec : EcDevice) : writesSince ec ec = [] := by
  simp [writesSince]

/-- A poll owes the source nothing exactly when it does not read an unwritten source again. -/
theorem appliesProfile_iff (valid : cfg.Valid)
    (policy : powerSourceProfilePolicyAvailable cfg = true)
    (auto : daemon.runtime.powerSourceAutoApply = true) {known : KnownSource}
    (remembered : daemon.lastPowerSource = known.source) :
    AppliesProfile cfg known daemon ↔ RereadWritten cfg known daemon := by
  by_cases same : daemon.source = .unknown ∨ daemon.source = known.source
  · have seen : known.see daemon.source daemon.ec = known := if_pos same
    have quiet : daemon.profileWrites cfg = [] := by
      rw [Daemon.profileWrites, maybeApply_quiet (remembered ▸ same), writesSince_self]
    constructor
    · intro applies isKnown reread
      by_contra unwritten
      obtain ⟨write, member, -⟩ := applies.attempts isKnown (seen.symm ▸ unwritten)
      rw [quiet] at member
      exact absurd member List.not_mem_nil
    · intro written
      refine ⟨fun isKnown unwritten => ?_, fun _ => quiet⟩
      rw [seen] at unwritten
      exact absurd (written isKnown (same.resolve_left isKnown)) unwritten
  · have isKnown : daemon.source ≠ .unknown := fun unknown => same (Or.inl unknown)
    have changed : daemon.source ≠ known.source := fun reread => same (Or.inr reread)
    have seen : known.see daemon.source daemon.ec = ⟨daemon.source, daemon.ec⟩ := if_neg same
    obtain ⟨write, writes, isProfile⟩ :=
      maybeApply_changed valid policy auto isKnown (remembered.symm ▸ changed)
    refine ⟨fun _ _ reread => absurd reread changed, fun _ => ⟨fun _ _ => ?_, fun written => ?_⟩⟩
    · rw [writes]
      exact ⟨write, List.mem_singleton_self write, isProfile⟩
    · rw [seen] at written
      obtain ⟨earlier, member, -⟩ := written
      rw [writesSince_self] at member
      exact absurd member List.not_mem_nil

end Poll

/-! ## Along a run -/

namespace Daemon

/-- The daemon in this event's poll, if the loop polls. -/
def polls (daemon : Daemon) (event : Event) : Option Daemon :=
  match event.action with
  | .poll _ => if daemon.running = false then none else some (daemon.found event)
  | _ => none

/-- A step of the daemon and of the known source beside it. -/
def followStep (cfg : AnsConfig) (followed : Daemon × KnownSource) (event : Event) :
    Daemon × KnownSource :=
  (followed.1.step cfg event,
    match followed.1.polls event with
    | none => followed.2
    | some polled => followed.2.see polled.source polled.ec)

/-- At the start no source is known. -/
def followed (daemon : Daemon) : Daemon × KnownSource := (daemon, ⟨.unknown, daemon.ec⟩)

end Daemon

/-- The power source is followed: at each poll of the run its profile is applied as owed. -/
def FollowsPowerSource (cfg : AnsConfig) (daemon : Daemon) (events : List Event) : Prop :=
  Along (Daemon.followStep cfg)
    (fun followed event => ∀ polled, followed.1.polls event = some polled →
      AppliesProfile cfg followed.2 polled) daemon.followed events

/-- No poll of the run reads a source again whose profile has not been written. -/
def NeverRereadUnwritten (cfg : AnsConfig) (daemon : Daemon) (events : List Event) : Prop :=
  Along (Daemon.followStep cfg)
    (fun followed event => ∀ polled, followed.1.polls event = some polled →
      RereadWritten cfg followed.2 polled) daemon.followed events

/-- Profiles are applied automatically in every state of the run that an event finds. -/
def AutoApplied (cfg : AnsConfig) (daemon : Daemon) (events : List Event) : Prop :=
  Along (Daemon.step cfg) (fun daemon _ => daemon.runtime.powerSourceAutoApply = true) daemon events

section Run

variable {cfg : AnsConfig} {daemon : Daemon} {event : Event}

theorem polls_eq_some {polled : Daemon} (isPoll : daemon.polls event = some polled) :
    daemon.running = true ∧ (∃ activity, event.action = .poll activity) ∧
      polled = daemon.found event := by
  unfold Daemon.polls at isPoll
  split at isPoll
  · rename_i activity action
    split at isPoll
    · cases isPoll
    · rename_i running
      exact ⟨by simpa using running, ⟨activity, action⟩, (Option.some.inj isPoll).symm⟩
  · cases isPoll

theorem polls_of_running (running : daemon.running = true) (host : Host) :
    daemon.polls (.poll host) = some (daemon.found (.poll host)) :=
  if_neg (by simp [running])

/-- The followed source is the one the daemon remembers. -/
theorem followStep_remembers {known : KnownSource}
    (remembered : daemon.lastPowerSource = known.source) :
    (daemon.step cfg event).lastPowerSource =
      (Daemon.followStep cfg (daemon, known) event).2.source := by
  have found : (daemon.found event).lastPowerSource = known.source := remembered
  cases polls : daemon.polls event with
  | some polled =>
      obtain ⟨running, ⟨activity, action⟩, rfl⟩ := polls_eq_some polls
      rw [Daemon.followStep, polls, Daemon.step, if_neg (by simp [running]), action,
        act_poll_lastPowerSource]
      exact maybeApply_remembers found
  | none =>
      rw [Daemon.followStep, polls, Daemon.step]
      by_cases stopped : daemon.running = false
      · rw [if_pos stopped]
        exact remembered
      · rw [if_neg stopped, act_lastPowerSource]
        · exact found
        · intro activity action
          simp [Daemon.polls, action, stopped] at polls

/-- No source is remembered when the loop begins. -/
theorem startDaemon_lastPowerSource (cfg : AnsConfig) (boot : Boot) :
    (startDaemon cfg boot).lastPowerSource = .unknown := by
  unfold startDaemon restoreControlState
  dsimp only
  cases (bootedDaemon cfg boot).savedState with
  | some json => rfl
  | none =>
      change (applyDefaultPreset cfg (bootedDaemon cfg boot)).lastPowerSource = .unknown
      rw [applyDefaultPreset_eq]
      rfl

/-- From any state whose remembered source is the known one, both properties hold along the same
runs. -/
theorem follows_along_iff (valid : cfg.Valid)
    (policy : powerSourceProfilePolicyAvailable cfg = true) {known : KnownSource}
    {events : List Event} (remembered : daemon.lastPowerSource = known.source)
    (auto : AutoApplied cfg daemon events) :
    Along (Daemon.followStep cfg)
        (fun followed event => ∀ polled, followed.1.polls event = some polled →
          AppliesProfile cfg followed.2 polled) (daemon, known) events ↔
      Along (Daemon.followStep cfg)
        (fun followed event => ∀ polled, followed.1.polls event = some polled →
          RereadWritten cfg followed.2 polled) (daemon, known) events := by
  induction events generalizing daemon known with
  | nil => exact Iff.rfl
  | cons event rest ih =>
      obtain ⟨on, later⟩ := auto
      refine and_congr ?_ (ih (followStep_remembers remembered) later)
      refine forall_congr' fun polled => forall_congr' fun isPoll => ?_
      obtain ⟨-, -, rfl⟩ := polls_eq_some isPoll
      exact @appliesProfile_iff cfg (daemon.found event) valid policy on known remembered

/--
With automatic profiles on throughout, the power source is followed along a run
exactly when no poll reads a source again whose profile has not been written.
-/
theorem followsPowerSource_iff (valid : cfg.Valid)
    (policy : powerSourceProfilePolicyAvailable cfg = true) (boot : Boot) {events : List Event}
    (auto : AutoApplied cfg (startDaemon cfg boot) events) :
    FollowsPowerSource cfg (startDaemon cfg boot) events ↔
      NeverRereadUnwritten cfg (startDaemon cfg boot) events := by
  exact follows_along_iff valid policy (startDaemon_lastPowerSource cfg boot) auto

/-- A second poll at the same source does not make up for a first one whose writes failed. -/
theorem not_follows_of_failed {host : Host} (running : daemon.running = true)
    (fresh : daemon.lastPowerSource = .unknown) (isKnown : readPowerSource host.powerSupplies ≠ .unknown)
    (goesOn : (daemon.step cfg (.poll host)).running = true)
    (failed : ∀ write ∈ writesSince daemon.ec (daemon.step cfg (.poll host)).ec, write.ok = false) :
    ¬ FollowsPowerSource cfg daemon [.poll host, .poll host] := by
  intro follows
  have seen : (Daemon.followStep cfg daemon.followed (.poll host)).2 =
      ⟨readPowerSource host.powerSupplies, daemon.ec⟩ := by
    have polled : daemon.followed.1.polls (.poll host) = some (daemon.found (.poll host)) :=
      polls_of_running running host
    rw [Daemon.followStep, polled]
    exact if_neg (by simp [Daemon.followed, Daemon.source, Daemon.found, Event.poll, isKnown])
  have remembered := @followStep_remembers cfg daemon (.poll host) ⟨.unknown, daemon.ec⟩ fresh
  change _ = (Daemon.followStep cfg daemon.followed (.poll host)).2.source at remembered
  have second := follows.2.1 _ (polls_of_running goesOn host)
  rw [seen] at remembered second
  have same : ((daemon.step cfg (.poll host)).found (.poll host)).source =
      ((daemon.step cfg (.poll host)).found (.poll host)).lastPowerSource := remembered.symm
  have quiet : ((daemon.step cfg (.poll host)).found (.poll host)).profileWrites cfg = [] := by
    rw [Daemon.profileWrites, maybeApply_quiet (Or.inr same), writesSince_self]
  have unwritten : ¬ KnownSource.Written cfg ⟨readPowerSource host.powerSupplies, daemon.ec⟩
      (daemon.step cfg (.poll host)).ec := by
    rintro ⟨write, member, ok, -⟩
    rw [failed write member] at ok
    cases ok
  have seenAgain (ec : EcDevice) :
      KnownSource.see ⟨readPowerSource host.powerSupplies, daemon.ec⟩
        (readPowerSource host.powerSupplies) ec =
          ⟨readPowerSource host.powerSupplies, daemon.ec⟩ := if_pos (Or.inr rfl)
  obtain ⟨write, tried, -⟩ :=
    second.attempts isKnown fun written => unwritten (seenAgain _ ▸ written)
  rw [quiet] at tried
  exact absurd tried List.not_mem_nil

end Run

/-! ## A failed write -/

def AcerNitroAn517.autoProfileConfig : AnsConfig :=
  { config with powerSourceProfiles := { config.powerSourceProfiles with autoApply := true } }

theorem AcerNitroAn517.autoProfileConfig_valid : autoProfileConfig.Valid :=
  { config_valid with powerSourceProfiles := by decide }

def poweredHost (source : String) : Host where
  sensors := AcerNitroAn517.cpuSensors 50
  powerSupplies := { fake := some source.toList }

/-- A start on AC with this pattern of failing writes. -/
def acBoot (writeFails : Nat → Bool) : Boot :=
  ⟨{ regs := fun _ => 0, writeFails := writeFails }, poweredHost "ac", none, none, none⟩

/-- The started daemon behind the two fan-mode writes of its default preset. -/
def acDaemon (writeFails : Nat → Bool) : Daemon :=
  startDaemon AcerNitroAn517.autoProfileConfig (acBoot writeFails)

/-- A poll without input devices keeps the runtime flags. -/
theorem step_poll_runtime (cfg : AnsConfig) (daemon : Daemon) (host : Host) :
    (daemon.step cfg (.poll host)).runtime = daemon.runtime := by
  unfold Daemon.step
  split
  · rfl
  · exact maybeApply_runtime cfg (daemon.found (.poll host))

theorem acDaemon_auto (writeFails : Nat → Bool) (hosts : List Host) :
    AutoApplied AcerNitroAn517.autoProfileConfig (acDaemon writeFails) (hosts.map .poll) := by
  have start : (acDaemon writeFails).runtime.powerSourceAutoApply = true :=
    congrArg RuntimeState.powerSourceAutoApply
      (applyDefaultPreset_runtime AcerNitroAn517.autoProfileConfig
        (bootedDaemon AcerNitroAn517.autoProfileConfig (acBoot writeFails)))
  generalize acDaemon writeFails = daemon at start ⊢
  induction hosts generalizing daemon with
  | nil => trivial
  | cons host rest ih => exact ⟨start, ih _ (by rw [step_poll_runtime]; exact start)⟩

/-- When the source alternates, its profile is tried at every poll, even if no write succeeds. -/
theorem followsPowerSource_alternating :
    FollowsPowerSource AcerNitroAn517.autoProfileConfig (acDaemon fun _ => true)
      ([poweredHost "ac", poweredHost "battery"].map .poll) := by
  refine (followsPowerSource_iff AcerNitroAn517.autoProfileConfig_valid (by decide) _
    (acDaemon_auto _ _)).mpr ⟨?_, ?_, trivial⟩
  · intro polled isPoll _ reread
    obtain ⟨-, -, rfl⟩ := polls_eq_some isPoll
    exact absurd reread (by decide)
  · intro polled isPoll _ reread
    obtain ⟨-, -, rfl⟩ := polls_eq_some isPoll
    exact absurd reread (by decide +kernel)

/-- The first poll fails to write the profile for AC, and the second one, still on AC, does not
try it again. -/
theorem followsPowerSource_fails :
    ¬ ∀ (cfg : AnsConfig) (boot : Boot) (events : List Event), cfg.Valid →
      powerSourceProfilePolicyAvailable cfg = true →
      AutoApplied cfg (startDaemon cfg boot) events →
        FollowsPowerSource cfg (startDaemon cfg boot) events := by
  intro claim
  have state : (acDaemon fun index => index == 5).running = true ∧
      let polled := (acDaemon fun index => index == 5).step AcerNitroAn517.autoProfileConfig
        (.poll (poweredHost "ac"))
      polled.running = true ∧
        ∀ write ∈ writesSince (acDaemon fun index => index == 5).ec polled.ec, write.ok = false := by
    decide +kernel
  obtain ⟨running, goesOn, failed⟩ := state
  exact not_follows_of_failed running (startDaemon_lastPowerSource _ _) (by decide) goesOn failed
    (claim AcerNitroAn517.autoProfileConfig (acBoot fun index => index == 5)
      ([poweredHost "ac", poweredHost "ac"].map .poll) AcerNitroAn517.autoProfileConfig_valid
      (by decide) (acDaemon_auto _ _))

end NitroSense
