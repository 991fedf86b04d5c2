import NitroSense.Keyboard
import NitroSense.Lib.Loop
import NitroSense.Lib.Run

/-!
# Input devices

`input/activity.c`: the devices with keys are opened once and watched for a key
being pressed.  What the process opens and closes is recorded, so that no
descriptor is lost and none is closed twice.
-/

namespace NitroSense

open Lib

def inputActivityMaxFds : Nat := 64

/-- An entry of `/dev/input`: the descriptor that opening it gives, and what `EVIOCGBIT` says. -/
structure InputEntry where
  name : CString
  opened : Option Nat
  evBits : Option (List UInt64)
  deriving DecidableEq, Repr

/-- `input_activity_monitor`, with the descriptors opened and closed for it, oldest first. -/
structure InputActivityMonitor where
  fds : Nat → Int
  fdLen : Nat
  lastActivityMs : Int
  opened : List Int := []
  closed : List Int := []

/-- `bit_is_set`, with longs of 64 bits. -/
def bitIsSet (bits : List UInt64) (bit : Nat) : Bool :=
  bits.getD (bit / 64) 0 &&& (1 <<< UInt64.ofNat (bit % 64)) != 0

def evKey : Nat := 1

def inputFdHasKeyEvents (entry : InputEntry) : Bool :=
  match entry.evBits with
  | none => false
  | some bits => bitIsSet bits evKey

def inputActivityInit (nowMs : Int) : InputActivityMonitor where
  fds := fun _ => -1
  fdLen := 0
  lastActivityMs := nowMs

def inputActivityCloseFd (i : Nat) (monitor : InputActivityMonitor) : InputActivityMonitor :=
  { monitor with
    closed := if monitor.fds i ≥ 0 then monitor.closed ++ [monitor.fds i] else monitor.closed
    fds := Function.update monitor.fds i (-1) }

def inputActivityClose (monitor : InputActivityMonitor) : InputActivityMonitor :=
  { loop monitor.fdLen inputActivityCloseFd monitor with fdLen := 0 }

def inputActivityOpenEntry (monitor : InputActivityMonitor) (entry : InputEntry) :
    InputActivityMonitor :=
  if entry.name.take 5 ≠ "event".toList ∨ entry.name.length > 4096 - 12 then monitor
  else
    match entry.opened with
    | none => monitor
    | some fd =>
        let monitor := { monitor with opened := monitor.opened ++ [(fd : Int)] }
        if inputFdHasKeyEvents entry = false then
          { monitor with closed := monitor.closed ++ [(fd : Int)] }
        else
          { monitor with
            fds := Function.update monitor.fds monitor.fdLen fd
            fdLen := monitor.fdLen + 1 }

def inputActivityOpenEntries : List InputEntry → InputActivityMonitor → InputActivityMonitor
  | [], monitor => monitor
  | entry :: entries, monitor =>
      if monitor.fdLen < inputActivityMaxFds then
        inputActivityOpenEntries entries (inputActivityOpenEntry monitor entry)
      else monitor

/-- `input_activity_open`; `none` is a directory that cannot be opened. -/
def inputActivityOpen (dir : Option (List InputEntry)) (nowMs : Int)
    (monitor : InputActivityMonitor) : InputActivityMonitor :=
  let monitor := { inputActivityClose monitor with lastActivityMs := nowMs }
  match dir with
  | none => monitor
  | some entries => inputActivityOpenEntries entries monitor

/-- `input_activity_add_fds`: the descriptors of the set and the largest of them. -/
def inputActivityAddFds (monitor : InputActivityMonitor) (readfds : List Int) (maxFd : Int) :
    List Int × Int :=
  loop monitor.fdLen
    (fun i set =>
      if monitor.fds i < 0 then set
      else (set.1 ++ [monitor.fds i], if monitor.fds i > set.2 then monitor.fds i else set.2))
    (readfds, maxFd)

/-- What a `read` of an input event returns: an event, or less than one. -/
inductive InputRead where
  | event (type : Nat) (value : Int)
  | short
  deriving DecidableEq, Repr

/-- The loop of `input_activity_handle_ready` over the events of a device. -/
def readInputEvents : List InputRead → Bool → Bool
  | .event type value :: reads, active =>
      readInputEvents reads (if type = evKey ∧ value ≠ 0 then true else active)
  | _, active => active

/-- What the ready descriptors have to read; `none` is a descriptor that is not ready. -/
abbrev ReadyInputs := Int → Option (List InputRead)

def inputActivityHandleReady (ready : ReadyInputs) (nowMs : Int)
    (monitor : InputActivityMonitor) : InputActivityMonitor :=
  loop monitor.fdLen
    (fun i monitor =>
      if monitor.fds i < 0 then monitor
      else
        match ready (monitor.fds i) with
        | none => monitor
        | some reads =>
            if readInputEvents reads false then { monitor with lastActivityMs := nowMs }
            else monitor)
    monitor

/-! ## The devices of a monitor -/

namespace InputActivityMonitor

def held (monitor : InputActivityMonitor) : List Int :=
  (List.range monitor.fdLen).map monitor.fds

/-- The monitor holds all that was opened and not closed, in the first entries of its table. -/
structure Owns (monitor : InputActivityMonitor) : Prop where
  fits : monitor.fdLen ≤ inputActivityMaxFds
  live : ∀ fd ∈ monitor.held, 0 ≤ fd
  clear : ∀ i, monitor.fdLen ≤ i → monitor.fds i = -1
  balance : monitor.opened.Perm (monitor.closed ++ monitor.held)

theorem held_length (monitor : InputActivityMonitor) : monitor.held.length = monitor.fdLen := by
  rw [held, List.length_map, List.length_range]

variable {monitor : InputActivityMonitor}

theorem Owns.live_at (owns : monitor.Owns) {i : Nat} (below : i < monitor.fdLen) :
    0 ≤ monitor.fds i :=
  owns.live _ (List.mem_map_of_mem (List.mem_range.mpr below))

end InputActivityMonitor

open InputActivityMonitor

section Monitor

variable {monitor : InputActivityMonitor}

theorem inputActivityInit_owns (nowMs : Int) : (inputActivityInit nowMs).Owns where
  fits := Nat.zero_le _
  live := nofun
  clear := fun _ _ => rfl
  balance := List.Perm.refl []

/-- Closing closes what the monitor holds. -/
theorem inputActivityClose_eq (owns : monitor.Owns) :
    inputActivityClose monitor =
      { monitor with
        fds := fun _ => -1
        fdLen := 0
        closed := monitor.closed ++ monitor.held } := by
  let rounds (count : Nat) (state : InputActivityMonitor) : Prop :=
    state = { monitor with
      fds := fun i => if i < count then -1 else monitor.fds i
      closed := monitor.closed ++ (List.range count).map monitor.fds }
  have closes : rounds monitor.fdLen (loop monitor.fdLen inputActivityCloseFd monitor) := by
    refine loop_invariant rounds ?_ ?_
    · simp [rounds]
    · rintro index state below rfl
      have live : monitor.fds index ≥ 0 := owns.live_at below
      have same : ¬ index < index := Nat.lt_irrefl index
      simp only [rounds, inputActivityCloseFd, if_neg same, if_pos live, List.range_succ, List.map_append,
        List.map_singleton, List.append_assoc]
      congr 1
      funext i
      by_cases here : i = index
      · rw [here, Function.update_self, if_pos (Nat.lt_succ_self index)]
      · rw [Function.update_of_ne here]
        have other : i < index + 1 ↔ i < index := by omega
        simp only [other]
  have table : (fun i => if i < monitor.fdLen then -1 else monitor.fds i) = fun _ => -1 := by
    funext i
    split
    · rfl
    · rename_i beyond
      exact owns.clear i (Nat.le_of_not_lt beyond)
  unfold inputActivityClose
  rw [closes, table]
  rfl

theorem inputActivityClose_owns (owns : monitor.Owns) : (inputActivityClose monitor).Owns := by
  rw [inputActivityClose_eq owns]
  refine ⟨Nat.zero_le _, nofun, fun _ _ => rfl, ?_⟩
  have balance := owns.balance
  rwa [← List.append_nil (monitor.closed ++ monitor.held)] at balance

/-- The descriptor of an entry that is watched. -/
def keyDevice (entry : InputEntry) : Option Int :=
  if entry.name.take 5 ≠ "event".toList ∨ entry.name.length > 4096 - 12 then none
  else if inputFdHasKeyEvents entry then entry.opened.map fun fd : Nat => (fd : Int)
  else none

theorem inputActivityOpenEntry_owns (owns : monitor.Owns)
    (room : monitor.fdLen < inputActivityMaxFds) (entry : InputEntry) :
    (inputActivityOpenEntry monitor entry).Owns ∧
      (inputActivityOpenEntry monitor entry).held = monitor.held ++ (keyDevice entry).toList ∧
      (inputActivityOpenEntry monitor entry).lastActivityMs = monitor.lastActivityMs := by
  have unchanged : monitor.held = monitor.held ++ [] := (List.append_nil _).symm
  unfold inputActivityOpenEntry keyDevice
  split
  · exact ⟨owns, unchanged, rfl⟩
  · split
    · rename_i failed
      rw [failed, Option.map_none, ite_self]
      exact ⟨owns, unchanged, rfl⟩
    · rename_i fd opened
      rw [opened]
      cases keys : inputFdHasKeyEvents entry with
      | false =>
          refine ⟨⟨owns.fits, owns.live, owns.clear, ?_⟩, unchanged, rfl⟩
          have both := owns.balance.append_right [(fd : Int)]
          refine both.trans ?_
          rw [List.append_assoc]
          exact (List.perm_append_comm.append_left monitor.closed).trans
            (List.Perm.of_eq (List.append_assoc _ _ _).symm)
      | true =>
          let table := Function.update monitor.fds monitor.fdLen (fd : Int)
          have kept : (List.range monitor.fdLen).map table = monitor.held := by
            refine List.map_congr_left fun i member => ?_
            exact Function.update_of_ne (Nat.ne_of_lt (List.mem_range.mp member)) _ _
          have held : (List.range (monitor.fdLen + 1)).map table = monitor.held ++ [(fd : Int)] := by
            rw [List.range_succ, List.map_append, kept, List.map_singleton]
            exact congrArg (monitor.held ++ [·]) (Function.update_self ..)
          have live : ∀ other ∈ monitor.held ++ [(fd : Int)], 0 ≤ other := by
            intro other member
            rcases List.mem_append.mp member with old | new
            · exact owns.live other old
            · rw [List.mem_singleton.mp new]
              exact Int.natCast_nonneg fd
          refine ⟨⟨room, fun other member => live other (held ▸ member), ?_, ?_⟩, held, rfl⟩
          · intro i beyond
            have other : i ≠ monitor.fdLen := Nat.ne_of_gt beyond
            exact (Function.update_of_ne other _ _).trans
              (owns.clear i (Nat.le_of_succ_le beyond))
          · have both := owns.balance.append_right [(fd : Int)]
            rw [List.append_assoc, ← held] at both
            exact both

/-- The monitor takes the devices with keys, as far as it has room. -/
theorem inputActivityOpenEntries_owns (owns : monitor.Owns) (entries : List InputEntry) :
    (inputActivityOpenEntries entries monitor).Owns ∧
      (inputActivityOpenEntries entries monitor).held =
        (monitor.held ++ entries.filterMap keyDevice).take inputActivityMaxFds ∧
      (inputActivityOpenEntries entries monitor).lastActivityMs = monitor.lastActivityMs := by
  induction entries generalizing monitor with
  | nil =>
      refine ⟨owns, ?_, rfl⟩
      rw [List.filterMap_nil, List.append_nil, List.take_of_length_le]
      · rfl
      · rw [held_length]
        exact owns.fits
  | cons entry entries ih =>
      rw [inputActivityOpenEntries]
      split
      · rename_i room
        obtain ⟨opened, held, last⟩ := inputActivityOpenEntry_owns owns room entry
        obtain ⟨owned, all, same⟩ := ih opened
        refine ⟨owned, ?_, same.trans last⟩
        rw [all, held, List.append_assoc]
        cases device : keyDevice entry with
        | none => rw [List.filterMap_cons_none device]; rfl
        | some fd => rw [List.filterMap_cons_some device]; rfl
      · rename_i full
        have length : monitor.held.length = inputActivityMaxFds := by
          rw [held_length]
          exact Nat.le_antisymm owns.fits (Nat.le_of_not_lt full)
        exact ⟨owns, by rw [← length, List.take_left], rfl⟩

theorem inputActivityOpen_owns (owns : monitor.Owns) (dir : Option (List InputEntry))
    (nowMs : Int) :
    (inputActivityOpen dir nowMs monitor).Owns ∧
      (inputActivityOpen dir nowMs monitor).held =
        ((dir.getD []).filterMap keyDevice).take inputActivityMaxFds ∧
      (inputActivityOpen dir nowMs monitor).lastActivityMs = nowMs := by
  have closed := inputActivityClose_owns owns
  have empty : (inputActivityClose monitor).held = [] := by
    rw [inputActivityClose_eq owns]
    rfl
  let start := { inputActivityClose monitor with lastActivityMs := nowMs }
  have owned : start.Owns := ⟨closed.fits, closed.live, closed.clear, closed.balance⟩
  have nothing : start.held = [] := empty
  cases dir with
  | none => exact ⟨owned, nothing, rfl⟩
  | some entries =>
      have opened := inputActivityOpenEntries_owns owned entries
      rw [nothing, List.nil_append] at opened
      exact opened

/-- The set of descriptors has those of the monitor, and none beyond its largest. -/
theorem inputActivityAddFds_spec (owns : monitor.Owns) {readfds : List Int} {maxFd : Int}
    (bounded : ∀ fd ∈ readfds, fd ≤ maxFd) :
    (inputActivityAddFds monitor readfds maxFd).1 = readfds ++ monitor.held ∧
      ∀ fd ∈ (inputActivityAddFds monitor readfds maxFd).1,
        fd ≤ (inputActivityAddFds monitor readfds maxFd).2 := by
  refine loop_invariant
    (fun count (set : List Int × Int) => set.1 = readfds ++ (List.range count).map monitor.fds ∧
      ∀ fd ∈ set.1, fd ≤ set.2) ⟨?_, bounded⟩ ?_
  · exact (List.append_nil readfds).symm
  · rintro index ⟨fds, largest⟩ below ⟨same, covers⟩
    dsimp only at same covers ⊢
    have live : ¬ monitor.fds index < 0 := Int.not_lt.mpr (owns.live_at below)
    rw [if_neg live]
    refine ⟨?_, fun fd member => ?_⟩
    · rw [same, List.range_succ, List.map_append, List.append_assoc]
      rfl
    · have old : fd ∈ fds → fd ≤ largest := covers fd
      rw [List.mem_append, List.mem_singleton] at member
      dsimp only
      split
      · rename_i more
        rcases member with inSet | rfl
        · exact (old inSet).trans (Int.le_of_lt more)
        · exact Int.le_refl _
      · rename_i enough
        rcases member with inSet | rfl
        · exact old inSet
        · exact Int.not_lt.mp enough

/-! ## Activity -/

/-- A key is pressed or repeats, before a read brings less than an event. -/
def KeyPressed (reads : List InputRead) : Prop :=
  ∃ before value after, reads = before ++ .event evKey value :: after ∧ value ≠ 0 ∧
    InputRead.short ∉ before

theorem readInputEvents_active (reads : List InputRead) : readInputEvents reads true = true := by
  induction reads with
  | nil => rfl
  | cons read reads ih =>
      cases read with
      | event type value =>
          rw [readInputEvents, ite_self]
          exact ih
      | short => rfl

theorem readInputEvents_iff (reads : List InputRead) :
    readInputEvents reads false = true ↔ KeyPressed reads := by
  induction reads with
  | nil =>
      refine ⟨nofun, ?_⟩
      rintro ⟨before, value, after, split, -⟩
      exact absurd split (by simp)
  | cons read reads ih =>
      cases read with
      | short =>
          refine ⟨nofun, ?_⟩
          rintro ⟨before, value, after, split, -, whole⟩
          cases before with
          | nil => cases split
          | cons first before =>
              cases split
              exact absurd List.mem_cons_self whole
      | event type value =>
          rw [readInputEvents]
          by_cases press : type = evKey ∧ value ≠ 0
          · rw [if_pos press, readInputEvents_active]
            obtain ⟨rfl, pressed⟩ := press
            exact ⟨fun _ => ⟨[], value, reads, rfl, pressed, List.not_mem_nil⟩, fun _ => rfl⟩
          · rw [if_neg press, ih]
            constructor
            · rintro ⟨before, other, after, rfl, pressed, whole⟩
              exact ⟨.event type value :: before, other, after, rfl, pressed, by simp [whole]⟩
            · rintro ⟨before, other, after, split, pressed, whole⟩
              cases before with
              | nil =>
                  cases split
                  exact absurd ⟨rfl, pressed⟩ press
              | cons first before =>
                  cases split
                  exact ⟨before, other, after, rfl, pressed,
                    fun member => whole (List.mem_cons_of_mem _ member)⟩

/-- A descriptor that has a key press to read. -/
def pressed (ready : ReadyInputs) (fd : Int) : Bool :=
  (ready fd).any fun reads => readInputEvents reads false

/-- A wake-up is activity exactly when one of the descriptors has a key press to read. -/
theorem inputActivityHandleReady_eq (owns : monitor.Owns) (ready : ReadyInputs) (nowMs : Int) :
    inputActivityHandleReady ready nowMs monitor =
      { monitor with
        lastActivityMs :=
          if monitor.held.any (pressed ready) then nowMs else monitor.lastActivityMs } := by
  refine loop_invariant (fun count state => state = { monitor with
    lastActivityMs :=
      if ((List.range count).map monitor.fds).any (pressed ready) then nowMs
      else monitor.lastActivityMs }) rfl ?_
  rintro index state below rfl
  have live : ¬ monitor.fds index < 0 := Int.not_lt.mpr (owns.live_at below)
  dsimp only
  rw [if_neg live, List.range_succ, List.map_append, List.any_append, List.map_singleton,
    List.any_cons, List.any_nil, Bool.or_false]
  split
  · rename_i idle
    rw [pressed, idle, Option.any_none, Bool.or_false]
  · rename_i reads found
    rw [pressed, found, Option.any_some]
    cases readInputEvents reads false with
    | true => rw [Bool.or_true]; rfl
    | false => rw [Bool.or_false]; rfl

end Monitor

/-! ## A run of the monitor -/

/-- The loop of the daemon wakes up, with what the descriptors have to read. -/
structure InputWake where
  ready : ReadyInputs
  nowMs : Int

def InputActivityMonitor.wake (monitor : InputActivityMonitor) (wake : InputWake) :
    InputActivityMonitor :=
  inputActivityHandleReady wake.ready wake.nowMs monitor

def watchedDevices (dir : Option (List InputEntry)) : List Int :=
  ((dir.getD []).filterMap keyDevice).take inputActivityMaxFds

/-- The time of the last wake-up with a key press on one of the devices. -/
def lastPress (devices : List Int) (wakes : List InputWake) : Option Int :=
  ((wakes.filter fun wake => devices.any (pressed wake.ready)).getLast?).map InputWake.nowMs

theorem lastPress_concat (devices : List Int) (wakes : List InputWake) (last : InputWake) :
    lastPress devices (wakes ++ [last]) =
      if devices.any (pressed last.ready) then some last.nowMs else lastPress devices wakes := by
  rw [lastPress, List.filter_append, List.filter_singleton]
  cases devices.any (pressed last.ready) with
  | true =>
      rw [cond_true, List.getLast?_concat]
      rfl
  | false =>
      rw [cond_false, List.append_nil]
      rfl

theorem InputActivityMonitor.run_wakes {monitor : InputActivityMonitor} (owns : monitor.Owns)
    (wakes : List InputWake) :
    run wake monitor wakes =
      { monitor with
        lastActivityMs := (lastPress monitor.held wakes).getD monitor.lastActivityMs } := by
  induction wakes using List.reverseRecOn with
  | nil => rfl
  | append_singleton wakes last ih =>
      have owned : (run wake monitor wakes).Owns := by
        rw [ih]
        exact ⟨owns.fits, owns.live, owns.clear, owns.balance⟩
      have held : (run wake monitor wakes).held = monitor.held := by
        rw [ih]
        rfl
      rw [run_concat, wake, inputActivityHandleReady_eq owned, held, ih, lastPress_concat]
      cases monitor.held.any (pressed last.ready) with
      | true => rfl
      | false => rfl

/-- What a monitor does between its opening and its closing. -/
structure WatchesInput (dir : Option (List InputEntry)) (openMs : Int) (wakes : List InputWake)
    (monitor : InputActivityMonitor) : Prop where
  devices : monitor.held = watchedDevices dir
  activity : monitor.lastActivityMs = (lastPress (watchedDevices dir) wakes).getD openMs
  selected : ∀ sock : Int,
    (inputActivityAddFds monitor [sock] sock).1 = sock :: watchedDevices dir ∧
      ∀ fd ∈ (inputActivityAddFds monitor [sock] sock).1,
        fd ≤ (inputActivityAddFds monitor [sock] sock).2
  released : (inputActivityClose monitor).held = [] ∧
    (inputActivityClose monitor).opened.Perm (inputActivityClose monitor).closed

/--
The daemon watches the first devices with keys, the time of activity is that of
the last wake-up with a key press on one of them, and in the end every
descriptor that was opened, watched or not, has been closed exactly once.
-/
theorem inputActivity_watches (dir : Option (List InputEntry)) (startMs openMs : Int)
    (wakes : List InputWake) :
    WatchesInput dir openMs wakes
      (run InputActivityMonitor.wake (inputActivityOpen dir openMs (inputActivityInit startMs))
        wakes) := by
  obtain ⟨owns, held, last⟩ := inputActivityOpen_owns (inputActivityInit_owns startMs) dir openMs
  have after := run_wakes owns wakes
  have owned : (run wake (inputActivityOpen dir openMs (inputActivityInit startMs)) wakes).Owns := by
    rw [after]
    exact ⟨owns.fits, owns.live, owns.clear, owns.balance⟩
  have devices : (run wake (inputActivityOpen dir openMs (inputActivityInit startMs)) wakes).held =
      watchedDevices dir := by
    rw [after]
    exact held
  refine ⟨devices, ?_, fun sock => ?_, ?_⟩
  · rw [after, held, last]
    rfl
  · have set := inputActivityAddFds_spec owned (List.forall_mem_singleton.mpr (Int.le_refl sock))
    rwa [devices] at set
  · have balance := (inputActivityClose_owns owned).balance
    rw [inputActivityClose_eq owned] at balance ⊢
    exact ⟨rfl, by simpa [InputActivityMonitor.held] using balance⟩

end NitroSense
