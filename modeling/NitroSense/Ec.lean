import Mathlib.Logic.Function.Basic
import NitroSense.Lib.Clamp
import NitroSense.Lib.LastUpdate

/-!
# The embedded controller

The EC as the daemon sees it through `ec/ec.h`: 256 byte registers behind
accesses that may fail.  Which accesses fail is a pattern over the accesses in
their order, so a statement about every device is a statement about every
pattern of EC failures.  The device keeps the log of its accesses.
-/

namespace NitroSense

open Lib

/-- `clamp_int`, with the argument order of `util/number.h`. -/
def clampInt (value low high : Int) : Int := clamp low high value

/-- One `ec_write_byte`: the register, the byte asked for and whether it was stored. -/
structure EcWrite where
  reg : Int
  value : Int
  ok : Bool
  deriving DecidableEq, Repr

/-- The register contents, the failure patterns, and the accesses so far, newest first. -/
structure EcDevice where
  regs : Int → UInt8
  readFails : Nat → Bool := fun _ => false
  writeFails : Nat → Bool := fun _ => false
  reads : List Int := []
  writes : List EcWrite := []

namespace EcDevice

def byte (ec : EcDevice) (reg : Int) : Int := (ec.regs reg).toNat

def WritesSucceed (ec : EcDevice) : Prop := ∀ index, ec.writeFails index = false

def nextWriteOk (ec : EcDevice) : Bool := !ec.writeFails ec.writes.length

/-- The EC changes registers of its own accord, such as fan speeds and temperatures. -/
def refresh (ec : EcDevice) (refreshed : Int → Option UInt8) : EcDevice :=
  { ec with regs := fun reg => (refreshed reg).getD (ec.regs reg) }

theorem refresh_byte {ec : EcDevice} {refreshed : Int → Option UInt8} {reg : Int}
    (untouched : refreshed reg = none) : (ec.refresh refreshed).byte reg = ec.byte reg := by
  simp [refresh, byte, untouched]

/-- The writes `after` has in its log beyond those of `before`, newest first. -/
def writesSince (before after : EcDevice) : List EcWrite :=
  after.writes.take (after.writes.length - before.writes.length)

theorem writesSince_of_append {before after : EcDevice} {newer : List EcWrite}
    (log : after.writes = newer ++ before.writes) : writesSince before after = newer := by
  simp [writesSince, log]

end EcDevice

/-- `ec_read_byte`: the byte, or -1. -/
def ecReadByte (ec : EcDevice) (reg : Int) : EcDevice × Int :=
  ({ ec with reads := reg :: ec.reads },
    if ec.readFails ec.reads.length then -1 else ec.byte reg)

/-- `ec_read_word`: two bytes, low first; `low | (high << 8)` is a sum of disjoint bits. -/
def ecReadWord (ec : EcDevice) (reg : Int) : EcDevice × Int :=
  let low := ecReadByte ec reg
  if low.2 < 0 then (low.1, -1)
  else
    let high := ecReadByte low.1 (reg + 1)
    if high.2 < 0 then (high.1, -1) else (high.1, low.2 + 256 * high.2)

/-- `ec_write_byte`: the value is clamped into a byte; the result is whether it was stored. -/
def ecWriteByte (ec : EcDevice) (reg value : Int) : EcDevice × Bool :=
  let ok := ec.nextWriteOk
  let stored := clampInt value 0 255
  ({ ec with
      regs := if ok then Function.update ec.regs reg (UInt8.ofNat stored.toNat) else ec.regs
      writes := ⟨reg, stored, ok⟩ :: ec.writes }, ok)

section Write

variable (ec : EcDevice) (reg value : Int)

@[simp] theorem ecWriteByte_ok : (ecWriteByte ec reg value).2 = ec.nextWriteOk := rfl

@[simp] theorem ecWriteByte_writeFails :
    (ecWriteByte ec reg value).1.writeFails = ec.writeFails := rfl

@[simp] theorem ecWriteByte_writes :
    (ecWriteByte ec reg value).1.writes = ⟨reg, clampInt value 0 255, ec.nextWriteOk⟩ :: ec.writes :=
  rfl

theorem clampInt_byte_bounds (value : Int) :
    0 ≤ clampInt value 0 255 ∧ clampInt value 0 255 ≤ 255 :=
  ⟨le_clamp (by decide) value, clamp_le (by decide) value⟩

/-- A successful write leaves the clamped value in its register. -/
theorem ecWriteByte_byte_self (ok : ec.nextWriteOk = true) :
    (ecWriteByte ec reg value).1.byte reg = clampInt value 0 255 := by
  obtain ⟨lower, upper⟩ := clampInt_byte_bounds value
  have small : (clampInt value 0 255).toNat < 256 := by omega
  simp only [ecWriteByte, EcDevice.byte, ok, if_true, Function.update_self, UInt8.toNat_ofNat']
  rw [Nat.mod_eq_of_lt small]
  omega

/-- A write leaves every other register alone. -/
theorem ecWriteByte_byte_ne {other : Int} (ne : other ≠ reg) :
    (ecWriteByte ec reg value).1.byte other = ec.byte other := by
  simp only [ecWriteByte, EcDevice.byte]
  split
  · rw [Function.update_of_ne ne]
  · rfl

end Write

namespace EcDevice

theorem WritesSucceed.nextWriteOk {ec : EcDevice} (reliable : ec.WritesSucceed) :
    ec.nextWriteOk = true := by
  simp [EcDevice.nextWriteOk, reliable _]

/-! ## What an operation may touch -/

/-- `after` is `before` with more reads in the log. -/
structure OnlyRead (before after : EcDevice) : Prop where
  regs : after.regs = before.regs
  readFails : after.readFails = before.readFails
  writeFails : after.writeFails = before.writeFails
  writes : after.writes = before.writes

namespace OnlyRead

variable {first second third : EcDevice}

@[refl] theorem refl (ec : EcDevice) : OnlyRead ec ec := ⟨rfl, rfl, rfl, rfl⟩

theorem trans (left : OnlyRead first second) (right : OnlyRead second third) :
    OnlyRead first third :=
  ⟨right.regs.trans left.regs, right.readFails.trans left.readFails,
    right.writeFails.trans left.writeFails, right.writes.trans left.writes⟩

theorem byte (only : OnlyRead first second) (reg : Int) : second.byte reg = first.byte reg := by
  rw [EcDevice.byte, only.regs, EcDevice.byte]

end OnlyRead

/-- Between `before` and `after` only registers in `allowed` were written. -/
structure WritesWithin (allowed : Int → Prop) (before after : EcDevice) : Prop where
  byte : ∀ reg, ¬ allowed reg → after.byte reg = before.byte reg
  writeFails : after.writeFails = before.writeFails
  writes : ∃ newer, after.writes = newer ++ before.writes ∧ ∀ write ∈ newer, allowed write.reg

namespace WritesWithin

variable {allowed wider : Int → Prop} {first second third : EcDevice}

@[refl] theorem refl (ec : EcDevice) : WritesWithin allowed ec ec :=
  ⟨fun _ _ => rfl, rfl, [], by simp⟩

theorem trans (left : WritesWithin allowed first second)
    (right : WritesWithin allowed second third) : WritesWithin allowed first third := by
  obtain ⟨leftNewer, leftLog, leftAllowed⟩ := left.writes
  obtain ⟨rightNewer, rightLog, rightAllowed⟩ := right.writes
  refine ⟨fun reg outside => ?_, right.writeFails.trans left.writeFails,
    rightNewer ++ leftNewer, ?_, ?_⟩
  · rw [right.byte reg outside, left.byte reg outside]
  · rw [rightLog, leftLog, List.append_assoc]
  · intro write member
    rcases List.mem_append.mp member with newer | older
    · exact rightAllowed write newer
    · exact leftAllowed write older

theorem mono (within : WritesWithin allowed first second)
    (weaken : ∀ reg, allowed reg → wider reg) : WritesWithin wider first second := by
  obtain ⟨newer, log, newerAllowed⟩ := within.writes
  exact ⟨fun reg outside => within.byte reg fun inside => outside (weaken reg inside),
    within.writeFails, newer, log, fun write member => weaken _ (newerAllowed write member)⟩

theorem writesSucceed (within : WritesWithin allowed first second)
    (reliable : first.WritesSucceed) : second.WritesSucceed := by
  intro index
  rw [within.writeFails]
  exact reliable index

theorem length_le (within : WritesWithin allowed first second) :
    first.writes.length ≤ second.writes.length := by
  obtain ⟨newer, log, -⟩ := within.writes
  rw [log, List.length_append]
  omega

end WritesWithin

/-- `after` has tried `count` more writes than `before`. -/
structure MakesWrites (count : Nat) (before after : EcDevice) : Prop where
  writeFails : after.writeFails = before.writeFails
  length : after.writes.length = before.writes.length + count

namespace MakesWrites

variable {earlier later : Nat} {first second third : EcDevice}

theorem refl (ec : EcDevice) : MakesWrites 0 ec ec := ⟨rfl, rfl⟩

theorem trans (left : MakesWrites earlier first second) (right : MakesWrites later second third) :
    MakesWrites (earlier + later) first third :=
  ⟨right.writeFails.trans left.writeFails, by rw [right.length, left.length, Nat.add_assoc]⟩

theorem writesSucceed (made : MakesWrites earlier first second) (reliable : first.WritesSucceed) :
    second.WritesSucceed := by
  intro index
  rw [made.writeFails]
  exact reliable index

/-- The next write fails as the pattern of `before` says for its place. -/
theorem nextWriteOk (made : MakesWrites earlier first second) :
    second.nextWriteOk = !first.writeFails (first.writes.length + earlier) := by
  rw [EcDevice.nextWriteOk, made.writeFails, made.length]

end MakesWrites

theorem OnlyRead.writesWithin {first second : EcDevice} (only : OnlyRead first second)
    (allowed : Int → Prop) : WritesWithin allowed first second :=
  ⟨fun reg _ => only.byte reg, only.writeFails, [], by simp [only.writes]⟩

end EcDevice

open EcDevice

theorem ecWriteByte_makesWrites (ec : EcDevice) (reg value : Int) :
    MakesWrites 1 ec (ecWriteByte ec reg value).1 := ⟨rfl, rfl⟩

theorem ecReadByte_onlyRead (ec : EcDevice) (reg : Int) : OnlyRead ec (ecReadByte ec reg).1 :=
  ⟨rfl, rfl, rfl, rfl⟩

theorem ecReadWord_onlyRead (ec : EcDevice) (reg : Int) : OnlyRead ec (ecReadWord ec reg).1 := by
  simp only [ecReadWord]
  split
  · exact ecReadByte_onlyRead ec reg
  · split
    · exact (ecReadByte_onlyRead ec reg).trans (ecReadByte_onlyRead _ _)
    · exact (ecReadByte_onlyRead ec reg).trans (ecReadByte_onlyRead _ _)

theorem ecWriteByte_writesWithin {allowed : Int → Prop} (ec : EcDevice) {reg : Int} (value : Int)
    (inside : allowed reg) : WritesWithin allowed ec (ecWriteByte ec reg value).1 := by
  refine ⟨fun other outside => ?_, rfl, [_], rfl, ?_⟩
  · have ne : other ≠ reg := fun same => outside (same ▸ inside)
    exact ecWriteByte_byte_ne ec reg value ne
  · intro write member
    rw [List.mem_singleton.mp member]
    exact inside

/-! ## Writing several registers -/

/-- Writes one after the other, whose results are ignored. -/
def ecWriteAll (ec : EcDevice) (writes : List (Int × Int)) : EcDevice :=
  writes.foldl (fun ec write => (ecWriteByte ec write.1 write.2).1) ec

def EcDevice.NextWritesOk (count : Nat) (ec : EcDevice) : Prop :=
  ∀ index < count, ec.writeFails (ec.writes.length + index) = false

/-- Every EC write between the two devices has succeeded. -/
def WritesWorked (before after : EcDevice) : Prop :=
  ∀ index, before.writes.length ≤ index → index < after.writes.length →
    before.writeFails index = false

theorem EcDevice.MakesWrites.nextWritesOk {before after : EcDevice} {count : Nat}
    (made : MakesWrites count before after) (worked : WritesWorked before after) :
    before.NextWritesOk count := by
  intro index below
  refine worked _ (Nat.le_add_right _ _) ?_
  rw [made.length]
  omega

theorem EcDevice.WritesSucceed.worked {before : EcDevice} (reliable : before.WritesSucceed)
    (after : EcDevice) : WritesWorked before after := fun index _ _ => reliable index

theorem WritesWorked.earlier {first second third : EcDevice} {allowed : Int → Prop}
    (worked : WritesWorked first third) (within : WritesWithin allowed second third) :
    WritesWorked first second :=
  fun index lower upper => worked index lower (Nat.lt_of_lt_of_le upper within.length_le)

theorem WritesWorked.later {first second third : EcDevice} {count : Nat}
    (worked : WritesWorked first third) (made : MakesWrites count first second) :
    WritesWorked second third := by
  intro index lower upper
  rw [made.length] at lower
  rw [made.writeFails]
  exact worked index (by omega) upper

section WriteAll

variable {ec : EcDevice} {first second : List (Int × Int)}

theorem ecWriteAll_append (ec : EcDevice) (first second : List (Int × Int)) :
    ecWriteAll ec (first ++ second) = ecWriteAll (ecWriteAll ec first) second :=
  List.foldl_append

theorem ecWriteAll_makesWrites (ec : EcDevice) (writes : List (Int × Int)) :
    MakesWrites writes.length ec (ecWriteAll ec writes) := by
  induction writes generalizing ec with
  | nil => exact MakesWrites.refl ec
  | cons write rest ih =>
      have step := (ecWriteByte_makesWrites ec write.1 write.2).trans (ih _)
      rw [Nat.add_comm] at step
      exact step

theorem EcDevice.NextWritesOk.nextWriteOk {count : Nat} (ok : ec.NextWritesOk (count + 1)) :
    ec.nextWriteOk = true := by
  have here := ok 0 (Nat.succ_pos count)
  simpa [EcDevice.nextWriteOk] using here

theorem EcDevice.NextWritesOk.after {made later : Nat} {next : EcDevice}
    (ok : ec.NextWritesOk (made + later)) (writes : MakesWrites made ec next) :
    next.NextWritesOk later := by
  intro index below
  rw [writes.writeFails, writes.length, Nat.add_assoc]
  exact ok (made + index) (by omega)

/-- Successful writes of bytes leave each register with the last value written to it. -/
theorem ecWriteAll_byte {writes : List (Int × Int)} (ok : ec.NextWritesOk writes.length)
    (bytes : ∀ write ∈ writes, clampInt write.2 0 255 = write.2) (reg : Int) :
    (ecWriteAll ec writes).byte reg = (lastUpdate writes reg).getD (ec.byte reg) := by
  induction writes generalizing ec with
  | nil => rfl
  | cons write rest ih =>
      have works := ok.nextWriteOk
      rw [List.length_cons, Nat.add_comm] at ok
      have later := ok.after (ecWriteByte_makesWrites ec write.1 write.2)
      have after : (ecWriteByte ec write.1 write.2).1.byte reg =
          (if write.1 = reg then some write.2 else none).getD (ec.byte reg) := by
        by_cases here : write.1 = reg
        · rw [if_pos here, ← here, ecWriteByte_byte_self _ _ _ works,
            bytes write List.mem_cons_self]
          rfl
        · rw [if_neg here, ecWriteByte_byte_ne _ _ _ (Ne.symm here)]
          rfl
      have run := ih later fun next member => bytes next (List.mem_cons_of_mem _ member)
      rw [after] at run
      refine run.trans ?_
      rw [lastUpdate]
      cases lastUpdate rest reg with
      | none => rfl
      | some value => rfl

end WriteAll

end NitroSense
