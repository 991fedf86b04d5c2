import NitroSense.Lib.Run
import NitroSense.Fan.Observation
import NitroSense.Fan.CriticalSamples

/-!
# What the spike filter remembers

The filter accepts a jump of the control temperature when the sample repeats
the pending one.  A pending sample is the newest one that was kept back, but an
unreadable sample never reaches the filter and leaves it pending, so it need
not be the sample of the preceding poll.
-/

namespace NitroSense

open Lib

/-- The control channel of a fan after these raw samples, oldest first. -/
def TempChannel.after (cfg : AnsConfig) (channel : TempChannel) (samples : List Int) :
    TempChannel :=
  run (fun channel sensorTemp => channel.refresh sensorTemp cfg.criticalTemperatureC) channel
    samples

/-- The filter keeps a readable sample back: it returns another temperature. -/
structure TempChannel.HoldsBack (cfg : AnsConfig) (channel : TempChannel) (sensorTemp : Int) :
    Prop where
  readable : 0 ≤ sensorTemp
  replaced : (fanFilteredSensorTemp channel.tempC channel.pendingSpikeTempC sensorTemp
    channel.seeded cfg.criticalTemperatureC).1 ≠ sensorTemp

/-- The newest of the earlier samples is close to `celsius` and was itself kept back. -/
def ConfirmedByPreceding (cfg : AnsConfig) (start : TempChannel) (earlier : List Int)
    (celsius : Int) : Prop :=
  ∃ before previous, earlier = before ++ [previous] ∧
    (celsius - previous).natAbs ≤ tempSpikeAcceptDeltaC ∧
      (start.after cfg before).HoldsBack cfg previous

/-- A jump from a seeded temperature. -/
structure Jump (channel : TempChannel) (sensorTemp : Int) : Prop where
  readable : 0 ≤ sensorTemp
  rises : sensorTemp ≥ channel.tempC + tempSpikeFilterDeltaC

instance (channel : TempChannel) (sensorTemp : Int) : Decidable (Jump channel sensorTemp) :=
  decidable_of_iff (0 ≤ sensorTemp ∧ sensorTemp ≥ channel.tempC + tempSpikeFilterDeltaC)
    ⟨fun jump => ⟨jump.1, jump.2⟩, fun jump => ⟨jump.readable, jump.rises⟩⟩

/-- A jump starts above 0 °C, and repeats a pending sample only right after a readable one. -/
def FreshPending (channel : TempChannel) (precedingTemp sensorTemp : Int) : Prop :=
  channel.seeded = true → Jump channel sensorTemp →
    0 < channel.tempC ∧
      (repeatsPending channel.pendingSpikeTempC sensorTemp = true → 0 ≤ precedingTemp)

instance (channel : TempChannel) (precedingTemp sensorTemp : Int) :
    Decidable (FreshPending channel precedingTemp sensorTemp) :=
  inferInstanceAs (Decidable (_ → _ → _ ∧ (_ → _)))

section Filter

variable {cfg : AnsConfig} {channel : TempChannel} {sensorTemp criticalTemperatureC : Int}

/-- The filter accepts a readable sample, or keeps it back for no temperature or the current one. -/
theorem filter_cases (current pending : Int) (readable : 0 ≤ sensorTemp) (trusted : Bool)
    (criticalTemperatureC : Int) :
    fanFilteredSensorTemp current pending sensorTemp trusted criticalTemperatureC =
        (sensorTemp, 0) ∨
      ∃ kept, kept ≠ sensorTemp ∧
        (trusted = false ∧ kept = -1 ∨ 0 < current ∧ kept = current) ∧
        fanFilteredSensorTemp current pending sensorTemp trusted criticalTemperatureC =
          (kept, sensorTemp) := by
  unfold fanFilteredSensorTemp
  rw [if_neg (not_lt.mpr readable)]
  split
  · rename_i untrusted
    have fresh : trusted = false := by
      rw [Bool.and_eq_true, Bool.not_eq_true'] at untrusted
      exact untrusted.1
    split
    · exact Or.inl rfl
    · exact Or.inr ⟨-1, by omega, Or.inl ⟨fresh, rfl⟩, rfl⟩
  · split
    · rename_i jump
      split
      · exact Or.inl rfl
      · exact Or.inr ⟨current, by omega, Or.inr ⟨jump.1, rfl⟩, rfl⟩
    · exact Or.inl rfl

/-- A trusted channel keeps back the jumps that do not repeat the pending sample. -/
theorem holdsBack_iff (seeded : channel.seeded = true) :
    channel.HoldsBack cfg sensorTemp ↔
      Jump channel sensorTemp ∧ 0 < channel.tempC ∧
        repeatsPending channel.pendingSpikeTempC sensorTemp = false := by
  have trusted : ∀ readable : 0 ≤ sensorTemp,
      (fanFilteredSensorTemp channel.tempC channel.pendingSpikeTempC sensorTemp channel.seeded
        cfg.criticalTemperatureC).1 =
      if channel.tempC > 0 ∧ sensorTemp > channel.tempC ∧
          sensorTemp - channel.tempC ≥ tempSpikeFilterDeltaC then
        if repeatsPending channel.pendingSpikeTempC sensorTemp then sensorTemp else channel.tempC
      else sensorTemp := by
    intro readable
    rw [fanFilteredSensorTemp, if_neg (not_lt.mpr readable), if_neg (by simp [seeded])]
    simp only [repeatsPending, decide_eq_true_eq]
    split
    · split
      · rfl
      · rfl
    · rfl
  have rise : tempSpikeFilterDeltaC = 15 := rfl
  constructor
  · rintro ⟨readable, replaced⟩
    rw [trusted readable] at replaced
    split at replaced
    · rename_i jump
      split at replaced
      · exact absurd rfl replaced
      · rename_i fresh
        exact ⟨⟨readable, by omega⟩, jump.1, by simpa using fresh⟩
    · exact absurd rfl replaced
  · rintro ⟨⟨readable, rises⟩, positive, fresh⟩
    refine ⟨readable, ?_⟩
    rw [trusted readable, if_pos ⟨positive, by omega, by omega⟩, fresh,
      if_neg Bool.false_ne_true]
    omega

/-- What one sample does to a channel. -/
theorem refresh_cases (cfg : AnsConfig) (channel : TempChannel) (sensorTemp : Int) :
    (sensorTemp < 0 ∧ channel.refresh sensorTemp cfg.criticalTemperatureC =
      ⟨if channel.tempC ≤ 0 then -1 else channel.tempC, channel.pendingSpikeTempC, false,
        channel.seeded⟩) ∨
    (0 ≤ sensorTemp ∧ ¬ channel.HoldsBack cfg sensorTemp ∧
      channel.refresh sensorTemp cfg.criticalTemperatureC = ⟨sensorTemp, 0, true, true⟩) ∨
    (channel.HoldsBack cfg sensorTemp ∧ channel.seeded = false ∧
      channel.refresh sensorTemp cfg.criticalTemperatureC =
        ⟨if channel.tempC ≤ 0 then -1 else channel.tempC, sensorTemp, false, false⟩) ∨
    (channel.HoldsBack cfg sensorTemp ∧ 0 < channel.tempC ∧
      channel.refresh sensorTemp cfg.criticalTemperatureC =
        ⟨channel.tempC, sensorTemp, true, true⟩) := by
  unfold TempChannel.refresh
  by_cases readable : sensorTemp ≥ 0
  · rw [if_pos readable]
    dsimp only
    rcases filter_cases channel.tempC channel.pendingSpikeTempC readable channel.seeded
      cfg.criticalTemperatureC with result | ⟨kept, other, reason, result⟩
    · refine Or.inr (Or.inl ⟨readable, fun held => held.replaced (by rw [result]), ?_⟩)
      rw [result, if_pos readable]
    · have held : channel.HoldsBack cfg sensorTemp := ⟨readable, by rw [result]; exact other⟩
      rcases reason with ⟨fresh, rfl⟩ | ⟨positive, rfl⟩
      · refine Or.inr (Or.inr (Or.inl ⟨held, fresh, ?_⟩))
        rw [result, if_neg (by decide : ¬ (-1 : Int) ≥ 0), fresh]
      · refine Or.inr (Or.inr (Or.inr ⟨held, positive, ?_⟩))
        rw [result, if_pos (le_of_lt positive)]
  · rw [if_neg readable]
    exact Or.inl ⟨by omega, rfl⟩

/-- A jump shows at once when it starts at 0 °C or below, or repeats the pending sample. -/
theorem refresh_rises_iff (seeded : channel.seeded = true) (floor : -1 ≤ channel.tempC) :
    (channel.refresh sensorTemp cfg.criticalTemperatureC).tempC ≥
        channel.tempC + tempSpikeFilterDeltaC ↔
      Jump channel sensorTemp ∧
        (0 < channel.tempC → repeatsPending channel.pendingSpikeTempC sensorTemp = true) := by
  have rise : tempSpikeFilterDeltaC = 15 := rfl
  rcases refresh_cases cfg channel sensorTemp with
    ⟨unreadable, after⟩ | ⟨readable, accepted, after⟩ | ⟨-, fresh, -⟩ | ⟨held, positive, after⟩
  · rw [after]
    refine ⟨fun rises => ?_, fun shows => absurd shows.1.readable (not_le.mpr unreadable)⟩
    dsimp only at rises
    split at rises <;> omega
  · rw [after]
    rw [holdsBack_iff seeded] at accepted
    constructor
    · intro rises
      refine ⟨⟨readable, rises⟩, fun positive => ?_⟩
      by_contra repeats
      exact accepted ⟨⟨readable, rises⟩, positive, Bool.eq_false_of_not_eq_true repeats⟩
    · exact fun shows => shows.1.rises
  · rw [seeded] at fresh
    cases fresh
  · rw [after]
    obtain ⟨-, -, fresh⟩ := (holdsBack_iff seeded).mp held
    refine ⟨fun rises => ?_, fun shows => ?_⟩
    · dsimp only at rises
      omega
    · rw [shows.2 positive] at fresh
      cases fresh

/-- A jump that shows is the accepted sample. -/
theorem refresh_rises_eq (seeded : channel.seeded = true) (floor : -1 ≤ channel.tempC)
    (rises : (channel.refresh sensorTemp cfg.criticalTemperatureC).tempC ≥
      channel.tempC + tempSpikeFilterDeltaC) :
    (channel.refresh sensorTemp cfg.criticalTemperatureC).tempC = sensorTemp := by
  have shows := (refresh_rises_iff seeded floor).mp rises
  rcases refresh_cases cfg channel sensorTemp with
    ⟨unreadable, -⟩ | ⟨-, -, after⟩ | ⟨-, fresh, -⟩ | ⟨held, positive, -⟩
  · exact absurd shows.1.readable (not_le.mpr unreadable)
  · rw [after]
  · rw [seeded] at fresh
    cases fresh
  · obtain ⟨-, -, fresh⟩ := (holdsBack_iff seeded).mp held
    rw [shows.2 positive] at fresh
    cases fresh

end Filter

/-! ## The history of a channel -/

section History

variable {cfg : AnsConfig} {start : TempChannel} {earlier : List Int}

theorem after_concat (cfg : AnsConfig) (start : TempChannel) (samples : List Int)
    (sensorTemp : Int) :
    start.after cfg (samples ++ [sensorTemp]) =
      (start.after cfg samples).refresh sensorTemp cfg.criticalTemperatureC :=
  run_concat _ start samples sensorTemp

/-- The temperature of a channel is at least -1, the mark of an unknown one. -/
theorem after_floor (floor : -1 ≤ start.tempC) (samples : List Int) :
    -1 ≤ (start.after cfg samples).tempC := by
  refine run_preserves (fun channel : TempChannel => -1 ≤ channel.tempC) floor ?_ samples
  intro channel sensorTemp before
  rcases refresh_cases cfg channel sensorTemp with
    ⟨-, after⟩ | ⟨readable, -, after⟩ | ⟨-, -, after⟩ | ⟨-, -, after⟩
  · rw [after]
    dsimp only
    split <;> omega
  · rw [after]
    exact le_trans (by decide) readable
  · rw [after]
    dsimp only
    split <;> omega
  · rw [after]
    exact before

/-- Behind a sample kept back a seeded channel is above 0 °C, and remembers that sample. -/
theorem after_heldBack {before : List Int} {previous : Int}
    (held : (start.after cfg before).HoldsBack cfg previous) :
    (start.after cfg (before ++ [previous])).pendingSpikeTempC = previous ∧
      ((start.after cfg (before ++ [previous])).seeded = true →
        0 < (start.after cfg (before ++ [previous])).tempC) := by
  rw [after_concat]
  rcases refresh_cases cfg (start.after cfg before) previous with
    ⟨unreadable, -⟩ | ⟨-, accepted, -⟩ | ⟨-, -, after⟩ | ⟨-, positive, after⟩
  · exact absurd held.readable (not_le.mpr unreadable)
  · exact absurd held accepted
  · rw [after]
    refine ⟨rfl, fun seeded => ?_⟩
    cases seeded
  · rw [after]
    exact ⟨rfl, fun _ => positive⟩

/-- What is pending behind a readable sample is that sample, kept back. -/
theorem heldBack_of_pending {before : List Int} {previous : Int} (readable : 0 ≤ previous)
    (pending : (start.after cfg (before ++ [previous])).pendingSpikeTempC > 0) :
    (start.after cfg before).HoldsBack cfg previous := by
  rw [after_concat] at pending
  by_contra accepted
  rcases refresh_cases cfg (start.after cfg before) previous with
    ⟨unreadable, -⟩ | ⟨-, -, after⟩ | ⟨held, -⟩ | ⟨held, -⟩
  · exact absurd readable (not_le.mpr unreadable)
  · rw [after] at pending
    exact absurd pending (lt_irrefl 0)
  · exact accepted held
  · exact accepted held

/--
A jump that shows is confirmed by the preceding sample exactly when it starts
above 0 °C and repeats the pending sample right after a readable one.
-/
theorem rise_confirmed_iff (settled : start.pendingSpikeTempC = 0) (floor : -1 ≤ start.tempC)
    {precedingTemp : Int} (preceding : ∀ before previous, earlier = before ++ [previous] →
      precedingTemp = previous) (sensorTemp : Int) :
    let channel := start.after cfg earlier
    let next := channel.refresh sensorTemp cfg.criticalTemperatureC
    (channel.seeded = true → next.tempC ≥ channel.tempC + tempSpikeFilterDeltaC →
      ConfirmedByPreceding cfg start earlier next.tempC) ↔
      FreshPending channel precedingTemp sensorTemp := by
  intro channel next
  have low : -1 ≤ channel.tempC := after_floor floor earlier
  constructor
  · intro confirmed seeded jump
    have newest : (0 < channel.tempC →
        repeatsPending channel.pendingSpikeTempC sensorTemp = true) →
        ∃ before previous, earlier = before ++ [previous] ∧
          (start.after cfg before).HoldsBack cfg previous := by
      intro shows
      obtain ⟨before, previous, split, -, held⟩ :=
        confirmed seeded ((refresh_rises_iff seeded low).mpr ⟨jump, shows⟩)
      exact ⟨before, previous, split, held⟩
    constructor
    · by_contra cold
      obtain ⟨before, previous, rfl, held⟩ := newest fun positive => absurd positive cold
      exact cold ((after_heldBack held).2 seeded)
    · intro repeats
      obtain ⟨before, previous, split, held⟩ := newest fun _ => repeats
      rw [preceding before previous split]
      exact held.readable
  · intro fresh seeded rises
    obtain ⟨jump, shows⟩ := (refresh_rises_iff seeded low).mp rises
    obtain ⟨positive, readable⟩ := fresh seeded jump
    have repeats := shows positive
    obtain ⟨pending, near⟩ := of_decide_eq_true repeats
    have sample : next.tempC = sensorTemp := refresh_rises_eq seeded low rises
    rcases List.eq_nil_or_concat' earlier with rfl | ⟨before, previous, rfl⟩
    · exact absurd pending (by rw [show channel.pendingSpikeTempC = 0 from settled]; decide)
    · have last : precedingTemp = previous := preceding before previous rfl
      have held := heldBack_of_pending (last ▸ readable repeats) pending
      refine ⟨before, previous, rfl, ?_, held⟩
      rw [sample, ← (after_heldBack held).1]
      exact near

end History

end NitroSense
