import NitroSense.Lib.Run
import NitroSense.Lib.Staircase
import NitroSense.Fan.Settling

/-!
# Fan curves

`curve_speed` walks its table twice: once for the speed of the last point that
the temperature reaches, once for a point that holds the current percent.  The
first walk is a staircase, so hotter never means slower exactly when the speeds
rise along its stairs; on an ascending curve the second one keeps a speed until
the temperature leaves the band of its point.
-/

namespace NitroSense

open Lib

/-- The speed `curve_speed` starts from. -/
def FanConfig.firstSpeed (fan : FanConfig) : Int :=
  match fan.curve with
  | [] => 50
  | threshold :: _ => threshold.speed

theorem curveSelected_eq (fan : FanConfig) :
    curveSelected fan = staircase Threshold.up Threshold.speed fan.firstSpeed fan.curve := rfl

/-- Some point has the current percent as its speed and its down threshold is still met. -/
def CurveHolds (fan : FanConfig) (tempC currentPercent : Int) : Prop :=
  ∃ threshold ∈ fan.curve, threshold.speed = currentPercent ∧ threshold.down ≤ tempC

instance (fan : FanConfig) (tempC currentPercent : Int) :
    Decidable (CurveHolds fan tempC currentPercent) :=
  inferInstanceAs (Decidable (∃ threshold ∈ fan.curve, _))

theorem curveSpeed_of_holds {fan : FanConfig} {tempC currentPercent : Int}
    (holds : CurveHolds fan tempC currentPercent) :
    curveSpeed fan tempC currentPercent = max currentPercent (curveSelected fan tempC) := by
  obtain ⟨threshold, member, speed, down⟩ := holds
  have held : (fan.curve.any fun threshold =>
      threshold.speed = currentPercent && tempC ≥ threshold.down) = true :=
    List.any_eq_true.mpr ⟨threshold, member, by simp [speed, down]⟩
  change (if (fan.curve.any fun threshold =>
      threshold.speed = currentPercent && tempC ≥ threshold.down) = true
    then if currentPercent > curveSelected fan tempC then currentPercent
      else curveSelected fan tempC
    else curveSelected fan tempC) = _
  rw [if_pos held]
  omega

theorem curveSpeed_of_not_holds {fan : FanConfig} {tempC currentPercent : Int}
    (free : ¬ CurveHolds fan tempC currentPercent) :
    curveSpeed fan tempC currentPercent = curveSelected fan tempC := by
  have open' : ¬ (fan.curve.any fun threshold =>
      threshold.speed = currentPercent && tempC ≥ threshold.down) = true := by
    intro held
    obtain ⟨threshold, member, same⟩ := List.any_eq_true.mp held
    refine free ⟨threshold, member, ?_⟩
    simpa using same
  exact if_neg open'

/-- The selected speed is a lower bound. -/
theorem curveSelected_le_curveSpeed (fan : FanConfig) (tempC currentPercent : Int) :
    curveSelected fan tempC ≤ curveSpeed fan tempC currentPercent := by
  by_cases holds : CurveHolds fan tempC currentPercent
  · rw [curveSpeed_of_holds holds]
    exact le_max_right currentPercent _
  · rw [curveSpeed_of_not_holds holds]

/-! ## Hotter and slower -/

/-- Hotter never means slower on the curve of this fan. -/
def HotterNeverSlower (fan : FanConfig) : Prop :=
  ∀ currentPercent, Monotone fun tempC => curveSpeed fan tempC currentPercent

/-- In file order, the speeds of the points that no later point undercuts never fall, from the
speed of the first point on. -/
def FanConfig.SpeedsRise (fan : FanConfig) : Prop :=
  (fan.firstSpeed :: (stairs Threshold.up fan.curve).map Threshold.speed).Pairwise (· ≤ ·)

instance (fan : FanConfig) : Decidable fan.SpeedsRise := inferInstanceAs (Decidable (List.Pairwise _ _))

theorem curveSelected_monotone_iff (fan : FanConfig) :
    Monotone (curveSelected fan) ↔ fan.SpeedsRise := by
  have unbounded : NoMinOrder Int := ⟨fun level => ⟨level - 1, by omega⟩⟩
  rw [curveSelected_eq]
  exact staircase_monotone_iff

/-- A point that holds the percent goes on holding it at higher temperatures. -/
theorem CurveHolds.hotter {fan : FanConfig} {cooler hotter currentPercent : Int}
    (holds : CurveHolds fan cooler currentPercent) (le : cooler ≤ hotter) :
    CurveHolds fan hotter currentPercent := by
  obtain ⟨threshold, member, speed, down⟩ := holds
  exact ⟨threshold, member, speed, le_trans down le⟩

theorem hotterNeverSlower_of_monotone {fan : FanConfig} (monotone : Monotone (curveSelected fan)) :
    HotterNeverSlower fan := by
  intro currentPercent cooler hotter le
  change curveSpeed fan cooler currentPercent ≤ curveSpeed fan hotter currentPercent
  by_cases holds : CurveHolds fan cooler currentPercent
  · rw [curveSpeed_of_holds holds, curveSpeed_of_holds (holds.hotter le)]
    exact max_le_max (le_refl currentPercent) (monotone le)
  · rw [curveSpeed_of_not_holds holds]
    exact le_trans (monotone le) (curveSelected_le_curveSpeed fan hotter currentPercent)

/-- At a current percent of 0 nothing above the selected speed is held. -/
theorem curveSpeed_zero {fan : FanConfig} (valid : fan.Valid) (tempC : Int) :
    curveSpeed fan tempC 0 = curveSelected fan tempC := by
  by_cases holds : CurveHolds fan tempC 0
  · rw [curveSpeed_of_holds holds]
    exact max_eq_right (curveSelected_range valid tempC).1
  · exact curveSpeed_of_not_holds holds

/-- Hotter never means slower exactly on the accepted curves whose effective speeds rise. -/
theorem hotterNeverSlower_iff {cfg : AnsConfig} (valid : cfg.Valid) {fan : FanConfig}
    (member : fan ∈ cfg.fans) : HotterNeverSlower fan ↔ fan.SpeedsRise := by
  rw [← curveSelected_monotone_iff]
  constructor
  · intro claim cooler hotter le
    have slower := claim 0 le
    dsimp only at slower
    rw [curveSpeed_zero (valid.fans fan member), curveSpeed_zero (valid.fans fan member)] at slower
    exact slower
  · exact hotterNeverSlower_of_monotone

/-- The up thresholds ascend strictly and the speeds do not fall. -/
def FanConfig.CurveClimbs (fan : FanConfig) : Prop :=
  fan.curve.Pairwise fun first second => first.up < second.up ∧ first.speed ≤ second.speed

instance (fan : FanConfig) : Decidable fan.CurveClimbs :=
  inferInstanceAs (Decidable (List.Pairwise _ _))

theorem FanConfig.CurveClimbs.speedsRise {fan : FanConfig} (climbs : fan.CurveClimbs) :
    fan.SpeedsRise := by
  have levels : fan.curve.Pairwise fun first second => first.up < second.up :=
    climbs.imp And.left
  have speeds : (fan.curve.map Threshold.speed).Pairwise (· ≤ ·) :=
    List.pairwise_map.mpr (climbs.imp And.right)
  rw [FanConfig.SpeedsRise, stairs_of_rising levels]
  refine List.pairwise_cons.mpr ⟨fun speed member => ?_, speeds⟩
  unfold FanConfig.firstSpeed
  split
  · rename_i empty
    rw [empty] at member
    exact absurd member List.not_mem_nil
  · rename_i first rest curve
    rw [curve, List.map_cons] at member speeds
    rcases List.mem_cons.mp member with rfl | later
    · exact le_refl _
    · exact (List.pairwise_cons.mp speeds).1 speed later

/-- No point of a climbing curve is undercut. -/
theorem FanConfig.CurveClimbs.hotterNeverSlower {fan : FanConfig} (climbs : fan.CurveClimbs) :
    HotterNeverSlower fan :=
  hotterNeverSlower_of_monotone ((curveSelected_monotone_iff fan).mpr climbs.speedsRise)

/-- The shipped curves climb. -/
theorem hotterNeverSlower_shipped :
    HotterNeverSlower AcerNitroAn517.cpuFan ∧ HotterNeverSlower AcerNitroAn517.gpuFan := by
  have cpu : AcerNitroAn517.cpuFan.CurveClimbs := by decide
  have gpu : AcerNitroAn517.gpuFan.CurveClimbs := by decide
  refine ⟨(hotterNeverSlower_iff AcerNitroAn517.config_valid ?_).mpr cpu.speedsRise,
    (hotterNeverSlower_iff AcerNitroAn517.config_valid ?_).mpr gpu.speedsRise⟩
  · exact List.mem_cons_self
  · exact List.mem_cons_of_mem _ List.mem_cons_self

/-- The shipped profile with a CPU curve that slows down from 60 °C on. -/
def AcerNitroAn517.fallingConfig : AnsConfig :=
  { config with fans := [{ cpuFan with curve := [⟨0, 0, 60⟩, ⟨60, 55, 30⟩] }, gpuFan] }

theorem AcerNitroAn517.fallingConfig_valid : fallingConfig.Valid :=
  { config_valid with
    fans := by
      intro fan member
      rcases List.mem_cons.mp member with rfl | rest
      · exact { cpuFan_valid with curve := by decide }
      · rw [List.mem_singleton.mp rest]
        exact gpuFan_valid
    fanLen := by decide }

/-- An accepted curve selects 60 % at 50 °C and 30 % at 60 °C. -/
theorem hotterNeverSlower_fails :
    ¬ ∀ cfg : AnsConfig, cfg.Valid → ∀ fan ∈ cfg.fans, HotterNeverSlower fan := by
  intro claim
  have slower := claim AcerNitroAn517.fallingConfig AcerNitroAn517.fallingConfig_valid _
    List.mem_cons_self 0 (show (50 : Int) ≤ 60 by decide)
  exact absurd slower (by decide)

/-! ## Hysteresis -/

/-- Up thresholds and speeds are strictly ascending, as in the shipped models. -/
def FanConfig.CurveAscending (fan : FanConfig) : Prop :=
  fan.curve.Pairwise fun first second => first.up < second.up ∧ first.speed < second.speed

instance (fan : FanConfig) : Decidable fan.CurveAscending :=
  inferInstanceAs (Decidable (List.Pairwise _ _))

/-- The plain curve value: the speed of the highest point at or below the temperature, and the
speed `curve_speed` starts from where there is none. -/
def PlainSpeed (fan : FanConfig) (tempC speed : Int) : Prop :=
  (∃ highest ∈ fan.curve, highest.up ≤ tempC ∧ speed = highest.speed ∧
    ∀ other ∈ fan.curve, other.up ≤ tempC → other.up ≤ highest.up) ∨
  (∀ threshold ∈ fan.curve, tempC < threshold.up) ∧ speed = fan.firstSpeed

/-- The temperatures from the down threshold of point `i` up to the next up threshold. -/
def InBand (fan : FanConfig) (i : Nat) (threshold : Threshold) (tempC : Int) : Prop :=
  threshold.down ≤ tempC ∧ ∀ next, fan.curve[i + 1]? = some next → tempC < next.up

section Hysteresis

variable {fan : FanConfig} (ascending : fan.CurveAscending)

include ascending

/-- The plain curve value is what the first walk selects, and nothing else. -/
theorem plainSpeed_iff (tempC speed : Int) :
    PlainSpeed fan tempC speed ↔ speed = curveSelected fan tempC := by
  rw [curveSelected_eq]
  constructor
  · rintro (⟨highest, member, reached, rfl, top⟩ | ⟨unreached, rfl⟩)
    · obtain ⟨before, after, split⟩ := List.append_of_mem member
      rw [FanConfig.CurveAscending, split] at ascending
      have above := (List.pairwise_cons.mp (List.pairwise_append.mp ascending).2.1).1
      have unreached : ∀ later ∈ after, tempC < later.up := by
        intro later inside
        have higher := (above later inside).1
        have inCurve : later ∈ fan.curve := by
          rw [split]
          exact List.mem_append_right before (List.mem_cons_of_mem highest inside)
        by_contra low
        have bounded := top later inCurve (not_lt.mp low)
        omega
      rw [split]
      exact (staircase_split reached unreached).symm
    · exact (staircase_below unreached).symm
  · rintro rfl
    rcases exists_last_reached Threshold.up fan.curve tempC with
      unreached | ⟨before, highest, after, split, reached, unreached⟩
    · exact Or.inr ⟨unreached, staircase_below unreached⟩
    · refine Or.inl ⟨highest, by simp [split], reached, ?_, fun other member low => ?_⟩
      · rw [split]
        exact staircase_split reached unreached
      · rw [FanConfig.CurveAscending, split] at ascending
        rw [split] at member
        rcases List.mem_append.mp member with earlier | later
        · have less := (List.pairwise_append.mp ascending).2.2 other earlier highest
            List.mem_cons_self
          exact le_of_lt less.1
        · rcases List.mem_cons.mp later with rfl | behind
          · exact le_refl _
          · have above := unreached other behind
            omega

/-- Points further down the file have higher thresholds and speeds. -/
theorem ascending_getElem? {i j : Nat} (less : i < j) {lower higher : Threshold}
    (first : fan.curve[i]? = some lower) (second : fan.curve[j]? = some higher) :
    lower.up < higher.up ∧ lower.speed < higher.speed := by
  obtain ⟨firstBound, rfl⟩ := List.getElem?_eq_some_iff.mp first
  obtain ⟨secondBound, rfl⟩ := List.getElem?_eq_some_iff.mp second
  exact List.pairwise_iff_getElem.mp ascending i j firstBound secondBound less

/-- In the band of a point the plain value is at most its speed. -/
theorem curveSelected_in_band {i : Nat} {threshold : Threshold}
    (point : fan.curve[i]? = some threshold) {tempC : Int} (band : InBand fan i threshold tempC) :
    curveSelected fan tempC ≤ threshold.speed := by
  have behind {j : Nat} {other : Threshold} (at' : fan.curve[j]? = some other) (le : j ≤ i) :
      other.speed ≤ threshold.speed := by
    rcases Nat.lt_or_eq_of_le le with less | rfl
    · exact le_of_lt (ascending_getElem? ascending less at' point).2
    · rw [Option.some.inj (at'.symm.trans point)]
  rcases (plainSpeed_iff ascending tempC _).mpr rfl with
    ⟨highest, member, reached, selected, -⟩ | ⟨-, selected⟩
  · rw [selected]
    obtain ⟨j, at'⟩ := List.mem_iff_getElem?.mp member
    refine behind at' (Nat.le_of_not_lt fun beyond => ?_)
    -- a point behind `i` is at or behind the next one, which is not reached
    obtain ⟨bound, -⟩ := List.getElem?_eq_some_iff.mp at'
    have next := List.getElem?_eq_getElem (show i + 1 < fan.curve.length by omega)
    have unreached := band.2 _ next
    rcases Nat.lt_or_eq_of_le (show i + 1 ≤ j from beyond) with less | rfl
    · have higher := (ascending_getElem? ascending less next at').1
      omega
    · rw [Option.some.inj (next.symm.trans at')] at unreached
      omega
  · rw [selected]
    cases curve : fan.curve with
    | nil => rw [curve] at point; simp at point
    | cons first rest =>
        have firstSpeed : fan.firstSpeed = first.speed := by rw [FanConfig.firstSpeed, curve]
        rw [firstSpeed]
        exact behind (by rw [curve]; rfl) (Nat.zero_le i)

/-- In its band a point keeps its speed. -/
theorem curveSpeed_in_band {i : Nat} {threshold : Threshold}
    (point : fan.curve[i]? = some threshold) {tempC : Int} (band : InBand fan i threshold tempC) :
    curveSpeed fan tempC threshold.speed = threshold.speed := by
  have holds : CurveHolds fan tempC threshold.speed :=
    ⟨threshold, List.mem_iff_getElem?.mpr ⟨i, point⟩, rfl, band.1⟩
  rw [curveSpeed_of_holds holds]
  exact max_eq_left (curveSelected_in_band ascending point band)

/-- Along temperatures in its band a point keeps its speed. -/
theorem curveSpeed_along_band {i : Nat} {threshold : Threshold}
    (point : fan.curve[i]? = some threshold) {temps : List Int}
    (band : ∀ tempC ∈ temps, InBand fan i threshold tempC) :
    Along (fun percent tempC => curveSpeed fan tempC percent)
      (fun percent tempC => curveSpeed fan tempC percent = threshold.speed) threshold.speed temps := by
  induction temps with
  | nil => trivial
  | cons tempC rest ih =>
      have kept := curveSpeed_in_band ascending point (band tempC List.mem_cons_self)
      refine ⟨kept, ?_⟩
      dsimp only
      rw [kept]
      exact ih fun later member => band later (List.mem_cons_of_mem tempC member)

omit ascending in
/-- The speed exceeds the selected one only by holding the current percent. -/
theorem curveSpeed_exceeds {tempC currentPercent : Int}
    (exceeds : curveSelected fan tempC < curveSpeed fan tempC currentPercent) :
    curveSpeed fan tempC currentPercent = currentPercent ∧ CurveHolds fan tempC currentPercent := by
  by_cases holds : CurveHolds fan tempC currentPercent
  · rw [curveSpeed_of_holds holds] at exceeds ⊢
    exact ⟨by omega, holds⟩
  · rw [curveSpeed_of_not_holds holds] at exceeds
    exact absurd exceeds (lt_irrefl _)

/--
On an ascending curve a percent that is the speed of a point stays there along
every sequence of temperatures in the band of that point, and any curve speed is
the plain curve value or a higher percent that a point still holds.
-/
theorem curveSpeed_hysteresis :
    (∀ (i : Nat) (threshold : Threshold), fan.curve[i]? = some threshold →
      ∀ temps : List Int, (∀ tempC ∈ temps, InBand fan i threshold tempC) →
        Along (fun percent tempC => curveSpeed fan tempC percent)
          (fun percent tempC => curveSpeed fan tempC percent = threshold.speed)
          threshold.speed temps) ∧
    ∀ tempC currentPercent, ∃ plain, (∀ speed, PlainSpeed fan tempC speed ↔ speed = plain) ∧
      plain ≤ curveSpeed fan tempC currentPercent ∧
        (plain < curveSpeed fan tempC currentPercent →
          curveSpeed fan tempC currentPercent = currentPercent ∧
            CurveHolds fan tempC currentPercent) := by
  constructor
  · intro i threshold point temps band
    exact curveSpeed_along_band ascending point band
  · intro tempC currentPercent
    exact ⟨curveSelected fan tempC, plainSpeed_iff ascending tempC,
      curveSelected_le_curveSpeed fan tempC currentPercent, curveSpeed_exceeds⟩

end Hysteresis

/-- The shipped CPU curve is ascending. -/
theorem curveSpeed_hysteresis_shipped :
    (∀ (i : Nat) (threshold : Threshold), AcerNitroAn517.cpuFan.curve[i]? = some threshold →
      ∀ temps : List Int, (∀ tempC ∈ temps, InBand AcerNitroAn517.cpuFan i threshold tempC) →
        Along (fun percent tempC => curveSpeed AcerNitroAn517.cpuFan tempC percent)
          (fun percent tempC => curveSpeed AcerNitroAn517.cpuFan tempC percent = threshold.speed)
          threshold.speed temps) ∧
    ∀ tempC currentPercent, ∃ plain,
      (∀ speed, PlainSpeed AcerNitroAn517.cpuFan tempC speed ↔ speed = plain) ∧
      plain ≤ curveSpeed AcerNitroAn517.cpuFan tempC currentPercent ∧
        (plain < curveSpeed AcerNitroAn517.cpuFan tempC currentPercent →
          curveSpeed AcerNitroAn517.cpuFan tempC currentPercent = currentPercent ∧
            CurveHolds AcerNitroAn517.cpuFan tempC currentPercent) :=
  curveSpeed_hysteresis (by decide)

end NitroSense
