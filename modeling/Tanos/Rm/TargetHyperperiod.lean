import Mathlib.Tactic.Linarith
import Tanos.Library.PeriodicGrid
import Tanos.Rm.SingleClient

/-!
# The target hyperperiod

A round with synchronous objects counts the hyperperiods that have passed since the anchor of the
schedule, adds those of the distribution phase, and moves the anchor by so many hyperperiods, taken
to be 100 milliseconds each. `hyperperiodCount` is that number as an unbounded integer,
`toNat_advanceMilliseconds` says what the 32-bit arithmetic of the source makes of it, and
`tvSec_targetHyperperiod`, `tvNsec_targetHyperperiod` and `nanoseconds_targetHyperperiod` where the
target comes to lie.

The target is to be the hyperperiod boundary that follows the distribution phase, by at most two
hyperperiods (`NextHyperperiod`). `nextHyperperiod_iff` is the exact condition for that. It holds
for hyperperiods of 100 milliseconds as long as the advance does not wrap, and fails for most
others.

The start times sent to the clients have passed through `prepareTimestampAdd` as well, which drops
the part of the target below one second. `distributionLead_iff` says when a client is told to start
before the distribution phase is over because of that.
-/

set_option autoImplicit false
set_option relaxedAutoImplicit false

namespace Tanos.TargetHyperperiod

open NetLayerRM Library.PeriodicGrid

/-! ### The exact advance -/

/-- The value of an integer narrowed to 32 bits. -/
theorem toNat_ofInt_uint32 (value : ℤ) :
    ((UInt32.ofInt value).toNat : ℤ) = value % 4294967296 := by
  rw [UInt32.ofInt, UInt32.toNat_ofNat']
  omega

/-- The number of hyperperiods by which the anchor is to move, as an unbounded integer. -/
def hyperperiodCount (rm : NetLayerRM) (currentTime : Timespec) : ℤ :=
  (timeDiffMilliseconds currentTime rm.rmActiveTimestampLast).tdiv rm.hyperperiodDuration +
    (rm.experimentParameterStruct.mcDistributionPhaseDuration / rm.hyperperiodDuration : ℕ) + 2

/-- The wrapping arithmetic of the source computes the exact advance, narrowed once. -/
theorem advanceMilliseconds_eq (rm : NetLayerRM) (currentTime : Timespec) :
    rm.advanceMilliseconds currentTime =
      UInt32.ofInt (100 * hyperperiodCount rm currentTime) := by
  have hdistribution : rm.numberHyperperiodDistribution = UInt32.ofInt
      ((rm.experimentParameterStruct.mcDistributionPhaseDuration / rm.hyperperiodDuration : ℕ) +
        1) := by
    rw [numberHyperperiodDistribution, UInt32.ofInt]
    apply UInt32.toNat_inj.mp
    simp only [UInt32.toNat_ofNat']
    omega
  have hcount : 100 * hyperperiodCount rm currentTime =
      ((timeDiffMilliseconds currentTime rm.rmActiveTimestampLast).tdiv rm.hyperperiodDuration + 1 +
        ((rm.experimentParameterStruct.mcDistributionPhaseDuration / rm.hyperperiodDuration : ℕ) +
          1)) * 100 := by
    unfold hyperperiodCount
    ring
  rw [advanceMilliseconds, numberHyperperiodsPast, hdistribution, hcount]
  simp only [UInt32.ofInt_add, UInt32.ofInt_mul]
  rfl

theorem toNat_advanceMilliseconds (rm : NetLayerRM) (currentTime : Timespec) :
    ((rm.advanceMilliseconds currentTime).toNat : ℤ) =
      100 * hyperperiodCount rm currentTime % 4294967296 := by
  rw [advanceMilliseconds_eq, toNat_ofInt_uint32]

theorem tvSec_targetHyperperiod (rm : NetLayerRM) (currentTime : Timespec) :
    (rm.targetHyperperiod currentTime).tvSec = rm.rmActiveTimestampLast.tvSec +
      (rm.advanceMilliseconds currentTime).toNat / 1000 := by
  simp only [targetHyperperiod, UInt32.toNat_div]
  rfl

theorem tvNsec_targetHyperperiod (rm : NetLayerRM) (currentTime : Timespec) :
    (rm.targetHyperperiod currentTime).tvNsec = rm.rmActiveTimestampLast.tvNsec +
      (rm.advanceMilliseconds currentTime).toNat % 1000 * 1000000 := by
  have hremainder : (rm.advanceMilliseconds currentTime % 1000 * 1000000).toNat =
      (rm.advanceMilliseconds currentTime).toNat % 1000 * 1000000 := by
    rw [UInt32.toNat_mul, UInt32.toNat_mod]
    change (rm.advanceMilliseconds currentTime).toNat % 1000 * 1000000 % 4294967296 = _
    omega
  rw [targetHyperperiod, hremainder]
  push_cast
  rfl

theorem nanoseconds_targetHyperperiod (rm : NetLayerRM) (currentTime : Timespec) :
    (rm.targetHyperperiod currentTime).nanoseconds = rm.rmActiveTimestampLast.nanoseconds +
      (rm.advanceMilliseconds currentTime).toNat * 1000000 := by
  rw [Timespec.nanoseconds, tvSec_targetHyperperiod, tvNsec_targetHyperperiod, Timespec.nanoseconds]
  omega

/-- On normalised timestamps the difference in milliseconds is the exact one, rounded down. -/
theorem timeDiffMilliseconds_of_normalised {currentTime last : Timespec}
    (hcurrent : currentTime.Normalised) (hlast : last.Normalised) :
    timeDiffMilliseconds currentTime last =
      (currentTime.nanoseconds - last.nanoseconds) / 1000000 := by
  have hdiff := normalised_subtractTimespec hcurrent hlast
  rw [← nanoseconds_subtractTimespec, timeDiffMilliseconds, Timespec.nanoseconds,
    Int.tdiv_eq_ediv_of_nonneg hdiff.1]
  omega

/-- Assumes: a clock that has reached the anchor. The truncating divisions round down then. -/
theorem hyperperiodCount_of_le {rm : NetLayerRM} {currentTime : Timespec}
    (hcurrent : currentTime.Normalised) (hlast : rm.rmActiveTimestampLast.Normalised)
    (hle : rm.rmActiveTimestampLast.nanoseconds ≤ currentTime.nanoseconds) :
    hyperperiodCount rm currentTime =
      (currentTime.nanoseconds - rm.rmActiveTimestampLast.nanoseconds) /
          (rm.hyperperiodDuration * 1000000) +
        (rm.experimentParameterStruct.mcDistributionPhaseDuration / rm.hyperperiodDuration : ℕ) +
        2 := by
  have hnonneg :
      0 ≤ (currentTime.nanoseconds - rm.rmActiveTimestampLast.nanoseconds) / 1000000 := by
    omega
  rw [hyperperiodCount, timeDiffMilliseconds_of_normalised hcurrent hlast,
    Int.tdiv_eq_ediv_of_nonneg hnonneg, Int.ediv_ediv_of_nonneg (by decide), mul_comm]

/-! ### The next hyperperiod -/

/-- The hyperperiods of the distribution phase and those passed since the anchor, and two more. -/
def hyperperiodsAhead (rm : NetLayerRM) (currentTime : Timespec) : ℤ :=
  (currentTime.nanoseconds - rm.rmActiveTimestampLast.nanoseconds) /
      (rm.hyperperiodDuration * 1000000) +
    (rm.experimentParameterStruct.mcDistributionPhaseDuration / rm.hyperperiodDuration : ℕ) + 2

/-- What a target hyperperiod is for: a boundary of the hyperperiods counted from the anchor, after
the distribution phase by at most two hyperperiods. -/
structure NextHyperperiod (hyperperiod distribution : ℕ) (last currentTime target : Timespec) :
    Prop where
  boundary : ∃ n : ℕ, target.nanoseconds = last.nanoseconds + n * (hyperperiod * 1000000)
  after_distribution : currentTime.nanoseconds + distribution * 1000000 < target.nanoseconds
  within_two_hyperperiods : target.nanoseconds ≤
    currentTime.nanoseconds + distribution * 1000000 + 2 * (hyperperiod * 1000000)

/-- The target of a round is the next hyperperiod. -/
abbrev TargetsNextHyperperiod (rm : NetLayerRM) (currentTime : Timespec) : Prop :=
  NextHyperperiod rm.hyperperiodDuration rm.experimentParameterStruct.mcDistributionPhaseDuration
    rm.rmActiveTimestampLast currentTime (rm.targetHyperperiod currentTime)

section

variable {rm : NetLayerRM} {currentTime : Timespec}

/-- A clock that has reached the anchor is ahead of it by at least two hyperperiods. -/
theorem two_le_hyperperiodsAhead
    (hle : rm.rmActiveTimestampLast.nanoseconds ≤ currentTime.nanoseconds) :
    2 ≤ hyperperiodsAhead rm currentTime := by
  have helapsed : 0 ≤ (currentTime.nanoseconds - rm.rmActiveTimestampLast.nanoseconds) /
      ((rm.hyperperiodDuration : ℤ) * 1000000) :=
    Int.ediv_nonneg (by linarith) (by positivity)
  have hdistribution : (0 : ℤ) ≤
      (rm.experimentParameterStruct.mcDistributionPhaseDuration / rm.hyperperiodDuration : ℕ) :=
    Int.natCast_nonneg _
  unfold hyperperiodsAhead
  linarith

/-- Assumes: a hyperperiod of at least a millisecond. A whole number of hyperperiods from the anchor
lies in the required range precisely when it is the number of hyperperiods ahead, or one less or one
more, depending on what the elapsed time and the distribution phase leave over. -/
theorem lt_and_le_iff_hyperperiodsAhead (hperiod : 1 ≤ rm.hyperperiodDuration) (n : ℤ) :
    let period : ℤ := rm.hyperperiodDuration * 1000000
    let elapsed := currentTime.nanoseconds - rm.rmActiveTimestampLast.nanoseconds
    let lead : ℤ := rm.experimentParameterStruct.mcDistributionPhaseDuration * 1000000
    let remainder := elapsed % period +
      (rm.experimentParameterStruct.mcDistributionPhaseDuration % rm.hyperperiodDuration : ℕ) *
        1000000
    (elapsed + lead < n * period ∧ n * period ≤ elapsed + lead + 2 * period) ↔
      n = hyperperiodsAhead rm currentTime ∨
      (n = hyperperiodsAhead rm currentTime - 1 ∧ remainder < period) ∨
      (n = hyperperiodsAhead rm currentTime + 1 ∧ period ≤ remainder) := by
  intro period elapsed lead remainder
  have hpos : 0 < period := by
    have : (1 : ℤ) ≤ rm.hyperperiodDuration := by exact_mod_cast hperiod
    linarith
  have hquotient : lead / period =
      (rm.experimentParameterStruct.mcDistributionPhaseDuration / rm.hyperperiodDuration : ℕ) := by
    rw [Int.mul_ediv_mul_of_pos_left _ _ (by decide), Int.natCast_ediv]
  have hremainder : lead % period =
      (rm.experimentParameterStruct.mcDistributionPhaseDuration % rm.hyperperiodDuration : ℕ) *
        1000000 := by
    change (rm.experimentParameterStruct.mcDistributionPhaseDuration : ℤ) * 1000000 %
      (rm.hyperperiodDuration * 1000000) = _
    rw [Int.mul_comm, Int.mul_comm (rm.hyperperiodDuration : ℤ),
      Int.mul_emod_mul_of_pos _ _ (by decide), Int.mul_comm, Int.natCast_emod]
  rw [lt_and_le_add_two_mul_iff hpos, hquotient, hremainder]
  have hahead : hyperperiodsAhead rm currentTime = elapsed / period +
      (rm.experimentParameterStruct.mcDistributionPhaseDuration / rm.hyperperiodDuration : ℕ) +
        2 := rfl
  rw [hahead]
  constructor
  · rintro (h | ⟨h, h'⟩ | ⟨h, h'⟩)
    · exact Or.inl h
    · exact Or.inr (Or.inl ⟨by linarith, h'⟩)
    · exact Or.inr (Or.inr ⟨by linarith, h'⟩)
  · rintro (h | ⟨h, h'⟩ | ⟨h, h'⟩)
    · exact Or.inl h
    · exact Or.inr (Or.inl ⟨by linarith, h'⟩)
    · exact Or.inr (Or.inr ⟨by linarith, h'⟩)

/-- The target is the next hyperperiod when the advance of the code is a whole number of
hyperperiods in the required range. -/
theorem nextHyperperiod_iff_exists (hlast : rm.rmActiveTimestampLast.Normalised)
    (hcurrent : currentTime.Normalised)
    (hle : rm.rmActiveTimestampLast.nanoseconds ≤ currentTime.nanoseconds) :
    let period : ℤ := rm.hyperperiodDuration * 1000000
    let elapsed := currentTime.nanoseconds - rm.rmActiveTimestampLast.nanoseconds
    let lead : ℤ := rm.experimentParameterStruct.mcDistributionPhaseDuration * 1000000
    TargetsNextHyperperiod rm currentTime ↔
      ∃ n, 0 ≤ n ∧
        rm.hyperperiodDuration * n = 100 * hyperperiodsAhead rm currentTime % 4294967296 ∧
        elapsed + lead < n * period ∧ n * period ≤ elapsed + lead + 2 * period := by
  intro period elapsed lead
  have htarget : (rm.targetHyperperiod currentTime).nanoseconds =
      rm.rmActiveTimestampLast.nanoseconds +
        100 * hyperperiodsAhead rm currentTime % 4294967296 * 1000000 := by
    rw [nanoseconds_targetHyperperiod, toNat_advanceMilliseconds,
      hyperperiodCount_of_le hcurrent hlast hle, hyperperiodsAhead]
  generalize 100 * hyperperiodsAhead rm currentTime % 4294967296 = advance at htarget ⊢
  simp only [period, elapsed, lead]
  constructor
  · rintro ⟨⟨n, hboundary⟩, hafter, hwithin⟩
    rw [htarget] at hboundary hafter hwithin
    refine ⟨n, Int.natCast_nonneg n, ?_, ?_, ?_⟩ <;> linarith
  · rintro ⟨n, hnonneg, hadvance, hafter, hwithin⟩
    obtain ⟨count, rfl⟩ := Int.eq_ofNat_of_zero_le hnonneg
    refine ⟨⟨count, ?_⟩, ?_, ?_⟩ <;> rw [htarget] <;> linarith

/-- The exact condition for the next hyperperiod: the advance of the code, a multiple of 100
milliseconds modulo `2 ^ 32`, amounts to the number of hyperperiods ahead, or to one less or one
more, depending on what the elapsed time and the distribution phase leave over. -/
theorem nextHyperperiod_iff (hperiod : 1 ≤ rm.hyperperiodDuration)
    (hlast : rm.rmActiveTimestampLast.Normalised) (hcurrent : currentTime.Normalised)
    (hle : rm.rmActiveTimestampLast.nanoseconds ≤ currentTime.nanoseconds) :
    let ahead := hyperperiodsAhead rm currentTime
    let advance := 100 * ahead % 4294967296
    let period : ℤ := rm.hyperperiodDuration * 1000000
    let remainder := (currentTime.nanoseconds - rm.rmActiveTimestampLast.nanoseconds) % period +
      (rm.experimentParameterStruct.mcDistributionPhaseDuration % rm.hyperperiodDuration : ℕ) *
        1000000
    TargetsNextHyperperiod rm currentTime ↔
      rm.hyperperiodDuration * ahead = advance ∨
      (rm.hyperperiodDuration * (ahead - 1) = advance ∧ remainder < period) ∨
      (rm.hyperperiodDuration * (ahead + 1) = advance ∧ period ≤ remainder) := by
  intro ahead advance period remainder
  have htwo : 2 ≤ ahead := two_le_hyperperiodsAhead hle
  have hrange := @lt_and_le_iff_hyperperiodsAhead rm currentTime hperiod
  refine (nextHyperperiod_iff_exists hlast hcurrent hle).trans ⟨?_, ?_⟩
  · rintro ⟨n, -, hadvance, hn⟩
    rcases (hrange n).mp hn with rfl | ⟨rfl, hremainder⟩ | ⟨rfl, hremainder⟩
    · exact Or.inl hadvance
    · exact Or.inr (Or.inl ⟨hadvance, hremainder⟩)
    · exact Or.inr (Or.inr ⟨hadvance, hremainder⟩)
  · rintro (hadvance | ⟨hadvance, hremainder⟩ | ⟨hadvance, hremainder⟩)
    · exact ⟨ahead, by linarith, hadvance, (hrange ahead).mpr (Or.inl rfl)⟩
    · exact ⟨ahead - 1, by linarith, hadvance, (hrange _).mpr (Or.inr (Or.inl ⟨rfl, hremainder⟩))⟩
    · exact ⟨ahead + 1, by linarith, hadvance, (hrange _).mpr (Or.inr (Or.inr ⟨rfl, hremainder⟩))⟩

theorem targetsNextHyperperiod_singleClient :
    TargetsNextHyperperiod (singleClient (singleParameter 100 0 0 0) 0 ⟨1000, 0⟩) ⟨1000, 0⟩ :=
  (nextHyperperiod_iff (by decide) (by decide) (by decide) (by decide)).mpr (Or.inl (by decide))

/-- With hyperperiods of 50 milliseconds the anchor moves by four of them instead of two. -/
theorem not_targetsNextHyperperiod_singleClient :
    let rm := singleClient (singleParameter 50 0 0 0) 0 ⟨1000, 0⟩
    1 ≤ rm.hyperperiodDuration ∧ rm.rmActiveTimestampLast.Normalised ∧
      (⟨1000, 0⟩ : Timespec).Normalised ∧
      rm.rmActiveTimestampLast.nanoseconds ≤ (⟨1000, 0⟩ : Timespec).nanoseconds ∧
      ¬ TargetsNextHyperperiod rm ⟨1000, 0⟩ := by
  intro rm
  refine ⟨by decide, by decide, by decide, by decide, fun htarget ↦ ?_⟩
  have hwithin := htarget.within_two_hyperperiods
  revert hwithin
  decide

/-! ### The distribution lead -/

/-- The exact condition for a client not to be told to start before the distribution phase is over,
with hyperperiods of 100 milliseconds. On the left stands what the start time loses: the part of the
target below one second, what the elapsed time and the distribution phase leave over, and what has
been lost by wrapping. -/
theorem distributionLead_iff (objects : SynchronousObjects) (iterator : UInt8)
    (networkMode : UInt32) (hperiod : rm.hyperperiodDuration = 100)
    (hlast : rm.rmActiveTimestampLast.Normalised) (hcurrent : currentTime.Normalised)
    (hle : rm.rmActiveTimestampLast.nanoseconds ≤ currentTime.nanoseconds)
    {command : ServiceCommand} (hcommand : command ∈
      (synchronousObjectsRound objects rm iterator networkMode currentTime).2) :
    let distribution := rm.experimentParameterStruct.mcDistributionPhaseDuration
    let elapsed := currentTime.nanoseconds - rm.rmActiveTimestampLast.nanoseconds
    let ahead := hyperperiodsAhead rm currentTime
    let advance := 100 * ahead % 4294967296
    (∃ start, command.timestampStart = some start ∧
        currentTime.nanoseconds + distribution * 1000000 ≤ start.nanoseconds) ↔
      rm.rmActiveTimestampLast.tvNsec + advance % 1000 * 1000000 +
          (elapsed % 100000000 + (distribution % 100 : ℕ) * 1000000) +
          (100 * ahead - advance) * 1000000 ≤
        rm.slotOffset command.service command.mode * 1000000 + 200000000 := by
  intro distribution elapsed ahead advance
  obtain ⟨-, -, hsent⟩ := synchronousObjectsRound_spec objects rm iterator networkMode currentTime
  have hadvance : ((rm.advanceMilliseconds currentTime).toNat : ℤ) = advance := by
    rw [toNat_advanceMilliseconds, hyperperiodCount_of_le hcurrent hlast hle]
    rfl
  have hahead : ahead = elapsed / 100000000 + (distribution / 100 : ℕ) + 2 := by
    simp only [ahead, hyperperiodsAhead, hperiod]
    rfl
  have hstart : (prepareTimestampAdd (rm.targetHyperperiod currentTime)
        (rm.slotOffset command.service command.mode)).nanoseconds =
      (rm.rmActiveTimestampLast.tvSec + advance / 1000) * 1000000000 +
        rm.slotOffset command.service command.mode * 1000000 := by
    rw [nanoseconds_prepareTimestampAdd, tvSec_targetHyperperiod, hadvance]
  have hbound : currentTime.nanoseconds + (distribution : ℤ) * 1000000 ≤
        (prepareTimestampAdd (rm.targetHyperperiod currentTime)
          (rm.slotOffset command.service command.mode)).nanoseconds ↔
      rm.rmActiveTimestampLast.tvNsec + advance % 1000 * 1000000 +
          (elapsed % 100000000 + (distribution % 100 : ℕ) * 1000000) +
          (100 * ahead - advance) * 1000000 ≤
        rm.slotOffset command.service command.mode * 1000000 + 200000000 := by
    have helapsed : elapsed = currentTime.nanoseconds -
      (rm.rmActiveTimestampLast.tvSec * 1000000000 + rm.rmActiveTimestampLast.tvNsec) := rfl
    rw [hstart, hahead]
    generalize elapsed = e at *
    omega
  rw [hsent command hcommand, ← hbound]
  simp

theorem distributionLead_singleClient :
    let rm := singleClient (singleParameter 100 0 0 0) 0 ⟨1000, 0⟩
    ∃ command ∈ (synchronousObjectsRound .sw rm 0 0 ⟨1000, 0⟩).2,
      ∃ start, command.timestampStart = some start ∧
        (⟨1000, 0⟩ : Timespec).nanoseconds + (0 : ℕ) * 1000000 ≤ start.nanoseconds := by
  intro rm
  have hcommand : _ ∈ (synchronousObjectsRound .sw rm 0 0 ⟨1000, 0⟩).2 := List.mem_singleton_self _
  exact ⟨_, hcommand, (distributionLead_iff .sw 0 0 rfl (by decide) (by decide) (by decide)
    hcommand).mpr (by decide)⟩

/-- Fifty milliseconds after the anchor and without a distribution phase, the single client is told
to start fifty milliseconds ago. -/
theorem not_distributionLead_singleClient :
    let rm := singleClient (singleParameter 100 0 0 0) 0 ⟨1000, 0⟩
    rm.hyperperiodDuration = 100 ∧ rm.rmActiveTimestampLast.Normalised ∧
      (⟨1000, 50000000⟩ : Timespec).Normalised ∧
      rm.rmActiveTimestampLast.nanoseconds ≤ (⟨1000, 50000000⟩ : Timespec).nanoseconds ∧
      ∃ command ∈ (synchronousObjectsRound .sw rm 0 0 ⟨1000, 50000000⟩).2,
        ∃ start, command.timestampStart = some start ∧
          start.nanoseconds < (⟨1000, 50000000⟩ : Timespec).nanoseconds + (0 : ℕ) * 1000000 := by
  intro rm
  refine ⟨rfl, by decide, by decide, by decide, ?_⟩
  exact ⟨_, List.mem_singleton_self _, _, rfl, by decide⟩

end

end Tanos.TargetHyperperiod
