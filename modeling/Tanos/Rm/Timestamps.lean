import Mathlib.Tactic.Ring
import Tanos.Attributes.Timespec

/-!
# Timestamp arithmetic of the resource manager

The four helpers all schedules are computed with. Delays are in milliseconds and never negative,
since they come from unsigned configuration values.

`nanoseconds_prepareTimestampAdd` is the exact effect of `prepareTimestampAdd`: it adds the delay to
the whole seconds of the timestamp, the nanoseconds of the timestamp are lost. The other helpers are
exact (`nanoseconds_prepareTimestampSub`, `nanoseconds_subtractTimespec`).
-/

set_option autoImplicit false
set_option relaxedAutoImplicit false

namespace Tanos

/-- `prepare_timestamp_add`. -/
def prepareTimestampAdd (timeStamp : Timespec) (delay : ℕ) : Timespec :=
  let delayNs := delay * 1000000
  if delayNs / 1000000000 < 1 then ⟨timeStamp.tvSec, delayNs⟩
  else ⟨timeStamp.tvSec + (delayNs / 1000000000 : ℕ), (delayNs % 1000000000 : ℕ)⟩

/-- `prepare_timestamp_sub`, which stops at the epoch. -/
def prepareTimestampSub (timeStamp : Timespec) (delay : ℕ) : Timespec :=
  let delayNs : ℤ := delay * 1000000
  let totalNs := timeStamp.tvSec * 1000000000 + timeStamp.tvNsec
  let resultNs := totalNs - delayNs
  let clampedNs := if resultNs < 0 then 0 else resultNs
  ⟨clampedNs / 1000000000, clampedNs % 1000000000⟩

/-- `subtract_timespec`. -/
def subtractTimespec (finish start : Timespec) : Timespec :=
  if finish.tvNsec - start.tvNsec < 0 then
    ⟨finish.tvSec - start.tvSec - 1, finish.tvNsec - start.tvNsec + 1000000000⟩
  else ⟨finish.tvSec - start.tvSec, finish.tvNsec - start.tvNsec⟩

/-- `get_round_timestamp`, for a reading of the clock. -/
def getRoundTimestamp (currentTime : Timespec) : Timespec :=
  if currentTime.tvNsec > 0 then ⟨currentTime.tvSec + 1, 0⟩ else currentTime

/-! ### Adding a delay -/

theorem tvSec_prepareTimestampAdd (timeStamp : Timespec) (delay : ℕ) :
    (prepareTimestampAdd timeStamp delay).tvSec = timeStamp.tvSec + (delay / 1000 : ℕ) := by
  simp only [prepareTimestampAdd]
  split_ifs with hdelay
  · have hzero : delay / 1000 = 0 := by omega
    rw [hzero]
    simp
  · have hquotient : delay * 1000000 / 1000000000 = delay / 1000 := by omega
    rw [hquotient]

theorem tvNsec_prepareTimestampAdd (timeStamp : Timespec) (delay : ℕ) :
    (prepareTimestampAdd timeStamp delay).tvNsec = (delay % 1000 * 1000000 : ℕ) := by
  simp only [prepareTimestampAdd]
  split_ifs with hdelay
  · have hdelay' : delay * 1000000 = delay % 1000 * 1000000 := by omega
    rw [hdelay']
  · have hremainder : delay * 1000000 % 1000000000 = delay % 1000 * 1000000 := by omega
    rw [hremainder]

/-- The sum is normalised whatever the timestamp is. -/
theorem normalised_prepareTimestampAdd (timeStamp : Timespec) (delay : ℕ) :
    (prepareTimestampAdd timeStamp delay).Normalised := by
  rw [Timespec.Normalised, tvNsec_prepareTimestampAdd]
  omega

/-- The exact effect of adding a delay: the nanoseconds of the timestamp are lost. -/
theorem nanoseconds_prepareTimestampAdd (timeStamp : Timespec) (delay : ℕ) :
    (prepareTimestampAdd timeStamp delay).nanoseconds =
      timeStamp.tvSec * 1000000000 + delay * 1000000 := by
  rw [Timespec.nanoseconds, tvSec_prepareTimestampAdd, tvNsec_prepareTimestampAdd]
  push_cast
  omega

/-! ### Subtractions -/

/-- Assumes: the delay does not reach back beyond the epoch. -/
theorem nanoseconds_prepareTimestampSub {timeStamp : Timespec} {delay : ℕ}
    (hdelay : (delay : ℤ) * 1000000 ≤ timeStamp.nanoseconds) :
    (prepareTimestampSub timeStamp delay).nanoseconds =
      timeStamp.nanoseconds - delay * 1000000 := by
  unfold Timespec.nanoseconds at hdelay ⊢
  unfold prepareTimestampSub
  simp only
  split_ifs with hnegative <;> omega

theorem normalised_prepareTimestampSub (timeStamp : Timespec) (delay : ℕ) :
    (prepareTimestampSub timeStamp delay).Normalised := by
  unfold prepareTimestampSub Timespec.Normalised
  simp only
  omega

/-- The difference is exact, on all timestamps. -/
theorem nanoseconds_subtractTimespec (finish start : Timespec) :
    (subtractTimespec finish start).nanoseconds = finish.nanoseconds - start.nanoseconds := by
  unfold subtractTimespec Timespec.nanoseconds
  split_ifs <;> simp only <;> ring

theorem normalised_subtractTimespec {finish start : Timespec} (hfinish : finish.Normalised)
    (hstart : start.Normalised) : (subtractTimespec finish start).Normalised := by
  obtain ⟨hfinish_nonneg, hfinish_lt⟩ := hfinish
  obtain ⟨hstart_nonneg, hstart_lt⟩ := hstart
  unfold subtractTimespec Timespec.Normalised
  split_ifs with hborrow <;> simp only <;> omega

end Tanos
