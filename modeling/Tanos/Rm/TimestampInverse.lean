import Tanos.DataSharing.MessageNet
import Tanos.Rm.Timestamps

/-!
# Adding and subtracting a delay

`prepare_timestamp_add` and `prepare_timestamp_sub` compute in signed 64-bit integers, one on the
seconds and the nanoseconds and the other on the total number of nanoseconds. Their checked forms
here are none where a sum or a product overflows, and else what `prepareTimestampAdd` and
`prepareTimestampSub` are.

`prepareTimestampSub_prepareTimestampAdd` is what taking a delay off again makes of a timestamp: its
whole seconds. `addsAndSubtracts_iff` says for which timestamps and delays the sum is exact and the
difference the timestamp itself.
-/

set_option autoImplicit false
set_option relaxedAutoImplicit false

namespace Tanos

open MessageNet

/-- A result of signed 64-bit arithmetic, none where it overflows. -/
def checked (value : ℤ) : Option ℤ := if FitsInt64 value then some value else none

theorem checked_eq_some_iff {value result : ℤ} :
    checked value = some result ↔ FitsInt64 value ∧ value = result := by
  unfold checked
  split_ifs with hfits <;> simp [hfits]

theorem checked_of_fitsInt64 {value : ℤ} (hvalue : FitsInt64 value) :
    checked value = some value :=
  if_pos hvalue

/-- `prepare_timestamp_add`, none where it overflows. -/
def prepareTimestampAddChecked (timeStamp : Timespec) (delay : ℕ) : Option Timespec := do
  let delayNs ← checked (delay * 1000000)
  if delayNs / 1000000000 < 1 then return ⟨timeStamp.tvSec, delayNs⟩
  else
    let seconds ← checked (timeStamp.tvSec + delayNs / 1000000000)
    return ⟨seconds, delayNs % 1000000000⟩

/-- `prepare_timestamp_sub`, none where it overflows. -/
def prepareTimestampSubChecked (timeStamp : Timespec) (delay : ℕ) : Option Timespec := do
  let delayNs ← checked (delay * 1000000)
  let secondsNs ← checked (timeStamp.tvSec * 1000000000)
  let totalNs ← checked (secondsNs + timeStamp.tvNsec)
  let resultNs ← checked (totalNs - delayNs)
  let clampedNs := if resultNs < 0 then 0 else resultNs
  return ⟨clampedNs / 1000000000, clampedNs % 1000000000⟩

/-- The sum of a timestamp and a delay is normalised and exact, and taking the delay off again gives
the timestamp back. -/
def AddsAndSubtracts (timeStamp : Timespec) (delay : ℕ) : Prop :=
  ∃ sum, prepareTimestampAddChecked timeStamp delay = some sum ∧ sum.Normalised ∧
    sum.nanoseconds = timeStamp.nanoseconds + delay * 1000000 ∧
    prepareTimestampSubChecked sum delay = some timeStamp

/-! ### The checked forms -/

theorem prepareTimestampAdd_of_checked {timeStamp sum : Timespec} {delay : ℕ}
    (hsum : prepareTimestampAddChecked timeStamp delay = some sum) :
    sum = prepareTimestampAdd timeStamp delay := by
  simp only [prepareTimestampAddChecked, Option.bind_eq_bind, Option.bind_eq_some_iff,
    checked_eq_some_iff] at hsum
  obtain ⟨_, ⟨-, rfl⟩, hsum⟩ := hsum
  unfold prepareTimestampAdd
  split_ifs at hsum with hsecond
  · have hsecond' : delay * 1000000 / 1000000000 < 1 := by omega
    rw [if_pos hsecond', ← Option.some.inj hsum, Timespec.mk.injEq]
    exact ⟨rfl, by omega⟩
  · have hsecond' : ¬ delay * 1000000 / 1000000000 < 1 := by omega
    obtain ⟨_, hseconds, hsum⟩ := Option.bind_eq_some_iff.mp hsum
    obtain ⟨-, rfl⟩ := checked_eq_some_iff.mp hseconds
    rw [if_neg hsecond', ← Option.some.inj hsum, Timespec.mk.injEq]
    exact ⟨by omega, by omega⟩

/-- Assumes: the number of nanoseconds of the delay and the seconds of the sum do not overflow. -/
theorem prepareTimestampAddChecked_eq {timeStamp : Timespec} {delay : ℕ}
    (hdelay : FitsInt64 (delay * 1000000))
    (hseconds : FitsInt64 (timeStamp.tvSec + delay * 1000000 / 1000000000)) :
    prepareTimestampAddChecked timeStamp delay = some (prepareTimestampAdd timeStamp delay) := by
  obtain ⟨sum, hsum⟩ : ∃ sum, prepareTimestampAddChecked timeStamp delay = some sum := by
    unfold prepareTimestampAddChecked
    rw [checked_of_fitsInt64 hdelay, Option.bind_eq_bind, Option.bind_some]
    split_ifs with hsecond
    · exact ⟨_, rfl⟩
    · rw [checked_of_fitsInt64 hseconds]
      exact ⟨_, rfl⟩
  rw [hsum, prepareTimestampAdd_of_checked hsum]

theorem prepareTimestampSub_of_checked {timeStamp difference : Timespec} {delay : ℕ}
    (hdifference : prepareTimestampSubChecked timeStamp delay = some difference) :
    FitsInt64 timeStamp.nanoseconds ∧ difference = prepareTimestampSub timeStamp delay := by
  simp only [prepareTimestampSubChecked, Option.bind_eq_bind, Option.bind_eq_some_iff,
    checked_eq_some_iff] at hdifference
  obtain ⟨_, ⟨-, rfl⟩, _, ⟨-, rfl⟩, _, ⟨htotal, rfl⟩, _, ⟨-, rfl⟩, hdifference⟩ := hdifference
  exact ⟨htotal, (Option.some.inj hdifference).symm⟩

/-- Assumes: no number of nanoseconds overflows. -/
theorem prepareTimestampSubChecked_eq {timeStamp : Timespec} {delay : ℕ}
    (hdelay : FitsInt64 (delay * 1000000)) (hseconds : FitsInt64 (timeStamp.tvSec * 1000000000))
    (htotal : FitsInt64 timeStamp.nanoseconds)
    (hresult : FitsInt64 (timeStamp.nanoseconds - delay * 1000000)) :
    prepareTimestampSubChecked timeStamp delay = some (prepareTimestampSub timeStamp delay) := by
  unfold Timespec.nanoseconds at htotal hresult
  simp only [prepareTimestampSubChecked, checked_of_fitsInt64 hdelay,
    checked_of_fitsInt64 hseconds, checked_of_fitsInt64 htotal, checked_of_fitsInt64 hresult,
    Option.bind_eq_bind, Option.bind_some]
  rfl

/-! ### Adding and subtracting -/

/-- A delay that has been added and taken off again leaves the whole seconds of the timestamp. -/
theorem prepareTimestampSub_prepareTimestampAdd {timeStamp : Timespec}
    (hseconds : 0 ≤ timeStamp.tvSec) (delay : ℕ) :
    prepareTimestampSub (prepareTimestampAdd timeStamp delay) delay = ⟨timeStamp.tvSec, 0⟩ := by
  have hsum := nanoseconds_prepareTimestampAdd timeStamp delay
  unfold Timespec.nanoseconds at hsum
  have hresult : (prepareTimestampAdd timeStamp delay).tvSec * 1000000000 +
      (prepareTimestampAdd timeStamp delay).tvNsec - delay * 1000000 =
        timeStamp.tvSec * 1000000000 := by omega
  have hnonneg : ¬ timeStamp.tvSec * 1000000000 < 0 := by omega
  simp only [prepareTimestampSub, hresult, if_neg hnonneg]
  rw [Int.mul_ediv_cancel _ (by decide), Int.mul_emod_left]

/-- Assumes: the timestamp is not before the epoch. Adding and subtracting a delay is exact
precisely on whole seconds, as long as the number of nanoseconds of the sum does not overflow. -/
theorem addsAndSubtracts_iff {timeStamp : Timespec} (hseconds : 0 ≤ timeStamp.tvSec)
    (delay : ℕ) :
    AddsAndSubtracts timeStamp delay ↔
      timeStamp.tvNsec = 0 ∧ FitsInt64 (timeStamp.nanoseconds + delay * 1000000) := by
  have hsum := nanoseconds_prepareTimestampAdd timeStamp delay
  constructor
  · rintro ⟨sum, hadd, -, hexact, hsub⟩
    obtain ⟨htotal, -⟩ := prepareTimestampSub_of_checked hsub
    rw [hexact] at htotal
    refine ⟨?_, htotal⟩
    rw [prepareTimestampAdd_of_checked hadd, hsum, Timespec.nanoseconds] at hexact
    omega
  · rintro ⟨hwhole, hlower, hupper⟩
    rw [Timespec.nanoseconds, hwhole, add_zero] at hlower hupper
    have hadd : prepareTimestampAddChecked timeStamp delay =
        some (prepareTimestampAdd timeStamp delay) :=
      prepareTimestampAddChecked_eq ⟨by omega, by omega⟩ ⟨by omega, by omega⟩
    have hsumSec := tvSec_prepareTimestampAdd timeStamp delay
    refine ⟨_, hadd, normalised_prepareTimestampAdd timeStamp delay, ?_, ?_⟩
    · rw [hsum, Timespec.nanoseconds, hwhole, add_zero]
    · rw [prepareTimestampSubChecked_eq, prepareTimestampSub_prepareTimestampAdd hseconds,
        ← hwhole]
      · exact ⟨by omega, by omega⟩
      · exact ⟨by omega, by omega⟩
      · rw [hsum]
        exact ⟨by omega, by omega⟩
      · rw [hsum]
        exact ⟨by omega, by omega⟩

theorem addsAndSubtracts_iff_wholeSecond :
    (0 : ℤ) ≤ 5 ∧ (AddsAndSubtracts ⟨5, 0⟩ 1500 ↔
      (0 : ℤ) = 0 ∧ FitsInt64 (Timespec.nanoseconds ⟨5, 0⟩ + (1500 : ℕ) * 1000000)) :=
  ⟨by decide, addsAndSubtracts_iff (by decide) 1500⟩

/-- Half a second is lost when a delay of 1500 milliseconds is added. -/
theorem not_addsAndSubtracts_halfSecond : ¬ AddsAndSubtracts ⟨5, 500000000⟩ 1500 := by
  rintro ⟨sum, hadd, -, hexact, -⟩
  rw [prepareTimestampAdd_of_checked hadd] at hexact
  exact absurd hexact (by decide)

end Tanos
