import Mathlib.Algebra.Order.Ring.Int
import Mathlib.Tactic.Linarith
import Mathlib.Tactic.Ring

/-!
# Clock readings

The programs exchange `struct timespec` values: a number of seconds and a number of nanoseconds,
both signed 64-bit integers in the source and unbounded integers here. Nothing forces the
nanoseconds below one second. `nanoseconds` is the instant a value denotes, `Normalised` the range
`clock_gettime` promises, and `isLater` the comparison of the polling loops, seconds first, which on
normalised values is the comparison of the instants (`isLater_iff_of_normalised`).
-/

set_option autoImplicit false
set_option relaxedAutoImplicit false

namespace Tanos

/-- `struct timespec`. -/
structure Timespec where
  tvSec : ℤ
  tvNsec : ℤ
deriving DecidableEq, Repr

namespace Timespec

/-- The instant a value denotes, as one number of nanoseconds. -/
def nanoseconds (time : Timespec) : ℤ := time.tvSec * 1000000000 + time.tvNsec

/-- The nanoseconds are those of a fraction of a second, as in every reading of the clock. -/
def Normalised (time : Timespec) : Prop := 0 ≤ time.tvNsec ∧ time.tvNsec < 1000000000

instance (time : Timespec) : Decidable time.Normalised := inferInstanceAs (Decidable (_ ∧ _))

/-- `now.tv_sec > target.tv_sec || (now.tv_sec == target.tv_sec && now.tv_nsec > target.tv_nsec)`,
the firing test of every polling loop. -/
def isLater (now target : Timespec) : Bool :=
  now.tvSec > target.tvSec || (now.tvSec == target.tvSec && now.tvNsec > target.tvNsec)

theorem isLater_iff (now target : Timespec) :
    now.isLater target = true ↔
      target.tvSec < now.tvSec ∨ now.tvSec = target.tvSec ∧ target.tvNsec < now.tvNsec := by
  simp [isLater]

/-- On normalised values the firing test compares the instants. -/
theorem isLater_iff_of_normalised {now target : Timespec} (hnow : now.Normalised)
    (htarget : target.Normalised) :
    now.isLater target = true ↔ target.nanoseconds < now.nanoseconds := by
  obtain ⟨hnow_nonneg, hnow_lt⟩ := hnow
  obtain ⟨htarget_nonneg, htarget_lt⟩ := htarget
  rw [isLater_iff, nanoseconds, nanoseconds]
  omega

/-- A sample that is not later than the target is no sample of a later second. -/
theorem tvSec_le_of_not_isLater {now target : Timespec} (h : now.isLater target = false) :
    now.tvSec ≤ target.tvSec := by
  by_contra hlt
  have := (isLater_iff now target).mpr (Or.inl (not_le.mp hlt))
  rw [h] at this
  exact Bool.noConfusion this

end Timespec

end Tanos
