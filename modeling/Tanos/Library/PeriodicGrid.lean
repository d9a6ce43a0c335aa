import Mathlib

/-!
# Periodic schedules

Time is an additive group. A periodic schedule has an origin and a period, and its grid points are
the origin and all later instants a whole number of periods away (`gridPoints`).

A `repeatedWindow` is a window of the integers that comes again with every period. Two of them with
different periods shift against each other by all multiples of the greatest common divisor of the
periods, so that they are kept apart by their remainders modulo this divisor only.
`forall_disjoint_iff` is this rule, with the cases in which one of the windows is not repeated.

`lt_and_le_add_two_mul_iff` lists the multiples of a period that lie after a sum `elapsed + lead` by
at most two periods. With `count = ⌊elapsed/p⌋ + ⌊lead/p⌋ + 2` it is `count` itself, its predecessor
when the two remainders sum to less than a period, and its successor when they do not.
-/

set_option autoImplicit false
set_option relaxedAutoImplicit false

namespace Tanos.Library.PeriodicGrid

section Grid

variable {α : Type*} [AddCommGroup α]

/-- The origin of a periodic schedule and the instants a whole number of periods after it. -/
def gridPoints (origin period : α) : Set α := {instant | ∃ k : ℕ, instant = origin + k • period}

/-- The points of a coarse grid lie on every finer grid whose period divides the coarse one. -/
theorem gridPoints_subset_of_nsmul (origin period : α) (count : ℕ) :
    gridPoints origin (count • period) ⊆ gridPoints origin period := by
  rintro instant ⟨k, rfl⟩
  exact ⟨k * count, by rw [mul_nsmul']⟩

end Grid

/-! ### Windows of different periods -/

section Repeated

/-- A window of the integers that is repeated with a period, in the period with a given index. -/
def repeatedWindow (offset length : ℤ) (period index : ℕ) : Set ℤ :=
  Set.Ico (offset + index * period) (offset + index * period + length)

variable {offset other length otherLength : ℤ} {period otherPeriod : ℕ}

/-- The multiples of the greatest common divisor are the differences of the multiples of the two
periods. Where one of them is zero, they have the sign of the other. -/
theorem exists_mul_sub_mul_eq (k : ℤ)
    (hreach : 0 < period ∧ 0 < otherPeriod ∨ otherPeriod = 0 ∧ 0 ≤ k ∨ period = 0 ∧ k ≤ 0) :
    ∃ a b : ℕ, (a : ℤ) * period - b * otherPeriod = k * Nat.gcd period otherPeriod := by
  rcases hreach with ⟨hperiod, hother⟩ | ⟨rfl, hk⟩ | ⟨rfl, hk⟩
  · have hbezout := Nat.gcd_eq_gcd_ab period otherPeriod
    generalize Nat.gcdA period otherPeriod = u at hbezout
    generalize Nat.gcdB period otherPeriod = v at hbezout
    -- enough turns of both periods make the coefficients natural numbers
    have hfirst : 0 ≤ k * u + (|k * u| + |k * v|) * otherPeriod := by
      have hturns : |k * u| * 1 ≤ |k * u| * otherPeriod :=
        mul_le_mul_of_nonneg_left (by exact_mod_cast hother) (abs_nonneg _)
      have hrest : 0 ≤ |k * v| * (otherPeriod : ℤ) := by positivity
      have habs := neg_abs_le (k * u)
      linarith
    have hsecond : 0 ≤ -(k * v) + (|k * u| + |k * v|) * period := by
      have hturns : |k * v| * 1 ≤ |k * v| * period :=
        mul_le_mul_of_nonneg_left (by exact_mod_cast hperiod) (abs_nonneg _)
      have hrest : 0 ≤ |k * u| * (period : ℤ) := by positivity
      have habs := le_abs_self (k * v)
      linarith
    obtain ⟨a, ha⟩ := Int.eq_ofNat_of_zero_le hfirst
    obtain ⟨b, hb⟩ := Int.eq_ofNat_of_zero_le hsecond
    refine ⟨a, b, ?_⟩
    rw [← ha, ← hb, hbezout]
    ring
  · refine ⟨k.toNat, 0, ?_⟩
    rw [Int.toNat_of_nonneg hk]
    simp
  · refine ⟨0, (-k).toNat, ?_⟩
    rw [Int.toNat_of_nonneg (by omega)]
    simp

/-- Assumes: windows that never meet, the second one not empty, of which the earlier one is
repeated. The first one ends before the remainder by which the second one starts after it. -/
theorem le_emod_of_disjoint (hother : 0 < otherLength) (hpositive : 0 < Nat.gcd period otherPeriod)
    (hearly : period = 0 → other ≤ offset) (hlate : otherPeriod = 0 → offset ≤ other)
    (hdisjoint : ∀ a b, Disjoint (repeatedWindow offset length period a)
      (repeatedWindow other otherLength otherPeriod b)) :
    length ≤ (other - offset) % Nat.gcd period otherPeriod := by
  have hreach : 0 < period ∧ 0 < otherPeriod ∨
      otherPeriod = 0 ∧ 0 ≤ (other - offset) / (Nat.gcd period otherPeriod : ℤ) ∨
      period = 0 ∧ (other - offset) / (Nat.gcd period otherPeriod : ℤ) ≤ 0 := by
    rcases Nat.eq_zero_or_pos otherPeriod with hzero | hpos
    · have hle := hlate hzero
      exact Or.inr (Or.inl ⟨hzero, Int.ediv_nonneg (by omega) (by omega)⟩)
    · rcases Nat.eq_zero_or_pos period with hzero | hpos'
      · have hle := hearly hzero
        exact Or.inr (Or.inr
          ⟨hzero, Int.ediv_nonpos_of_nonpos_of_neg (by omega) (by omega)⟩)
      · exact Or.inl ⟨hpos', hpos⟩
  obtain ⟨a, b, hindices⟩ := exists_mul_sub_mul_eq _ hreach
  have hremainder := Int.ediv_mul_add_emod (other - offset) (Nat.gcd period otherPeriod)
  have hnonneg : 0 ≤ (other - offset) % (Nat.gcd period otherPeriod : ℤ) :=
    Int.emod_nonneg _ (by omega)
  by_contra hshort
  have hstart : other + b * otherPeriod ∈ repeatedWindow offset length period a :=
    ⟨by linarith, by linarith⟩
  exact Set.disjoint_left.mp (hdisjoint a b) hstart ⟨le_rfl, by linarith⟩

/-- Assumes: each window ends before the remainder by which the other one starts after it. They
never meet. -/
theorem disjoint_of_le_emod (hlength : length ≤ (other - offset) % Nat.gcd period otherPeriod)
    (hother : otherLength ≤ (offset - other) % Nat.gcd period otherPeriod)
    (hpositive : 0 < Nat.gcd period otherPeriod) (a b : ℕ) :
    Disjoint (repeatedWindow offset length period a)
      (repeatedWindow other otherLength otherPeriod b) := by
  obtain ⟨m, hm⟩ := Nat.gcd_dvd_left period otherPeriod
  obtain ⟨n, hn⟩ := Nat.gcd_dvd_right period otherPeriod
  generalize hg : Nat.gcd period otherPeriod = g at *
  have hahead : (other + b * otherPeriod - (offset + a * period)) % g = (other - offset) % g := by
    rw [hm, hn]
    push_cast
    rw [show other + b * (g * n) - (offset + a * (g * m)) =
      other - offset + g * (b * n - a * m : ℤ) by ring, Int.add_mul_emod_self_left]
  have hbehind : (offset + a * period - (other + b * otherPeriod)) % g = (offset - other) % g := by
    rw [hm, hn]
    push_cast
    rw [show offset + a * (g * m) - (other + b * (g * n)) =
      offset - other + g * (a * m - b * n : ℤ) by ring, Int.add_mul_emod_self_left]
  rw [← hahead] at hlength
  rw [← hbehind] at hother
  have hless (difference : ℤ) (hdifference : 0 ≤ difference) : difference % g ≤ difference := by
    have hquotient : 0 ≤ (g : ℤ) * (difference / g) :=
      mul_nonneg (by omega) (Int.ediv_nonneg hdifference (by omega))
    linarith [Int.mul_ediv_add_emod difference g]
  rw [repeatedWindow, repeatedWindow, Set.Ico_disjoint_Ico]
  rcases le_total (offset + a * period) (other + b * otherPeriod) with hle | hle
  · have hapart := hless _ (sub_nonneg.mpr hle)
    omega
  · have hapart := hless _ (sub_nonneg.mpr hle)
    omega

/-- Assumes: two windows that are not empty and do not meet in their first periods. They never meet
precisely when the earlier one is not repeated, or each of them ends before the remainder, modulo
the greatest common divisor of the periods, by which the other one starts after it. -/
theorem forall_disjoint_iff (hlength : 0 < length) (hother : 0 < otherLength)
    (hfirst : offset + length ≤ other ∨ other + otherLength ≤ offset) :
    (∀ a b, Disjoint (repeatedWindow offset length period a)
        (repeatedWindow other otherLength otherPeriod b)) ↔
      period = 0 ∧ offset < other ∨ otherPeriod = 0 ∧ other < offset ∨
        length ≤ (other - offset) % Nat.gcd period otherPeriod ∧
          otherLength ≤ (offset - other) % Nat.gcd period otherPeriod := by
  constructor
  · intro hdisjoint
    by_cases hearly : period = 0 ∧ offset < other
    · exact Or.inl hearly
    by_cases hlate : otherPeriod = 0 ∧ other < offset
    · exact Or.inr (Or.inl hlate)
    have hearly' : period = 0 → other ≤ offset := fun h ↦ not_lt.mp fun hlt ↦ hearly ⟨h, hlt⟩
    have hlate' : otherPeriod = 0 → offset ≤ other := fun h ↦ not_lt.mp fun hlt ↦ hlate ⟨h, hlt⟩
    have hpositive : 0 < Nat.gcd period otherPeriod := by
      refine Nat.pos_of_ne_zero fun hzero ↦ ?_
      obtain ⟨hperiod, hotherPeriod⟩ := Nat.gcd_eq_zero_iff.mp hzero
      have hbehind := hearly' hperiod
      have hahead := hlate' hotherPeriod
      omega
    refine Or.inr (Or.inr ⟨le_emod_of_disjoint hother hpositive hearly' hlate' hdisjoint, ?_⟩)
    rw [Nat.gcd_comm] at hpositive ⊢
    exact le_emod_of_disjoint hlength hpositive hlate' hearly' fun b a ↦ (hdisjoint a b).symm
  · rintro (⟨rfl, hlt⟩ | ⟨rfl, hlt⟩ | ⟨hle, hle'⟩) a b
    · rw [repeatedWindow, repeatedWindow, Set.Ico_disjoint_Ico]
      have hlater : 0 ≤ (b : ℤ) * otherPeriod := by positivity
      simp only [Nat.cast_zero, mul_zero]
      omega
    · rw [repeatedWindow, repeatedWindow, Set.Ico_disjoint_Ico]
      have hlater : 0 ≤ (a : ℤ) * period := by positivity
      simp only [Nat.cast_zero, mul_zero]
      omega
    · refine disjoint_of_le_emod hle hle' (Nat.pos_of_ne_zero fun hzero ↦ ?_) a b
      rw [hzero, Nat.cast_zero, Int.emod_zero] at hle hle'
      omega

end Repeated
/-! ### Multiples of a period within two periods -/

/-- Assumes: a positive period. The multiples of the period that lie after `elapsed + lead`, by two
periods at most. -/
theorem lt_and_le_add_two_mul_iff {period : ℤ} (hperiod : 0 < period) (elapsed lead n : ℤ) :
    (elapsed + lead < n * period ∧ n * period ≤ elapsed + lead + 2 * period) ↔
      n = elapsed / period + lead / period + 2 ∨
      (n = elapsed / period + lead / period + 1 ∧ elapsed % period + lead % period < period) ∨
      (n = elapsed / period + lead / period + 3 ∧ period ≤ elapsed % period + lead % period) := by
  have helapsed := Int.mul_ediv_add_emod elapsed period
  have hlead := Int.mul_ediv_add_emod lead period
  have helapsed_nonneg := Int.emod_nonneg elapsed hperiod.ne'
  have hlead_nonneg := Int.emod_nonneg lead hperiod.ne'
  have helapsed_lt := Int.emod_lt_of_pos elapsed hperiod
  have hlead_lt := Int.emod_lt_of_pos lead hperiod
  generalize elapsed / period = p at *
  generalize lead / period = q at *
  generalize elapsed % period = r at *
  generalize lead % period = s at *
  have hsum : elapsed + lead = (p + q) * period + (r + s) := by
    rw [← helapsed, ← hlead]
    ring
  rw [hsum]
  constructor
  · rintro ⟨hlow, hhigh⟩
    -- the two bounds leave three candidates for `n`
    have hgt : p + q < n := by
      by_contra hle
      have := mul_le_mul_of_nonneg_right (not_lt.mp hle) hperiod.le
      linarith
    have hlt : n < p + q + 4 := by
      by_contra hle
      have := mul_le_mul_of_nonneg_right (not_lt.mp hle) hperiod.le
      linarith
    obtain rfl | rfl | rfl : n = p + q + 1 ∨ n = p + q + 2 ∨ n = p + q + 3 := by omega
    · exact Or.inr (Or.inl ⟨rfl, by linarith⟩)
    · exact Or.inl rfl
    · exact Or.inr (Or.inr ⟨rfl, by linarith⟩)
  · rintro (rfl | ⟨rfl, hremainder⟩ | ⟨rfl, hremainder⟩)
    · constructor <;> linarith
    · constructor <;> linarith
    · constructor <;> linarith

end Tanos.Library.PeriodicGrid
