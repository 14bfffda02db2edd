/-
**Whole numbers beyond the 64-bit integers.**

A bound on a length has 64 bits without a sign.  From `2 ^ 63` on it is kept as a double, and the
doubles there lie `2048` apart, so it is taken to the nearest multiple of `2048`.  The whole number
before or after it is rounded the same way and comes out at the bound itself; and `2 ^ 63 - 1`, the
largest 64-bit integer, has no successor among the integers and stays as it is.

Main definitions:

* `coarse` — the whole number that a bound is kept as;
* `coarseAbove`, `coarseBelow` — what its neighbours are kept as;
* `Number.IsWhole` — the value of a number is an integer.

Main results:

* `Double.units_ofInt` — the double of a whole number of more than 53 bits;
* `Number.isWhole_ofNat`, `Number.isWhole_stepUp`, `Number.isWhole_stepDown` — **the values of bounds
  and of their neighbours**.
-/

import Mathlib
import ProvenShapes.Proofs.Interval
import ProvenShapes.Proofs.Number.Exact

set_option autoImplicit false

namespace ProvenShapes

/-! ### Coarse whole numbers -/

/-- The whole number that a bound on a length is kept as. -/
def coarse (n : ℕ) : ℕ := if n < 2 ^ 63 then n else Double.roundDiv n 2048 * 2048

/-- The whole number after a bound, as it is kept. -/
def coarseAbove (n : ℕ) : ℤ := if n < 2 ^ 63 - 1 then n + 1 else coarse n

/-- The whole number before a bound, as it is kept. -/
def coarseBelow (n : ℕ) : ℤ := if n < 2 ^ 63 then n - 1 else coarse n

/-! ### Rounded quotients -/

namespace Double

theorem roundDiv_le (n d : ℕ) : roundDiv n d ≤ n / d + 1 := by
  simp only [roundDiv]
  repeat' split
  all_goals omega

theorem roundDiv_mono {m n : ℕ} (h : m ≤ n) (d : ℕ) : roundDiv m d ≤ roundDiv n d := by
  rcases lt_or_eq_of_le (Nat.div_le_div_right (c := d) h) with less | same
  · have := roundDiv_le m d
    have := div_le_roundDiv n d
    omega
  · -- equal quotients, so the remainders are in order
    have first := Nat.div_add_mod m d
    have second := Nat.div_add_mod n d
    rw [same] at first
    simp only [roundDiv, same]
    repeat' split
    all_goals omega

/-- Rounding a quotient does not depend on the unit. -/
theorem roundDiv_mul_right (n d : ℕ) {c : ℕ} (pos : 0 < c) :
    roundDiv (n * c) (d * c) = roundDiv n d := by
  have less : 2 * (n % d * c) < d * c ↔ 2 * (n % d) < d := by
    rw [← mul_assoc, Nat.mul_lt_mul_right pos]
  have more : d * c < 2 * (n % d * c) ↔ d < 2 * (n % d) := by
    rw [← mul_assoc, Nat.mul_lt_mul_right pos]
  simp only [roundDiv, Nat.mul_div_mul_right _ _ pos, Nat.mul_mod_mul_right, less, more]

/-- Units of more than 52 bits are rounded to a multiple of a power of two. -/
theorem units_ofRatio_of_log {n : ℕ} (wide : 52 ≤ n.log2) (range : n.log2 - 52 < 2045) :
    (ofRatio false n 1).units =
      some ((roundDiv n (2 ^ (n.log2 - 52)) * 2 ^ (n.log2 - 52) : ℕ) : ℤ) := by
  have bits := le_div_shift wide
  have few := div_shift_lt n
  rw [Nat.one_shiftLeft, Nat.one_shiftLeft] at bits few
  simp only [ofRatio, Nat.div_one, Nat.one_shiftLeft]
  generalize n.log2 - 52 = shift at *
  have least := div_le_roundDiv n (2 ^ shift)
  have most := roundDiv_le n (2 ^ shift)
  generalize roundDiv n (2 ^ shift) = mantissa at *
  split
  · next full =>
      have canonical : Canonical (2 ^ 52) (shift + 1) := ⟨by decide, range, .inl (by decide)⟩
      have same : 2 ^ 52 <<< (shift + 1) = 2 ^ 53 * 2 ^ shift := by
        rw [Nat.shiftLeft_eq, pow_succ' 2 shift, pow_succ 2 52, mul_assoc]
      rw [units_ofParts canonical, same, full]
      rfl
  · next partly =>
      have canonical : Canonical mantissa shift := by
        refine ⟨?_, le_of_lt range, .inl ?_⟩
        · rw [Nat.one_shiftLeft]
          omega
        · rw [Nat.one_shiftLeft]
          omega
      rw [units_ofParts canonical, Nat.shiftLeft_eq]
      rfl

theorem log2_mul_two_pow {n k : ℕ} (low : 2 ^ k ≤ n) (high : n < 2 ^ (k + 1)) (e : ℕ) :
    (n * 2 ^ e).log2 = k + e := by
  have positive : 0 < n := lt_of_lt_of_le (Nat.two_pow_pos k) low
  have nonzero : n * 2 ^ e ≠ 0 := (Nat.mul_pos positive (Nat.two_pow_pos e)).ne'
  rw [Nat.log2_eq_iff nonzero, pow_add 2 k e, add_right_comm k e 1, pow_add 2 (k + 1) e]
  exact ⟨Nat.mul_le_mul_right _ low, Nat.mul_lt_mul_of_pos_right high (Nat.two_pow_pos e)⟩

/-- A whole number of more than 52 bits, counted in units, is rounded to a multiple of a power of
two. -/
theorem units_ofRatio_mul {n k e : ℕ} (low : 2 ^ (52 + k) ≤ n) (high : n < 2 ^ (53 + k))
    (range : k + e < 2045) :
    (ofRatio false (n * 2 ^ e) 1).units = some ((roundDiv n (2 ^ k) * 2 ^ k * 2 ^ e : ℕ) : ℤ) := by
  have log : (n * 2 ^ e).log2 = 52 + k + e :=
    log2_mul_two_pow low (by rwa [add_right_comm 52 k 1]) e
  have shift : (n * 2 ^ e).log2 - 52 = k + e := by omega
  rw [units_ofRatio_of_log (by omega) (by omega), shift, pow_add,
    roundDiv_mul_right _ _ (Nat.two_pow_pos e), mul_assoc]

/-- The double of a whole number of more than 52 bits. -/
theorem units_ofInt {n k : ℕ} (low : 2 ^ (52 + k) ≤ n) (high : n < 2 ^ (53 + k)) (range : k ≤ 900) :
    (ofInt n).units = some (((roundDiv n (2 ^ k) * 2 ^ k : ℕ) : ℤ) * one) := by
  have sign : decide ((n : ℤ) < 0) = false := decide_eq_false (not_lt.2 (Int.natCast_nonneg n))
  rw [ofInt, sign, Int.natAbs_natCast, ← Int.natCast_mul, one_eq]
  exact units_ofRatio_mul low high (by omega)

end Double

/-! ### Coarse whole numbers -/

theorem coarse_of_lt {n : ℕ} (h : n < 2 ^ 63) : coarse n = n := if_pos h

theorem coarse_of_le {n : ℕ} (h : 2 ^ 63 ≤ n) : coarse n = Double.roundDiv n 2048 * 2048 :=
  if_neg (not_lt.2 h)

theorem le_coarse {n : ℕ} (h : 2 ^ 63 ≤ n) : 2 ^ 63 ≤ coarse n := by
  have := Double.div_le_roundDiv n 2048
  rw [coarse_of_le h]
  omega

theorem coarse_le {n : ℕ} (h : n < 2 ^ 64) : coarse n ≤ 2 ^ 64 := by
  have := Double.roundDiv_le n 2048
  rcases lt_or_ge n (2 ^ 63) with small | large
  · rw [coarse_of_lt small]
    omega
  · rw [coarse_of_le large]
    omega

/-- Bounds keep their order. -/
theorem coarse_mono {m n : ℕ} (h : m ≤ n) : coarse m ≤ coarse n := by
  rcases lt_or_ge n (2 ^ 63) with small | large
  · rw [coarse_of_lt small, coarse_of_lt (by omega)]
    exact h
  · rcases lt_or_ge m (2 ^ 63) with small | large'
    · have := le_coarse large
      rw [coarse_of_lt small]
      omega
    · rw [coarse_of_le large, coarse_of_le large']
      exact Nat.mul_le_mul_right _ (Double.roundDiv_mono h 2048)

theorem coarse_cases (n : ℕ) :
    (n < 2 ^ 63 ∧ coarse n = n) ∨ (2 ^ 63 ≤ n ∧ 2 ^ 63 ≤ coarse n) := by
  rcases lt_or_ge n (2 ^ 63) with small | large
  · exact .inl ⟨small, coarse_of_lt small⟩
  · exact .inr ⟨large, le_coarse large⟩

theorem coarseAbove_cases (n : ℕ) :
    (n < 2 ^ 63 - 1 ∧ coarseAbove n = n + 1) ∨ (2 ^ 63 - 1 ≤ n ∧ coarseAbove n = coarse n) := by
  unfold coarseAbove
  split <;> omega

theorem coarseBelow_cases (n : ℕ) :
    (n < 2 ^ 63 ∧ coarseBelow n = n - 1) ∨ (2 ^ 63 ≤ n ∧ coarseBelow n = coarse n) := by
  unfold coarseBelow
  split <;> omega

theorem coarseAbove_nonneg (n : ℕ) : 0 ≤ coarseAbove n := by
  unfold coarseAbove
  split <;> omega

/-! ### The numbers of bounds -/

/-- The number is finite and its value is an integer. -/
def Number.IsWhole (n : Number) (z : ℤ) : Prop := n.isFinite = true ∧ n.toRat = z

namespace Number

theorem isWhole_int {n : ℤ} (low : -2 ^ 63 ≤ n) (high : n < 2 ^ 63) : (ofInt n).IsWhole n := by
  rw [ofInt_of_fits low high]
  refine ⟨rfl, ?_⟩
  rw [toRat, Int64.toInt_ofInt_of_le low high]

theorem isWhole_of_units {d : Double} {z : ℤ} (h : d.units = some (z * Double.one)) :
    (float d).IsWhole z := by
  cases d with
  | finite negative mantissa shift canonical =>
      have unit : (Double.one : ℚ) ≠ 0 := by exact_mod_cast Double.one_pos.ne'
      have scaled := place_snd_eq (n := float (.finite negative mantissa shift canonical)) rfl
      simp only [place, h, Option.getD_some, Int.cast_mul, Int.cast_natCast] at scaled
      exact ⟨rfl, (mul_right_cancel₀ unit scaled).symm⟩
  | infinite | nan => simp [Double.units] at h

theorem isZero_eq_false {d : Double} {z : ℤ} (h : d.units = some (z * Double.one)) (nonzero : z ≠ 0) :
    d.isZero = false := by
  cases d with
  | finite negative mantissa shift canonical =>
      have some : z * Double.one ≠ 0 := mul_ne_zero nonzero Double.one_pos_int.ne'
      by_contra zero
      obtain rfl : mantissa = 0 := by simpa [Double.isZero] using zero
      refine some (Option.some.inj (h.symm.trans ?_))
      cases negative <;> simp [Double.units]
  | infinite | nan => simp [Double.units] at h

/-- The doubles from `2 ^ 63` to `2 ^ 64` lie `2048` apart. -/
theorem units_ofInt_coarse {n : ℕ} (low : 2 ^ 63 ≤ n) (high : n < 2 ^ 64) :
    (Double.ofInt n).units = some ((coarse n : ℤ) * Double.one) := by
  have spacing : 2 ^ 11 = 2048 := by norm_num
  have least : 2 ^ (52 + 11) ≤ n := by omega
  have most : n < 2 ^ (53 + 11) := by omega
  have units := Double.units_ofInt least most (by omega)
  rwa [spacing, ← coarse_of_le low] at units

theorem ofNat_of_le {n : ℕ} (low : 2 ^ 63 ≤ n) (high : n < 2 ^ 64) :
    ofNat n = .float (.ofInt n) := by
  have notFits : ¬(Int64.minValue.toInt ≤ (n : ℤ) ∧ (n : ℤ) ≤ Int64.maxValue.toInt) := by
    rw [fits_iff]
    omega
  have positive : (coarse n : ℤ) ≠ 0 := by
    have := le_coarse low
    omega
  rw [ofNat, ofInt, if_neg notFits, ofDouble,
    isZero_eq_false (units_ofInt_coarse low high) positive, if_neg Bool.false_ne_true]

/-- The value of a bound. -/
theorem isWhole_ofNat {n : ℕ} (h : n < 2 ^ 64) : (ofNat n).IsWhole (coarse n) := by
  rcases lt_or_ge n (2 ^ 63) with small | large
  · rw [coarse_of_lt small]
    exact isWhole_int (by omega) (by omega)
  · rw [ofNat_of_le large h]
    exact isWhole_of_units (units_ofInt_coarse large h)

/-- A coarse whole number is a multiple of `2048` between `2 ^ 63` and `2 ^ 64`. -/
theorem exists_coarse {n : ℕ} (low : 2 ^ 63 ≤ n) (high : n < 2 ^ 64) :
    ∃ q, coarse n = q * 2048 ∧ 2 ^ 52 ≤ q ∧ q ≤ 2 ^ 53 := by
  have least := le_coarse low
  have most := coarse_le high
  have whole := coarse_of_le low
  exact ⟨_, whole, by omega, by omega⟩

/-- The whole numbers beside a coarse one are rounded back to it. -/
theorem units_ofInt_beside {n m : ℕ} (low : 2 ^ 63 ≤ n) (high : n < 2 ^ 64)
    (beside : m = coarse n + 1 ∨ m + 1 = coarse n) :
    (Double.ofInt m).units = some ((coarse n : ℤ) * Double.one) := by
  obtain ⟨q, whole, least, most⟩ := exists_coarse low high
  rw [whole] at beside ⊢
  by_cases within : 2 ^ 63 ≤ m ∧ m < 2 ^ 64
  · have back : Double.roundDiv m 2048 = q := by
      simp only [Double.roundDiv]
      repeat' split
      all_goals omega
    rw [units_ofInt_coarse within.1 within.2, coarse_of_le within.1, back]
  · -- past the first and the last of them the spacing is another one
    obtain ⟨rfl, rfl⟩ | ⟨rfl, rfl⟩ : (q = 4503599627370496 ∧ m = 9223372036854775807) ∨
        (q = 9007199254740992 ∧ m = 18446744073709551617) := by omega
    · decide +kernel
    · decide +kernel

theorem stepUp_of_units {d : Double} {z : ℤ} (h : d.units = some (z * Double.one)) :
    stepUp (.float d) = .float (.ofInt (z + 1)) := by
  simp only [stepUp, h, Int.mul_ediv_cancel _ Double.one_pos_int.ne']

theorem stepDown_of_units {d : Double} {z : ℤ} (h : d.units = some (z * Double.one)) :
    stepDown (.float d) = .float (.ofInt (z - 1)) := by
  simp only [stepDown, h, ← Int.neg_mul, Int.mul_ediv_cancel _ Double.one_pos_int.ne', neg_neg]

/-- The value of the whole number after a bound. -/
theorem isWhole_stepUp {n : ℕ} (h : n < 2 ^ 64) : (ofNat n).stepUp.IsWhole (coarseAbove n) := by
  unfold coarseAbove
  split
  · next small =>
      rw [ofNat, stepUp_ofInt (by omega) (by omega)]
      exact isWhole_int (by omega) (by omega)
  · next large =>
      rcases lt_or_ge n (2 ^ 63) with fits | beyond
      · have last : (n : ℤ) = 2 ^ 63 - 1 := by omega
        rw [coarse_of_lt fits, ofNat, last, stepUp_ofInt_max]
        exact isWhole_int (by omega) (by omega)
      · rw [ofNat_of_le beyond h, stepUp_of_units (units_ofInt_coarse beyond h)]
        exact isWhole_of_units (units_ofInt_beside beyond h (.inl rfl))

/-- The value of the whole number before a bound. -/
theorem isWhole_stepDown {n : ℕ} (h : n < 2 ^ 64) : (ofNat n).stepDown.IsWhole (coarseBelow n) := by
  unfold coarseBelow
  split
  · next small =>
      rw [ofNat, stepDown_ofInt (by omega) (by omega)]
      exact isWhole_int (by omega) (by omega)
  · next large =>
      have beyond : 2 ^ 63 ≤ n := by omega
      rw [ofNat_of_le beyond h, stepDown_of_units (units_ofInt_coarse beyond h)]
      have positive := le_coarse beyond
      have before : ((coarse n : ℤ) - 1) = (coarse n - 1 : ℕ) := by omega
      rw [before]
      exact isWhole_of_units (units_ofInt_beside beyond h (.inr (by omega)))

end Number

end ProvenShapes
