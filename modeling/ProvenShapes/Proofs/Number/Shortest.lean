/-
**The shortest digits read back.**

The decimals that are read as a double are those of an interval around it, its window.  Two things
make the text of a double read back as the double.  Every decimal of the window is rounded to the
double, however it is written.  And among the decimals of at most seventeen digits there is one in the
window: they lie closer to each other than the doubles do, since `2 ^ 53 < 10 ^ 16`.  Only below a
power of two is the window narrower than the doubles above suggest, and there the next decimal above
the value is near enough.

Main definitions:

* `Double.Digits.toRat` — the value of a decimal;
* `Double.Window.Admits` — a rational lies in a window.

Main results:

* `Double.ofRatio_of_admits` — what lies in the window of a double is rounded to it;
* `Double.ofDecimal_of_admits` — **every decimal in the window of a double is read as it**;
* `Double.isSome_onGrid_seventeen` — seventeen digits are enough;
* `Double.admits_shortest` — **the shortest digits lie in the window**.
-/

import Mathlib
import ProvenShapes.Double.Shortest
import ProvenShapes.Proofs.Number.Exact

set_option autoImplicit false

namespace ProvenShapes.Double

/-! ### Windows -/

/-- The value of a decimal. -/
def Digits.toRat (d : Digits) : ℚ := d.digits * 10 ^ d.exponent

/-- A rational, in quarters of a unit, lies in the window. -/
def Window.Admits (w : Window) (x : ℚ) : Prop :=
  if w.closed then (w.low : ℚ) ≤ x ∧ x ≤ w.high else (w.low : ℚ) < x ∧ x < w.high

theorem Window.admits_eq_true_iff {w : Window} {n d : ℕ} (pos : 0 < d) :
    w.admits n d = true ↔ w.Admits (n / d) := by
  have unit : (0 : ℚ) < d := by exact_mod_cast pos
  unfold admits Admits
  cases w.closed with
  | false =>
      simp only [Bool.false_eq_true, if_false, Bool.and_eq_true, decide_eq_true_eq, lt_div_iff₀ unit,
        div_lt_iff₀ unit]
      norm_cast
  | true =>
      simp only [if_true, Bool.and_eq_true, decide_eq_true_eq, le_div_iff₀ unit, div_le_iff₀ unit]
      norm_cast

theorem Window.Admits.low_le {w : Window} {x : ℚ} (h : w.Admits x) : (w.low : ℚ) ≤ x := by
  unfold Admits at h
  split at h
  · exact h.1
  · exact h.1.le

theorem Window.Admits.le_high {w : Window} {x : ℚ} (h : w.Admits x) : x ≤ w.high := by
  unfold Admits at h
  split at h
  · exact h.2
  · exact h.2.le

theorem Window.admits_of_lt {w : Window} {x : ℚ} (low : (w.low : ℚ) < x) (high : x < w.high) :
    w.Admits x := by
  unfold Admits
  split
  · exact ⟨low.le, high.le⟩
  · exact ⟨low, high⟩

/-! ### Rounding -/

/-- The quotient is rounded to the whole number from which it is at most half away, if that is even or
it is less than half away. -/
theorem roundDiv_eq {n d q : ℕ} (pos : 0 < d) (low : 2 * (q * d) ≤ 2 * n + d)
    (high : 2 * n ≤ 2 * (q * d) + d)
    (tie : 2 * n = 2 * (q * d) + d ∨ 2 * (q * d) = 2 * n + d → q % 2 = 0) : roundDiv n d = q := by
  have parts := Nat.div_add_mod n d
  have less := Nat.mod_lt n pos
  simp only [roundDiv]
  generalize n / d = p at *
  generalize n % d = r at *
  -- the quotient is the whole number or the one before it
  have near : p = q ∨ p + 1 = q := by
    by_contra apart
    push Not at apart
    rcases lt_or_ge p q with before | after
    · have : (p + 2) * d ≤ q * d := Nat.mul_le_mul_right d (by omega)
      nlinarith
    · have : (q + 1) * d ≤ p * d := Nat.mul_le_mul_right d (by omega)
      nlinarith
  rcases near with rfl | rfl
  · have same : d * p = p * d := mul_comm _ _
    repeat' split
    all_goals omega
  · have same : d * p + d = (p + 1) * d := by ring
    repeat' split
    all_goals omega

theorem Window.between_of_admits {w : Window} {n d : ℕ} (h : w.admits n d = true) :
    w.low * d ≤ n ∧ n ≤ w.high * d ∧ (w.low * d = n ∨ n = w.high * d → w.closed = true) := by
  unfold admits at h
  split at h
  · next closed =>
      simp only [Bool.and_eq_true, decide_eq_true_eq] at h
      exact ⟨h.1, h.2, fun _ => closed⟩
  · simp only [Bool.and_eq_true, decide_eq_true_eq] at h
    omega

/-- What a window says about a ratio of units, without fractions. -/
theorem bounds_of_admits {mantissa shift n d : ℕ} (pos : mantissa ≠ 0)
    (h : (window mantissa shift).admits (4 * n) d = true) :
    2 * (mantissa * (d <<< shift)) ≤ 2 * n + d <<< shift ∧
      2 * n ≤ 2 * (mantissa * (d <<< shift)) + d <<< shift ∧
      (2 * n = 2 * (mantissa * (d <<< shift)) + d <<< shift ∨
        2 * (mantissa * (d <<< shift)) = 2 * n + d <<< shift → mantissa % 2 = 0) ∧
      (mantissa = 1 <<< 52 → 0 < shift → 4 * (mantissa * (d <<< shift)) ≤ 4 * n + d <<< shift) := by
  have scaled : d <<< shift = 1 <<< shift * d := by
    rw [Nat.shiftLeft_eq, Nat.one_shiftLeft, mul_comm]
  have least : 1 <<< shift * d ≤ mantissa * (1 <<< shift * d) :=
    Nat.le_mul_of_pos_left _ (by omega)
  have high : (window mantissa shift).high * d =
      4 * (mantissa * (1 <<< shift * d)) + 2 * (1 <<< shift * d) := by
    simp only [window]
    ring
  have closed : (window mantissa shift).closed = true → mantissa % 2 = 0 := by simp [window]
  have low : (window mantissa shift).low * d = 4 * (mantissa * (1 <<< shift * d)) -
      (if mantissa = 1 <<< 52 ∧ 0 < shift then 1 <<< shift * d else 2 * (1 <<< shift * d)) := by
    simp only [window, Nat.sub_mul, ite_mul]
    congr 1
    · ring
    · split <;> ring
  obtain ⟨above, below, ends⟩ := Window.between_of_admits h
  rw [low] at above ends
  rw [high] at below ends
  rw [scaled]
  generalize mantissa * (1 <<< shift * d) = middle at *
  generalize 1 <<< shift * d = width at *
  split at above
  · next narrow => exact ⟨by omega, by omega, fun tie => closed (ends (by omega)), by omega⟩
  · next wide =>
      rw [if_neg wide] at ends
      refine ⟨by omega, by omega, fun tie => closed (ends (by omega)), fun full proper => ?_⟩
      exact absurd ⟨full, proper⟩ wide

theorem ofParts_of_canonical {negative : Bool} {mantissa shift : ℕ} (h : Canonical mantissa shift) :
    ofParts negative mantissa shift = .finite negative mantissa shift h := dif_pos h

/-- The shift that leaves 53 bits of a quotient. -/
theorem log2_div_sub_eq {n d shift : ℕ} (pos : 0 < d)
    (low : shift = 0 ∨ 2 ^ (52 + shift) * d ≤ n) (high : n < 2 ^ (53 + shift) * d) :
    (n / d).log2 - 52 = shift := by
  have less : n / d < 2 ^ (53 + shift) := (Nat.div_lt_iff_lt_mul pos).2 high
  have bounded : (n / d).log2 < 53 + shift := by
    by_cases zero : n / d = 0
    · simp [zero]
    · exact (Nat.log2_lt zero).2 less
  rcases low with rfl | low
  · omega
  · have more : 2 ^ (52 + shift) ≤ n / d := (Nat.le_div_iff_mul_le pos).2 low
    have nonzero : n / d ≠ 0 := (lt_of_lt_of_le (Nat.two_pow_pos _) more).ne'
    have := (Nat.le_log2 nonzero).2 more
    omega

/-- What lies in the window of a double is rounded to the double. -/
theorem ofRatio_of_admits {negative : Bool} {mantissa shift n d : ℕ} (pos : mantissa ≠ 0)
    (unit : 0 < d) (canonical : Canonical mantissa shift)
    (h : (window mantissa shift).admits (4 * n) d = true) :
    ofRatio negative n d = .finite negative mantissa shift canonical := by
  obtain ⟨low, high, tie, narrow⟩ := bounds_of_admits pos h
  obtain ⟨few, range, full⟩ := id canonical
  rw [Nat.one_shiftLeft] at few full narrow
  have width : d <<< shift = 2 ^ shift * d := by rw [Nat.shiftLeft_eq, mul_comm]
  have positive : 0 < d <<< shift := width ▸ Nat.mul_pos (Nat.two_pow_pos _) unit
  have most : n < 2 ^ (53 + shift) * d := by
    have whole : (mantissa + 1) * (d <<< shift) ≤ 2 ^ 53 * (d <<< shift) :=
      Nat.mul_le_mul_right _ (by omega)
    rw [pow_add, mul_assoc, ← width]
    rw [add_mul, one_mul] at whole
    omega
  by_cases normal : shift = 0 ∨ 2 ^ (52 + shift) * d ≤ n
  · -- the value has the shift of the double
    simp only [ofRatio, log2_div_sub_eq unit normal most, roundDiv_eq positive low high tie]
    rw [if_neg (by rw [Nat.one_shiftLeft]; omega), ofParts_of_canonical canonical]
  · -- the value lies below a power of two and is rounded up to it
    push Not at normal
    obtain ⟨proper, less⟩ := normal
    obtain ⟨half, rfl⟩ := Nat.exists_eq_add_one_of_ne_zero proper
    have double : d <<< (half + 1) = 2 * (d <<< half) := by
      rw [Nat.shiftLeft_eq, Nat.shiftLeft_eq, pow_succ]
      ring
    have power : 2 ^ (52 + (half + 1)) * d = 2 ^ 52 * (d <<< (half + 1)) := by
      rw [width, pow_add]
      ring
    have least : mantissa = 2 ^ 52 := by
      rw [power] at less
      rcases full with full | zero
      · by_contra more
        have above : (2 ^ 52 + 1) * (d <<< (half + 1)) ≤ mantissa * (d <<< (half + 1)) :=
          Nat.mul_le_mul_right _ (by omega)
        rw [add_mul, one_mul] at above
        omega
      · omega
    subst least
    have close := narrow rfl (Nat.succ_pos half)
    rw [power, double] at less
    rw [double] at close positive
    have shifted : (n / d).log2 - 52 = half := by
      refine log2_div_sub_eq unit (.inr ?_) ?_
      · have : 2 ^ (52 + half) * d = 2 ^ 52 * (d <<< half) := by
          rw [Nat.shiftLeft_eq, pow_add]
          ring
        omega
      · have : 2 ^ (53 + half) * d = 2 ^ 53 * (d <<< half) := by
          rw [Nat.shiftLeft_eq, pow_add]
          ring
        omega
    have rounded : roundDiv n (d <<< half) = 2 ^ 53 :=
      roundDiv_eq (by omega) (by omega) (by omega) fun _ => by norm_num
    simp only [ofRatio, shifted, rounded]
    rw [if_pos (by rw [Nat.one_shiftLeft])]
    exact ofParts_of_canonical canonical

/-! ### Decimals -/

theorem digitCount_pos (n : ℕ) : 0 < digitCount n := Nat.length_toDigits_pos

theorem lt_ten_pow_digitCount (n : ℕ) : n < 10 ^ digitCount n :=
  (Nat.length_toDigits_le_iff (by decide) (digitCount_pos n)).1 le_rfl

theorem ten_pow_le_of_pos {n : ℕ} (pos : n ≠ 0) : 10 ^ (digitCount n - 1) ≤ n := by
  by_contra less
  rcases Nat.eq_zero_or_pos (digitCount n - 1) with single | more
  · rw [single] at less
    omega
  · have shorter := (Nat.length_toDigits_le_iff (by decide) more).2 (not_le.1 less)
    have := digitCount_pos n
    unfold digitCount at *
    omega

/-- A decimal that is not zero lies between two powers of ten. -/
theorem Digits.toRat_bounds {d : Digits} (pos : d.digits ≠ 0) :
    (10 : ℚ) ^ ((digitCount d.digits : ℤ) - 1 + d.exponent) ≤ d.toRat ∧
      d.toRat < (10 : ℚ) ^ ((digitCount d.digits : ℤ) + d.exponent) := by
  have scale : (0 : ℚ) < 10 ^ d.exponent := by positivity
  have count : ((digitCount d.digits - 1 : ℕ) : ℤ) = (digitCount d.digits : ℤ) - 1 := by
    have := digitCount_pos d.digits
    omega
  rw [zpow_add₀ (by norm_num), zpow_add₀ (by norm_num), ← count, zpow_natCast, zpow_natCast, toRat]
  constructor
  · refine mul_le_mul_of_nonneg_right ?_ scale.le
    exact_mod_cast ten_pow_le_of_pos pos
  · refine mul_lt_mul_of_pos_right ?_ scale
    exact_mod_cast lt_ten_pow_digitCount d.digits

/-- A power of ten as a quotient of two without negative exponents. -/
theorem ten_zpow_eq (e : ℤ) : (10 : ℚ) ^ e = (10 ^ e.toNat : ℕ) / (10 ^ (-e).toNat : ℕ) := by
  rw [Nat.cast_pow, Nat.cast_pow, Nat.cast_ofNat, ← zpow_natCast, ← zpow_natCast,
    ← zpow_sub₀ (by norm_num)]
  congr 1
  omega

theorem one_pos_rat : (0 : ℚ) < one := by exact_mod_cast one_pos

/-- Half of the least double is more than `10 ^ -324`. -/
theorem ten_zpow_lt_half : (10 : ℚ) ^ (-324 : ℤ) * (2 * one) < 1 := by
  have small : 2 * one < 10 ^ 324 := by decide +kernel
  have scale : (0 : ℚ) < 10 ^ (324 : ℤ) := by positivity
  rw [zpow_neg, inv_mul_lt_iff₀ scale, mul_one]
  exact_mod_cast small

theorem one_shiftLeft_mono {a b : ℕ} (h : a ≤ b) : 1 <<< a ≤ 1 <<< b := by
  rw [Nat.one_shiftLeft, Nat.one_shiftLeft]
  exact Nat.pow_le_pow_right (by decide) h

/-- The window of a double that is not zero lies above half of the least double and below `10 ^ 309`. -/
theorem window_bounds {mantissa shift : ℕ} (pos : mantissa ≠ 0) (canonical : Canonical mantissa shift) :
    (2 : ℚ) ≤ (window mantissa shift).low ∧
      ((window mantissa shift).high : ℚ) < 4 * one * 10 ^ (309 : ℤ) := by
  obtain ⟨few, range, -⟩ := canonical
  have step : 1 ≤ 1 <<< shift := Nat.one_shiftLeft shift ▸ Nat.one_le_two_pow
  -- the power that belongs to the greatest shift stays unevaluated
  obtain ⟨top, most, greatest⟩ :
      ∃ top, 1 <<< shift ≤ top ∧ 4 * (1 <<< 53 * top) < 4 * one * 10 ^ 309 := by
    exact ⟨1 <<< 2045, one_shiftLeft_mono range, by decide +kernel⟩
  constructor
  · have least : 4 * (1 <<< shift) ≤ 4 * mantissa * (1 <<< shift) := Nat.mul_le_mul_right _ (by omega)
    have low : 2 ≤ (window mantissa shift).low := by
      simp only [window]
      generalize 1 <<< shift = width at *
      split <;> omega
    exact_mod_cast low
  · have high : (window mantissa shift).high ≤ 4 * (1 <<< 53 * top) := by
      calc (window mantissa shift).high = (4 * mantissa + 2) * (1 <<< shift) := by
            simp only [window]
            ring
        _ ≤ (4 * 1 <<< 53) * top := Nat.mul_le_mul (by omega) most
        _ = 4 * (1 <<< 53 * top) := mul_assoc _ _ _
    exact_mod_cast lt_of_le_of_lt high greatest

/-- A decimal in the window of a double has a magnitude that doubles reach. -/
theorem magnitude_of_admits {mantissa shift : ℕ} (pos : mantissa ≠ 0)
    (canonical : Canonical mantissa shift) {d : Digits}
    (h : (window mantissa shift).Admits (4 * one * d.toRat)) :
    d.digits ≠ 0 ∧ -324 < (digitCount d.digits : ℤ) + d.exponent ∧
      (digitCount d.digits : ℤ) + d.exponent ≤ 309 := by
  have unit := mul_pos two_pos one_pos_rat
  obtain ⟨least, most⟩ := window_bounds pos canonical
  have low : (2 : ℚ) ≤ 4 * one * d.toRat := least.trans h.low_le
  have high : 4 * one * d.toRat < 4 * one * 10 ^ (309 : ℤ) := lt_of_le_of_lt h.le_high most
  have nonzero : d.digits ≠ 0 := by
    intro zero
    rw [Digits.toRat, zero, Nat.cast_zero, zero_mul, mul_zero] at low
    norm_num at low
  obtain ⟨above, below⟩ := Digits.toRat_bounds nonzero
  have base : (1 : ℚ) < 10 := by norm_num
  refine ⟨nonzero, ?_, ?_⟩
  · rw [← zpow_lt_zpow_iff_right₀ base]
    refine lt_trans ?_ below
    refine lt_of_mul_lt_mul_right (lt_of_lt_of_le ten_zpow_lt_half ?_) unit.le
    linarith
  · have less : (10 : ℚ) ^ ((digitCount d.digits : ℤ) - 1 + d.exponent) < 10 ^ (309 : ℤ) :=
      lt_of_le_of_lt above (lt_of_mul_lt_mul_left high (by linarith))
    have := (zpow_lt_zpow_iff_right₀ base).1 less
    omega

/-- Every decimal in the window of a double is read as the double. -/
theorem ofDecimal_of_admits {negative : Bool} {mantissa shift : ℕ} (pos : mantissa ≠ 0)
    (canonical : Canonical mantissa shift) {d : Digits}
    (h : (window mantissa shift).Admits (4 * one * d.toRat)) :
    ofDecimal negative d.digits d.exponent = .finite negative mantissa shift canonical := by
  obtain ⟨nonzero, least, most⟩ := magnitude_of_admits pos canonical h
  simp only [ofDecimal]
  rw [if_neg (by omega), if_neg (by omega)]
  split
  · next whole =>
      refine ofRatio_of_admits pos Nat.one_pos canonical ((Window.admits_eq_true_iff Nat.one_pos).2 ?_)
      have scale : (-d.exponent).toNat = 0 := by omega
      have value : ((4 * (d.digits * Nat.pow 10 d.exponent.toNat * one) : ℕ) : ℚ) / (1 : ℕ) =
          4 * one * d.toRat := by
        rw [Digits.toRat, ten_zpow_eq, scale, Nat.pow_eq]
        push_cast
        ring
      rw [value]
      exact h
  · next fractional =>
      have positive : 0 < Nat.pow 10 (-d.exponent).toNat := Nat.pow_pos (by decide)
      refine ofRatio_of_admits pos positive canonical ((Window.admits_eq_true_iff positive).2 ?_)
      have scale : d.exponent.toNat = 0 := by omega
      have value : ((4 * (d.digits * one) : ℕ) : ℚ) / (Nat.pow 10 (-d.exponent).toNat : ℕ) =
          4 * one * d.toRat := by
        rw [Digits.toRat, ten_zpow_eq, scale, Nat.pow_eq]
        push_cast
        ring
      rw [value]
      exact h

/-! ### The grids of decimals -/

/-- The number of digits of a quotient, taken with some decimal places, tells its magnitude. -/
theorem digitCount_div_bounds {n d scale places : ℕ} (unit : 0 < d) (power : scale = Nat.pow 10 places)
    (large : d ≤ n * scale) :
    (10 : ℚ) ^ ((digitCount (n * scale / d) : ℤ) - (places + 1)) * d ≤ n ∧
      (n : ℚ) < 10 ^ ((digitCount (n * scale / d) : ℤ) - places) * d := by
  rw [Nat.pow_eq] at power
  subst power
  have nonzero : n * 10 ^ places / d ≠ 0 := (Nat.div_pos large unit).ne'
  have low := ten_pow_le_of_pos nonzero
  have high := lt_ten_pow_digitCount (n * 10 ^ places / d)
  have count := digitCount_pos (n * 10 ^ places / d)
  rw [Nat.le_div_iff_mul_le unit] at low
  rw [Nat.div_lt_iff_lt_mul unit] at high
  generalize digitCount (n * 10 ^ places / d) = length at *
  have scale : (0 : ℚ) < 10 ^ places := by positivity
  have least : (length : ℤ) - (places + 1) = ((length - 1 : ℕ) : ℤ) - places := by omega
  rw [least, zpow_sub₀ (by norm_num), zpow_sub₀ (by norm_num), zpow_natCast, zpow_natCast, zpow_natCast,
    div_mul_eq_mul_div, div_mul_eq_mul_div, div_le_iff₀ scale, lt_div_iff₀ scale]
  exact ⟨by exact_mod_cast low, by exact_mod_cast high⟩

/-- The leading exponent of a value is that of the power of ten below it. -/
theorem leadingExponent_spec (value : ℕ) (pos : 4 ≤ value) :
    (10 : ℚ) ^ leadingExponent value * (4 * one) ≤ value ∧
      (value : ℚ) < 10 ^ (leadingExponent value + 1) * (4 * one) := by
  -- the power of ten stays unevaluated
  obtain ⟨scale, power, exponent, enough⟩ : ∃ scale, scale = Nat.pow 10 330 ∧
      leadingExponent value = (digitCount (value * scale / (4 * one)) : ℤ) - 331 ∧
      4 * one ≤ 4 * scale := ⟨_, rfl, rfl, by decide +kernel⟩
  have large : 4 * one ≤ value * scale := enough.trans (Nat.mul_le_mul_right _ pos)
  obtain ⟨low, high⟩ := digitCount_div_bounds (Nat.mul_pos (by decide) one_pos) power large
  rw [exponent]
  generalize digitCount _ = length at *
  have next : (length : ℤ) - 331 + 1 = length - (330 : ℕ) := by omega
  rw [Nat.cast_mul] at low high
  rw [next]
  exact ⟨low, high⟩

namespace Window

variable {w : Window} {tie : Tie} {e : ℤ}

/-- The largest point of a grid that is not above the value of a window. -/
def pointBelow (w : Window) (e : ℤ) : ℕ := w.value * 10 ^ (-e).toNat / (4 * one * 10 ^ e.toNat)

theorem admits_point_iff (p : ℕ) :
    w.admits (p * (4 * one * Nat.pow 10 e.toNat)) (Nat.pow 10 (-e).toNat) = true ↔
      w.Admits (4 * one * (p * 10 ^ e)) := by
  rw [Nat.pow_eq, Nat.pow_eq, admits_eq_true_iff (Nat.pow_pos (by decide)), ten_zpow_eq]
  push_cast
  rw [← mul_div_assoc, ← mul_div_assoc]
  have : (p : ℚ) * (4 * one * 10 ^ e.toNat) = 4 * one * (p * 10 ^ e.toNat) := by ring
  rw [this]

/-- What is found on a grid lies in the window. -/
theorem admits_of_onGrid {p : ℕ} (h : w.onGrid tie e = some p) :
    w.Admits (4 * one * (p * 10 ^ e)) := by
  rw [← admits_point_iff]
  simp only [onGrid, Bool.and_eq_true] at h
  split at h
  · next both =>
      split at h
      · exact Option.some.inj h ▸ both.1
      · split at h
        · exact Option.some.inj h ▸ both.2
        · split at h
          · exact Option.some.inj h ▸ both.2
          · split at h
            · exact Option.some.inj h ▸ both.1
            · exact Option.some.inj h ▸ both.2
  · split at h
    · next lower => exact Option.some.inj h ▸ lower
    · split at h
      · next upper => exact Option.some.inj h ▸ upper
      · simp at h

/-- If one of the points next to the value lies in the window, one is found. -/
theorem isSome_onGrid
    (h : w.Admits (4 * one * (w.pointBelow e * 10 ^ e)) ∨
      w.Admits (4 * one * ((w.pointBelow e + 1 : ℕ) * 10 ^ e))) :
    (w.onGrid tie e).isSome = true := by
  rw [← admits_point_iff, ← admits_point_iff] at h
  by_contra none
  simp only [onGrid, Bool.and_eq_true] at none
  split at none
  · split at none
    · simp at none
    · split at none
      · simp at none
      · split at none <;> simp at none
  · split at none
    · simp at none
    · split at none
      · simp at none
      · next lower upper => exact h.elim lower upper

theorem pointBelow_spec (w : Window) (e : ℤ) :
    4 * one * (w.pointBelow e * 10 ^ e) ≤ (w.value : ℚ) ∧
      (w.value : ℚ) < 4 * one * ((w.pointBelow e + 1 : ℕ) * 10 ^ e) := by
  have unit : 0 < 4 * one * 10 ^ e.toNat :=
    Nat.mul_pos (Nat.mul_pos (by decide) one_pos) (Nat.pow_pos (by decide))
  have spread : (0 : ℚ) < (10 ^ (-e).toNat : ℕ) := by positivity
  have low : w.pointBelow e * (4 * one * 10 ^ e.toNat) ≤ w.value * 10 ^ (-e).toNat :=
    Nat.div_mul_le_self _ _
  have high : w.value * 10 ^ (-e).toNat < (w.pointBelow e + 1) * (4 * one * 10 ^ e.toNat) :=
    Nat.lt_mul_of_div_lt (Nat.lt_succ_self _) unit
  have point (p : ℕ) : 4 * one * (p * (10 : ℚ) ^ e) =
      (p * (4 * one * 10 ^ e.toNat) : ℕ) / (10 ^ (-e).toNat : ℕ) := by
    rw [ten_zpow_eq]
    push_cast
    ring
  rw [point, point, div_le_iff₀ spread, lt_div_iff₀ spread]
  exact ⟨by exact_mod_cast low, by exact_mod_cast high⟩

end Window

theorem Digits.toRat_ofPoint (point : ℕ) (e : ℤ) : (ofPoint point e).toRat = point * 10 ^ e := by
  unfold ofPoint
  split
  · next ten =>
      rw [toRat, ten, zpow_add₀ (by norm_num)]
      norm_num
      ring
  · rfl

/-- The lower end of a window. -/
theorem window_low {mantissa : ℕ} (pos : mantissa ≠ 0) (shift : ℕ) :
    ((window mantissa shift).low : ℚ) = (window mantissa shift).value -
      (if mantissa = 1 <<< 52 ∧ 0 < shift then (1 : ℚ) else 2) * (1 <<< shift : ℕ) := by
  have least : 4 * (1 <<< shift) ≤ 4 * mantissa * (1 <<< shift) := Nat.mul_le_mul_right _ (by omega)
  simp only [window]
  generalize 1 <<< shift = step at *
  split
  · rw [Nat.cast_sub (by omega), one_mul]
  · rw [Nat.cast_sub (by omega), Nat.cast_mul 2 step, Nat.cast_ofNat]

/-- Seventeen digits are always enough: their grid is so fine that the window holds one of the two
points next to the value. -/
theorem isSome_onGrid_seventeen {mantissa : ℕ} (pos : mantissa ≠ 0) (few : mantissa < 1 <<< 53)
    (shift : ℕ) (tie : Tie) :
    ((window mantissa shift).onGrid tie
      (leadingExponent (window mantissa shift).value - 16)).isSome = true := by
  have step : 1 ≤ 1 <<< shift := Nat.one_shiftLeft shift ▸ Nat.one_le_two_pow
  have value : (window mantissa shift).value = 4 * (mantissa * 1 <<< shift) := mul_assoc _ _ _
  have high : ((window mantissa shift).high : ℚ) =
      (window mantissa shift).value + (2 : ℚ) * (1 <<< shift : ℕ) := by
    rw [← Nat.cast_ofNat, ← Nat.cast_mul, ← Nat.cast_add]
    rfl
  have low := window_low pos shift
  have least : 1 * 1 ≤ mantissa * 1 <<< shift := Nat.mul_le_mul (by omega) step
  obtain ⟨leading, -⟩ := leadingExponent_spec (window mantissa shift).value (by omega)
  apply Window.isSome_onGrid
  obtain ⟨below, above⟩ := Window.pointBelow_spec (window mantissa shift)
    (leadingExponent (window mantissa shift).value - 16)
  generalize leadingExponent (window mantissa shift).value = exponent at *
  generalize (window mantissa shift).pointBelow (exponent - 16) = point at *
  -- the distance of two points of the grid
  obtain ⟨gap, spacing⟩ : ∃ gap : ℚ, gap = 4 * one * 10 ^ (exponent - 16) := ⟨_, rfl⟩
  have fine : gap * 10 ^ 16 ≤ (window mantissa shift).value := by
    have : (10 : ℚ) ^ exponent = 10 ^ (exponent - 16) * 10 ^ 16 := by
      rw [← zpow_natCast, ← zpow_add₀ (by norm_num)]
      congr 1
      omega
    rw [this] at leading
    linarith
  have next : 4 * one * ((point + 1 : ℕ) * (10 : ℚ) ^ (exponent - 16)) =
      4 * one * (point * 10 ^ (exponent - 16)) + gap := by
    rw [spacing]
    push_cast
    ring
  rw [next] at above ⊢
  generalize 4 * one * (point * (10 : ℚ) ^ (exponent - 16)) = lower at *
  have width : (0 : ℚ) < (1 <<< shift : ℕ) := by exact_mod_cast step
  rw [value, Nat.cast_mul, Nat.cast_mul, Nat.cast_ofNat] at fine
  split at low
  · -- below a power of two the window is narrow, but the value is small: take the point above
    next full =>
      have small : (mantissa : ℚ) = 2 ^ 52 := by
        rw [full.1, Nat.one_shiftLeft]
        norm_num
      rw [small] at fine
      exact .inr (Window.admits_of_lt (by linarith) (by linarith))
  · have small : (mantissa : ℚ) * (1 <<< shift : ℕ) ≤ (2 : ℚ) ^ 53 * (1 <<< shift : ℕ) := by
      refine mul_le_mul_of_nonneg_right ?_ width.le
      exact_mod_cast few.le
    by_cases near : ((window mantissa shift).low : ℚ) < lower
    · exact .inl (Window.admits_of_lt near (by linarith))
    · exact .inr (Window.admits_of_lt (by linarith) (by linarith))

/-- The shortest digits of a double lie in its window. -/
theorem admits_shortest {mantissa : ℕ} (pos : mantissa ≠ 0) (few : mantissa < 1 <<< 53) (shift : ℕ)
    (tie : Tie) :
    (window mantissa shift).Admits (4 * one * (shortest tie mantissa shift).toRat) := by
  have fallback := isSome_onGrid_seventeen pos few shift tie
  simp only [shortest]
  generalize leadingExponent (window mantissa shift).value = leading at *
  cases found : (List.range 17).findSome? fun (n : ℕ) =>
      ((window mantissa shift).onGrid tie (leading - n)).map fun point =>
        Digits.ofPoint point (leading - n) with
  | none =>
      have last := List.findSome?_eq_none_iff.1 found 16 (by decide)
      rw [Option.map_eq_none_iff, Nat.cast_ofNat] at last
      simp [last] at fallback
  | some d =>
      obtain ⟨n, -, h⟩ := List.exists_of_findSome?_eq_some found
      obtain ⟨point, onGrid, rfl⟩ := Option.map_eq_some_iff.1 h
      rw [Option.getD_some, Digits.toRat_ofPoint]
      exact Window.admits_of_onGrid onGrid

end ProvenShapes.Double
