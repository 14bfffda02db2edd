/-
**The order of numbers, read off places.**

Numbers are compared by their places: first the class (negative infinity, finite, positive infinity,
not-a-number), then the exact value in units.  So every statement about the order is one about
naturals and integers.  Integers that fit 64 bits are compared as integers; what lies beyond them is
a double that rounding never brings back below `2 ^ 63`.

Main definitions:

* `Number.Vast` — a number above every 64-bit integer.

Main results:

* `Number.compare_eq_lt_iff`, `Number.compare_eq_gt_iff`, `Number.compare_eq_eq_iff` — the order by
  places;
* `Number.compare_ofInt` — **64-bit integers are compared as integers**;
* `Number.vast_float_ofInt` — the double nearest to an integer of at least `2 ^ 63 - 1` is above
  every 64-bit integer.
-/

import Mathlib
import ProvenShapes.Number.Basic

set_option autoImplicit false

namespace ProvenShapes

namespace Number

/-! ### Comparing places -/

theorem compare_eq_lt_iff {a b : Number} :
    Ord.compare a b = .lt ↔
      a.place.1 < b.place.1 ∨ (a.place.1 = b.place.1 ∧ a.place.2 < b.place.2) := by
  rw [compare_eq_places, Ordering.then_eq_lt, Nat.compare_eq_lt, Nat.compare_eq_eq,
    Int.compare_eq_lt]

theorem compare_eq_gt_iff {a b : Number} :
    Ord.compare a b = .gt ↔
      b.place.1 < a.place.1 ∨ (a.place.1 = b.place.1 ∧ b.place.2 < a.place.2) := by
  rw [compare_eq_places, Ordering.then_eq_gt, Nat.compare_eq_gt, Nat.compare_eq_eq,
    Int.compare_eq_gt]

theorem compare_eq_eq_iff {a b : Number} :
    Ord.compare a b = .eq ↔ a.place.1 = b.place.1 ∧ a.place.2 = b.place.2 := by
  rw [compare_eq_places, Ordering.then_eq_eq, Nat.compare_eq_eq, Int.compare_eq_eq]

theorem isNaN_iff {n : Number} : n.isNaN = true ↔ n.place.1 = 3 := by
  cases n with
  | int value =>
      have finite : (int value).place.1 = 1 := rfl
      rw [finite]
      simp [isNaN]
  | float d =>
      cases d with
      | infinite negative => cases negative <;> simp [isNaN, Double.isNaN, place]
      | _ => simp [isNaN, Double.isNaN, place]

theorem isNaN_congr {x y : Number} (same : Ord.compare x y = .eq) : x.isNaN = y.isNaN := by
  rw [Bool.eq_iff_iff, isNaN_iff, isNaN_iff, (compare_eq_eq_iff.1 same).1]

theorem place_fst_le (n : Number) : n.place.1 ≤ 3 := by
  cases n with
  | int value => exact Nat.le_of_ble_eq_true rfl
  | float d =>
      cases d with
      | infinite negative => cases negative <;> decide
      | _ => exact Nat.le_of_ble_eq_true rfl

/-- Not-a-number is above all numbers. -/
theorem place_fst_lt_three {n : Number} (number : n.isNaN = false) : n.place.1 < 3 := by
  have last := n.place_fst_le
  have below : n.place.1 ≠ 3 := by
    rw [Ne, ← isNaN_iff]
    simp [number]
  omega

/-! ### 64-bit integers -/

theorem fits_iff {n : Int} :
    (Int64.minValue.toInt ≤ n ∧ n ≤ Int64.maxValue.toInt) ↔ (-2 ^ 63 ≤ n ∧ n < 2 ^ 63) := by
  have least : Int64.minValue.toInt = -2 ^ 63 := by decide
  have greatest : Int64.maxValue.toInt = 2 ^ 63 - 1 := by decide
  omega

theorem ofInt_of_fits {n : Int} (low : -2 ^ 63 ≤ n) (high : n < 2 ^ 63) :
    ofInt n = .int (Int64.ofInt n) := by
  rw [ofInt, if_pos (fits_iff.2 ⟨low, high⟩)]

theorem place_ofInt {n : Int} (low : -2 ^ 63 ≤ n) (high : n < 2 ^ 63) :
    (ofInt n).place = (1, n * Double.one) := by
  rw [ofInt_of_fits low high]
  simp only [place, Int64.toInt_ofInt_of_le low high]

/-- 64-bit integers are compared as integers. -/
theorem compare_ofInt {m n : Int} (hm : -2 ^ 63 ≤ m ∧ m < 2 ^ 63) (hn : -2 ^ 63 ≤ n ∧ n < 2 ^ 63) :
    Ord.compare (ofInt m) (ofInt n) = Ord.compare m n := by
  rw [compare_eq_places, place_ofInt hm.1 hm.2, place_ofInt hn.1 hn.2, compare_mul_one]
  rfl

/-! ### Beyond the 64-bit integers -/

/-- The number is at least `2 ^ 63`, and it may be infinite. -/
def Vast (n : Number) : Prop :=
  n.place.1 = 2 ∨ (n.place.1 = 1 ∧ 2 ^ 63 * (Double.one : Int) ≤ n.place.2)

theorem compare_ofInt_vast {m : Int} {n : Number} (hm : -2 ^ 63 ≤ m ∧ m < 2 ^ 63) (hn : n.Vast) :
    Ord.compare (ofInt m) n = .lt := by
  rw [compare_eq_lt_iff, place_ofInt hm.1 hm.2]
  have scaled := Int.mul_lt_mul_of_pos_right hm.2 Double.one_pos_int
  rcases hn with infinite | ⟨finite, large⟩
  · exact .inl (by simp [infinite])
  · exact .inr ⟨finite.symm, Int.lt_of_lt_of_le scaled large⟩

theorem vast_ofParts {mantissa shift : Nat} (h : 2 ^ 63 * Double.one ≤ mantissa <<< shift) :
    Vast (.float (Double.ofParts false mantissa shift)) := by
  unfold Double.ofParts
  split
  · refine .inr ⟨rfl, ?_⟩
    simp only [place, Double.units, Option.getD_some]
    have scaled := Int.ofNat_le.2 h
    rwa [Int.natCast_mul, Int.natCast_pow] at scaled
  · exact .inl rfl

/-- Rounding does not lead below a power of two. -/
theorem ofRatio_of_two_pow_le {n k : Nat} (wide : 52 ≤ k) (h : 2 ^ k ≤ n) :
    ∃ mantissa shift, Double.ofRatio false n 1 = Double.ofParts false mantissa shift ∧
      2 ^ k ≤ mantissa <<< shift := by
  have pos : n ≠ 0 := Nat.ne_of_gt (Nat.lt_of_lt_of_le (Nat.two_pow_pos k) h)
  have log : k ≤ n.log2 := (Nat.le_log2 pos).2 h
  have top : 2 ^ k ≤ 2 ^ 52 * 2 ^ (n.log2 - 52) := by
    rw [← Nat.pow_add]
    exact Nat.pow_le_pow_right (by decide) (by omega)
  -- the quotient by the shift keeps 53 bits, and rounding only adds to it
  have bits : 2 ^ 52 ≤ n / 2 ^ (n.log2 - 52) := by
    simpa only [Nat.one_shiftLeft] using Double.le_div_shift (n := n) (by omega)
  have rounded := Nat.le_trans bits (Double.div_le_roundDiv n (2 ^ (n.log2 - 52)))
  simp only [Double.ofRatio, Nat.div_one, Nat.one_shiftLeft]
  split
  · refine ⟨_, _, rfl, ?_⟩
    rw [Nat.shiftLeft_eq]
    exact Nat.le_trans top (Nat.mul_le_mul_left _ (Nat.pow_le_pow_right (by decide) (Nat.le_succ _)))
  · refine ⟨_, _, rfl, ?_⟩
    rw [Nat.shiftLeft_eq]
    exact Nat.le_trans top (Nat.mul_le_mul_right _ rounded)

theorem two_pow_mul_shiftLeft (k e : Nat) : 2 ^ k * (1 <<< e) = 2 ^ (k + e) := by
  rw [Nat.one_shiftLeft, Nat.pow_add]

/-- A ratio of at least `2 ^ 63` is rounded to a double that is no less. -/
theorem vast_ofRatio {n : Nat} (h : 2 ^ 63 * Double.one ≤ n) :
    Vast (.float (Double.ofRatio false n 1)) := by
  have units : 2 ^ 63 * Double.one = 2 ^ (63 + 1074) := two_pow_mul_shiftLeft 63 1074
  rw [units] at h
  obtain ⟨mantissa, shift, parts, large⟩ := ofRatio_of_two_pow_le (by omega) h
  rw [← units] at large
  rw [parts]
  exact vast_ofParts large

/-- The double nearest to an integer of at least `2 ^ 63 - 1` is above every 64-bit integer. -/
theorem vast_float_ofInt {n : Int} (h : 2 ^ 63 - 1 ≤ n) : Vast (.float (.ofInt n)) := by
  have sign : decide (n < 0) = false := by simp; omega
  unfold Double.ofInt
  rw [sign]
  rcases Int.lt_or_eq_of_le h with lt | rfl
  · refine vast_ofRatio ?_
    have : 2 ^ 63 ≤ n.natAbs := by omega
    exact Nat.mul_le_mul_right Double.one this
  · -- `2 ^ 63 - 1` itself is rounded up
    exact .inr (by decide +kernel)

end Number

end ProvenShapes
