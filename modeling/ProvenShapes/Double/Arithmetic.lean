/-
**Comparing doubles and computing with them.**

A double is compared by its exact value.  Cutting off its fraction and taking a difference, a product
or a quotient give doubles again, so each ends with a rounding.  Rounding leaves alone what a double
can hold, and never turns a whole number of units that is not zero into zero.  Every double is a whole
number of units, so its fraction is cut off exactly, and a difference has the sign of the exact one.

Main definitions:

* `Double.compare?`, `Double.lt`, `Double.le` — the order by value, which leaves out not-a-number;
* `Double.trunc` — the double without its fraction;
* `Double.sub`, `Double.mul`, `Double.div` — difference, product and quotient of two doubles;
* `Double.toInt64` — the 64-bit integer of a double.

Main results:

* `Double.units_ofRatio` — **what has at most 53 bits before its zeros is not rounded**;
* `Double.units_trunc` — cutting off the fraction is exact;
* `Double.compare?_zero_ofUnits` — **rounding keeps the sign**.
-/

import ProvenShapes.Double.Basic

set_option autoImplicit false

namespace ProvenShapes.Double

/-- The double nearest to a whole number of units. -/
def ofUnits (u : Int) : Double := ofRatio (u < 0) u.natAbs 1

/-- The order of doubles by value; not-a-number compares to nothing. -/
def compare? : Double → Double → Option Ordering
  | nan, _ => none
  | _, nan => none
  | infinite x, infinite y => some (Ord.compare y x)
  | infinite x, finite .. => some (if x then .lt else .gt)
  | finite .., infinite y => some (if y then .gt else .lt)
  | finite x m s h, finite y n t k =>
      some (Ord.compare ((finite x m s h).units.getD 0) ((finite y n t k).units.getD 0))

/-- The first double is less than the second. -/
def lt (a b : Double) : Bool := a.compare? b == some .lt

/-- The first double is less than the second or equal to it. -/
def le (a b : Double) : Bool := a.compare? b == some .lt || a.compare? b == some .eq

/-- The double without its fraction. -/
def trunc : Double → Double
  | finite negative mantissa shift _ => ofRatio negative (mantissa <<< shift / one * one) 1
  | other => other

/-- The difference of two doubles; that of two infinities of one sign is not a number. -/
def sub : Double → Double → Double
  | nan, _ => nan
  | _, nan => nan
  | infinite x, infinite y => if x = y then nan else infinite x
  | infinite x, finite .. => infinite x
  | finite .., infinite y => infinite (!y)
  | finite x m s h, finite y n t k =>
      ofUnits ((finite x m s h).units.getD 0 - (finite y n t k).units.getD 0)

/-- The double with the other sign. -/
def neg : Double → Double
  | finite negative mantissa shift h => finite (!negative) mantissa shift h
  | infinite negative => infinite (!negative)
  | nan => nan

/-- The product of two doubles; that of an infinity and zero is not a number. -/
def mul : Double → Double → Double
  | nan, _ => nan
  | _, nan => nan
  | infinite x, infinite y => infinite (x != y)
  | infinite x, finite y n _ _ => if n = 0 then nan else infinite (x != y)
  | finite x m _ _, infinite y => if m = 0 then nan else infinite (x != y)
  | finite x m s _, finite y n t _ => ofRatio (x != y) (m <<< s * n <<< t) one

/-- The quotient of two doubles; that of two infinities or two zeros is not a number. -/
def div : Double → Double → Double
  | nan, _ => nan
  | _, nan => nan
  | infinite _, infinite _ => nan
  | infinite x, finite y _ _ _ => infinite (x != y)
  | finite x _ _ _, infinite y => zero (x != y)
  | finite x m s _, finite y n t _ =>
      if n = 0 then if m = 0 then nan else infinite (x != y)
      else ofRatio (x != y) (m <<< s * one) (n <<< t)

/-- The 64-bit integer of a double, without its fraction.  What lies beyond the 64-bit integers
becomes the nearest of them, and not-a-number becomes zero. -/
def toInt64 (d : Double) : Int64 :=
  match d.units with
  | some u => Int64.ofInt (max Int64.minValue.toInt (min (u.tdiv one) Int64.maxValue.toInt))
  | none =>
      match d with
      | infinite true => Int64.minValue
      | infinite false => Int64.maxValue
      | _ => 0

theorem one_pos : 0 < one := by
  rw [one, Nat.one_shiftLeft]
  exact Nat.two_pow_pos 1074

theorem one_pos_int : (0 : Int) < one := Int.natCast_pos.2 one_pos

/-! ### Finite doubles by their units -/

section Units

variable {a b : Double} {u v t : Int}

theorem compare?_of_units (ha : a.units = some u) (hb : b.units = some v) :
    a.compare? b = some (Ord.compare u v) := by
  cases a with
  | finite =>
      cases b with
      | finite => simp only [compare?, ha, hb, Option.getD_some]
      | infinite | nan => simp [units] at hb
  | infinite | nan => simp [units] at ha

theorem lt_iff_of_units (ha : a.units = some u) (hb : b.units = some v) :
    a.lt b = true ↔ u < v := by
  simp [lt, compare?_of_units ha hb, Int.compare_eq_lt]

theorem le_iff_of_units (ha : a.units = some u) (hb : b.units = some v) :
    a.le b = true ↔ u ≤ v := by
  simp only [le, compare?_of_units ha hb, Option.some_beq_some, Bool.or_eq_true, beq_iff_eq,
    Int.compare_eq_lt, Int.compare_eq_eq]
  omega

theorem le_infinite_of_units (h : a.units = some u) {negative : Bool} :
    a.le (infinite negative) = !negative := by
  cases a with
  | finite => cases negative <;> rfl
  | infinite | nan => simp [units] at h

theorem infinite_lt_of_units (h : a.units = some u) {negative : Bool} :
    (infinite negative).lt a = negative := by
  cases a with
  | finite => cases negative <;> rfl
  | infinite | nan => simp [units] at h

theorem sub_of_units (ha : a.units = some u) (hb : b.units = some v) :
    a.sub b = ofUnits (u - v) := by
  cases a with
  | finite =>
      cases b with
      | finite => simp only [sub, ha, hb, Option.getD_some]
      | infinite | nan => simp [units] at hb
  | infinite | nan => simp [units] at ha

theorem isNaN_of_units (h : a.units = some u) : a.isNaN = false := by
  cases a with
  | nan => simp [units] at h
  | finite | infinite => rfl

theorem toInt_toInt64 (h : a.units = some (t * one)) (low : Int64.minValue.toInt ≤ t)
    (high : t ≤ Int64.maxValue.toInt) : a.toInt64.toInt = t := by
  have least : Int64.minValue.toInt = -2 ^ 63 := by decide
  have greatest : Int64.maxValue.toInt = 2 ^ 63 - 1 := by decide
  have clamped : max Int64.minValue.toInt (min t Int64.maxValue.toInt) = t := by omega
  simp only [toInt64, h, Int.mul_tdiv_cancel _ (Int.ne_of_gt one_pos_int), clamped]
  exact Int64.toInt_ofInt_of_le (by omega) (by omega)

end Units

/-! ### Values that are not rounded -/

/-- A rounded quotient is no less than the quotient. -/
theorem div_le_roundDiv (n d : Nat) : n / d ≤ roundDiv n d := by
  simp only [roundDiv]
  repeat' split
  all_goals omega

/-- A quotient without a remainder is not rounded. -/
theorem roundDiv_of_dvd {n d : Nat} (pos : 0 < d) (h : d ∣ n) : roundDiv n d = n / d := by
  simp [roundDiv, Nat.mod_eq_zero_of_dvd h, pos]

theorem units_ofParts {negative : Bool} {mantissa shift : Nat} (h : Canonical mantissa shift) :
    (ofParts negative mantissa shift).units =
      some (if negative then -((mantissa <<< shift : Nat) : Int) else (mantissa <<< shift : Nat)) := by
  rw [ofParts, dif_pos h, units]

/-- The part of a value before its shift has at most 53 bits. -/
theorem div_shift_lt (n : Nat) : n / 1 <<< (n.log2 - 52) < 1 <<< 53 := by
  rw [Nat.one_shiftLeft, Nat.one_shiftLeft, Nat.div_lt_iff_lt_mul (Nat.two_pow_pos _), ← Nat.pow_add]
  have wide : 2 ^ (n.log2 + 1) ≤ 2 ^ (53 + (n.log2 - 52)) :=
    Nat.pow_le_pow_right (by decide) (by omega)
  exact Nat.lt_of_lt_of_le Nat.lt_log2_self wide

/-- It has all 53 of them where there is a shift. -/
theorem le_div_shift {n : Nat} (h : 52 ≤ n.log2) : 1 <<< 52 ≤ n / 1 <<< (n.log2 - 52) := by
  have pos : n ≠ 0 := by
    rintro rfl
    simp at h
  have split : 52 + (n.log2 - 52) = n.log2 := by omega
  rw [Nat.one_shiftLeft, Nat.one_shiftLeft, Nat.le_div_iff_mul_le (Nat.two_pow_pos _), ← Nat.pow_add,
    split]
  exact Nat.log2_self_le pos

/-- A value that loses nothing by the shift is not rounded. -/
theorem units_ofRatio_of_dvd {negative : Bool} {n : Nat} (range : n.log2 - 52 ≤ 2045)
    (whole : 1 <<< (n.log2 - 52) ∣ n) :
    (ofRatio negative n 1).units = some (if negative then -(n : Int) else n) := by
  have few := div_shift_lt n
  have canonical : Canonical (n / 1 <<< (n.log2 - 52)) (n.log2 - 52) := by
    refine ⟨few, range, ?_⟩
    rcases Nat.lt_or_ge n.log2 52 with small | large
    · exact .inr (by omega)
    · exact .inl (le_div_shift large)
  have positive : 0 < 1 <<< (n.log2 - 52) := Nat.one_shiftLeft _ ▸ Nat.two_pow_pos _
  have back : (n / 1 <<< (n.log2 - 52)) <<< (n.log2 - 52) = n := by
    rw [Nat.shiftLeft_eq, ← Nat.one_shiftLeft, Nat.div_mul_cancel whole]
  simp only [ofRatio, Nat.div_one, roundDiv_of_dvd positive whole]
  rw [if_neg (Nat.ne_of_lt few), units_ofParts canonical, back]

/-- A value with at most 53 bits before its zeros is not rounded. -/
theorem units_ofRatio {negative : Bool} {m s : Nat} (bits : m < 1 <<< 53) (range : s ≤ 2045) :
    (ofRatio negative (m <<< s) 1).units =
      some (if negative then -((m <<< s : Nat) : Int) else (m <<< s : Nat)) := by
  have less : (m <<< s).log2 - 52 ≤ s := by
    by_cases zero : m <<< s = 0
    · simp [zero]
    · have below : m <<< s < 2 ^ (53 + s) := by
        rw [Nat.shiftLeft_eq, Nat.pow_add]
        exact Nat.mul_lt_mul_of_pos_right (Nat.one_shiftLeft 53 ▸ bits) (Nat.two_pow_pos s)
      have := (Nat.log2_lt zero).2 below
      omega
  refine units_ofRatio_of_dvd (by omega) ?_
  rw [Nat.one_shiftLeft, Nat.shiftLeft_eq m s]
  exact Nat.dvd_trans (Nat.pow_dvd_pow 2 (Nat.shiftLeft_eq m s ▸ less)) (Nat.dvd_mul_left _ _)

/-! ### The fraction -/

/-- Without its fraction a double still has at most 53 bits before its zeros. -/
theorem exists_cut {mantissa shift : Nat} (h : Canonical mantissa shift) :
    ∃ m s, m < 1 <<< 53 ∧ s ≤ 2045 ∧ mantissa <<< shift / one * one = m <<< s := by
  have unit : one = 2 ^ 1074 := Nat.one_shiftLeft 1074
  rcases Nat.lt_or_ge shift 1074 with small | large
  · -- some of the bits stand for fractions
    refine ⟨mantissa / 2 ^ (1074 - shift), 1074, ?_, by decide, ?_⟩
    · exact Nat.lt_of_le_of_lt (Nat.div_le_self _ _) h.1
    · have split : 1074 = (1074 - shift) + shift := by omega
      have both : 2 ^ 1074 = 2 ^ (1074 - shift) * 2 ^ shift := by rw [← Nat.pow_add, ← split]
      rw [unit, Nat.shiftLeft_eq, Nat.shiftLeft_eq]
      generalize 2 ^ 1074 = whole at both ⊢
      rw [both, Nat.mul_div_mul_right _ _ (Nat.two_pow_pos shift)]
  · refine ⟨mantissa, shift, h.1, h.2.1, Nat.div_mul_cancel ?_⟩
    rw [unit, Nat.shiftLeft_eq]
    exact Nat.dvd_mul_left_of_dvd (Nat.pow_dvd_pow 2 large) mantissa

/-- The fraction of a double is cut off exactly. -/
theorem units_trunc {d : Double} {u : Int} (h : d.units = some u) :
    d.trunc.units = some (u.tdiv one * one) := by
  cases d with
  | finite negative mantissa shift canonical =>
      obtain ⟨m, s, few, near, same⟩ := exists_cut canonical
      have cast : ((mantissa <<< shift / one * one : Nat) : Int) =
          ((mantissa <<< shift : Nat) : Int).tdiv one * one := by
        rw [Int.natCast_mul, Int.ofNat_tdiv]
      obtain rfl := Option.some.inj h
      rw [trunc, same, units_ofRatio few near, ← same]
      cases negative with
      | false => exact congrArg some cast
      | true =>
          rw [if_pos rfl, cast, ← Int.neg_mul, ← Int.neg_tdiv]
          rfl
  | infinite | nan => simp [units] at h

/-- What is cut off is less than one, and it has the sign of the whole. -/
theorem exists_fraction (u : Int) :
    ∃ r, u = u.tdiv one * one + r ∧ -(one : Int) < r ∧ r < one ∧ (0 ≤ u → 0 ≤ r) ∧
      (u ≤ 0 → r ≤ 0) := by
  refine ⟨u.tmod one, ?_, Int.lt_tmod_of_pos u one_pos_int, Int.tmod_lt_of_pos u one_pos_int,
    Int.tmod_nonneg _, ?_⟩
  · rw [Int.mul_comm]
    exact (Int.mul_tdiv_add_tmod u one).symm
  · intro nonpos
    have mirrored := Int.tmod_nonneg (a := -u) (one : Int) (by omega)
    rw [Int.neg_tmod] at mirrored
    omega

/-! ### The sign of a rounded value -/

theorem compare?_zero_ofParts {negative : Bool} {mantissa shift : Nat} (pos : mantissa ≠ 0) :
    (zero false).compare? (ofParts negative mantissa shift) =
      some (if negative then .gt else .lt) := by
  have size : (0 : Int) < (mantissa <<< shift : Nat) := by
    rw [Nat.shiftLeft_eq]
    exact Int.natCast_pos.2 (Nat.mul_pos (Nat.pos_of_ne_zero pos) (Nat.two_pow_pos shift))
  unfold ofParts
  split
  · cases negative with
    | false => exact congrArg some (Int.compare_eq_lt.2 size)
    | true => exact congrArg some (Int.compare_eq_gt.2 (Int.neg_neg_of_pos size))
  · rfl

/-- A value that is not zero is not rounded to zero. -/
theorem compare?_zero_ofRatio {negative : Bool} {n : Nat} (pos : n ≠ 0) :
    (zero false).compare? (ofRatio negative n 1) = some (if negative then .gt else .lt) := by
  have shorter : 2 ^ (n.log2 - 52) ≤ n :=
    Nat.le_trans (Nat.pow_le_pow_right (by decide) (by omega)) (Nat.log2_self_le pos)
  have quotient : 0 < n / 2 ^ (n.log2 - 52) := Nat.div_pos shorter (Nat.two_pow_pos _)
  have kept := div_le_roundDiv n (2 ^ (n.log2 - 52))
  simp only [ofRatio, Nat.div_one, Nat.one_shiftLeft]
  split
  · exact compare?_zero_ofParts (by decide)
  · exact compare?_zero_ofParts (by omega)

/-- A rounded number of units has the sign of the number. -/
theorem compare?_zero_ofUnits (u : Int) :
    (zero false).compare? (ofUnits u) = some (Ord.compare 0 u) := by
  rcases Int.lt_trichotomy u 0 with negative | rfl | positive
  · rw [ofUnits, compare?_zero_ofRatio (by omega), Int.compare_eq_gt.2 negative]
    simp [negative]
  · rfl
  · rw [ofUnits, compare?_zero_ofRatio (by omega), Int.compare_eq_lt.2 positive]
    simp [Int.not_lt.2 (Int.le_of_lt positive)]

end ProvenShapes.Double
