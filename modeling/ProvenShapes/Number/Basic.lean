/-
**Numbers: 64-bit integers and doubles under one exact order.**

A number is written either as a 64-bit integer or as a double, and numbers are compared by exact
value across the two.  An integer meets a double without being rounded to one: doubles beyond the
64-bit integers decide by their side, and all others are compared by their whole part first and by
their fraction then.

Every finite number is a whole number of units of `2 ^ -1074`, so the order is the order of integers,
extended by the infinities and by not-a-number, which stands above everything and equals itself.

Main definitions:

* `Number` — a 64-bit integer or a double;
* `Number.compareInt` — an integer compared to a double;
* `Number.compare` — **the exact order**, with the instance `Ord Number`;
* `Number.place` — the place of a number in the order;
* `Number.toInt?` — the integer a number is, if it is one that doubles represent exactly;
* `Number.ofNat`, `Number.ofDouble` — the numbers of a natural and of a double.

Main results:

* `Number.compareInt_of_units` — an integer is compared to a finite double by exact value;
* `Number.compare_eq_places` — **numbers are compared by their places**.
-/

import ProvenShapes.Double.Arithmetic

set_option autoImplicit false

namespace ProvenShapes

/-- A 64-bit integer or a double. -/
inductive Number where
  | int (value : Int64)
  | float (value : Double)
deriving DecidableEq

namespace Number

instance : Inhabited Number := ⟨.int 0⟩

/-! ### Construction -/

/-- The number of a double; the negative zero is not told apart from zero. -/
def ofDouble (d : Double) : Number := .float (if d.isZero then .zero false else d)

/-- The number of an integer: itself where it fits 64 bits, otherwise the nearest double. -/
def ofInt (n : Int) : Number :=
  if Int64.minValue.toInt ≤ n ∧ n ≤ Int64.maxValue.toInt then .int (Int64.ofInt n)
  else ofDouble (.ofInt n)

/-- The number of a natural. -/
def ofNat (n : Nat) : Number := ofInt n

/-! ### Classification -/

/-- The double nearest to a number. -/
def toDouble : Number → Double
  | .int n => .ofInt n.toInt
  | .float d => d

/-- The integer a number is.  A double counts as an integer up to `2 ^ 53`, the magnitude to which
doubles represent every integer. -/
def toInt? : Number → Option Int
  | .int n => some n.toInt
  | .float d =>
      match d.units with
      | some u =>
          if u % Double.one = 0 ∧ u.natAbs ≤ Double.one <<< 53 then some (u / Double.one) else none
      | none => none

/-- The natural a number is, in the sense of `toInt?`. -/
def toNat? (n : Number) : Option Nat :=
  match n.toInt? with
  | some i => if 0 ≤ i then some i.toNat else none
  | none => none

/-- The number is an integer, in the sense of `toInt?`. -/
def isInteger (n : Number) : Bool := n.toInt?.isSome

/-- Not a number. -/
def isNaN : Number → Bool
  | .int _ => false
  | .float d => d.isNaN

/-- Neither an infinity nor not-a-number. -/
def isFinite : Number → Bool
  | .int _ => true
  | .float d => d.isFinite

/-! ### The order -/

/-- An integer compared to a double.  Doubles beyond the 64-bit integers decide alone; the others are
compared by their whole part, and where that is the integer, by what is left of them. -/
def compareInt (n : Int64) (d : Double) : Ordering :=
  if d.isNaN then .lt
  else if Double.le (.ofInt 9223372036854775808) d then .lt
  else if d.lt (.ofInt (-9223372036854775808)) then .gt
  else
    match Ord.compare n d.trunc.toInt64 with
    | .eq => ((Double.zero false).compare? (d.sub d.trunc)).getD .eq
    | order => order

/-- Two doubles compared; not-a-number stands above all others and equals itself. -/
def compareDoubles (a b : Double) : Ordering :=
  match a.isNaN, b.isNaN with
  | true, true => .eq
  | true, false => .gt
  | false, true => .lt
  | false, false => (a.compare? b).getD .eq

/-- The exact order of numbers. -/
def compare : Number → Number → Ordering
  | .int m, .int n => Ord.compare m n
  | .int m, .float d => compareInt m d
  | .float d, .int n => (compareInt n d).swap
  | .float a, .float b => compareDoubles a b

instance : Ord Number := ⟨Number.compare⟩

/-- Numbers are equal when neither is before the other. -/
instance : BEq Number := ⟨fun a b => Number.compare a b == .eq⟩

/-! ### Places -/

/-- The place of a number in the order: negative infinity, the finite values in units, positive
infinity, not-a-number. -/
def place : Number → Nat × Int
  | .int n => (1, n.toInt * Double.one)
  | .float (.finite negative mantissa shift h) =>
      (1, ((Double.finite negative mantissa shift h).units).getD 0)
  | .float (.infinite negative) => (if negative then 0 else 2, 0)
  | .float .nan => (3, 0)

theorem compare_int64 (m n : Int64) : Ord.compare m n = Ord.compare m.toInt n.toInt := by
  change compareOfLessAndEq m n = compareOfLessAndEq m.toInt n.toInt
  simp only [compareOfLessAndEq, Int64.lt_iff_toInt_lt, Int64.toInt_inj]

theorem compare_mul_one (m n : Int) :
    Ord.compare (m * Double.one) (n * Double.one) = Ord.compare m n := by
  rcases Int.lt_trichotomy m n with lt | rfl | gt
  · have scaled := Int.mul_lt_mul_of_pos_right lt Double.one_pos_int
    rw [Int.compare_eq_lt.2 lt, Int.compare_eq_lt.2 scaled]
  · rw [Int.compare_eq_eq.2 rfl, Int.compare_eq_eq.2 rfl]
  · have scaled := Int.mul_lt_mul_of_pos_right gt Double.one_pos_int
    rw [Int.compare_eq_gt.2 gt, Int.compare_eq_gt.2 scaled]

/-- A whole number is compared to a whole number with a fraction by the whole parts first. -/
theorem compare_whole_fraction {n t r : Int} (more : -(Double.one : Int) < r)
    (less : r < Double.one) :
    Ord.compare (n * Double.one) (t * Double.one + r) =
      match Ord.compare n t with
      | .eq => Ord.compare 0 r
      | order => order := by
  have step : ∀ {a b : Int}, a < b → a * Double.one + Double.one ≤ b * Double.one := by
    intro a b lt
    have scaled :=
      Int.mul_le_mul_of_nonneg_right (Int.add_one_le_of_lt lt) (Int.le_of_lt Double.one_pos_int)
    rwa [Int.add_mul, Int.one_mul] at scaled
  rcases Int.lt_trichotomy n t with lt | rfl | gt
  · have apart := step lt
    rw [Int.compare_eq_lt.2 lt]
    exact Int.compare_eq_lt.2 (by omega)
  · rw [Int.compare_eq_eq.2 rfl]
    rcases Int.lt_trichotomy 0 r with positive | rfl | negative
    · rw [Int.compare_eq_lt.2 positive]
      exact Int.compare_eq_lt.2 (by omega)
    · exact Int.compare_eq_eq.2 (by omega)
    · rw [Int.compare_eq_gt.2 negative]
      exact Int.compare_eq_gt.2 (by omega)
  · have apart := step gt
    rw [Int.compare_eq_gt.2 gt]
    exact Int.compare_eq_gt.2 (by omega)

theorem units_word :
    (Double.ofInt 9223372036854775808).units = some (9223372036854775808 * (Double.one : Int)) := by
  decide +kernel

theorem units_neg_word :
    (Double.ofInt (-9223372036854775808)).units =
      some (-9223372036854775808 * (Double.one : Int)) := by
  decide +kernel

/-- The whole part of a double between the limits fits 64 bits. -/
theorem whole_fits {u : Int} (low : -9223372036854775808 * Double.one ≤ u)
    (high : u < 9223372036854775808 * Double.one) :
    Int64.minValue.toInt ≤ u.tdiv Double.one ∧ u.tdiv Double.one ≤ Int64.maxValue.toInt := by
  have least : Int64.minValue.toInt = -9223372036854775808 := by decide
  have greatest : Int64.maxValue.toInt = 9223372036854775807 := by decide
  rw [least, greatest]
  obtain ⟨r, parts, more, less, nonneg, nonpos⟩ := Double.exists_fraction u
  generalize u.tdiv Double.one = t at parts
  have pos := Double.one_pos_int
  constructor
  · refine Int.not_lt.1 fun small => ?_
    have scaled := Int.mul_le_mul_of_nonneg_right (Int.add_one_le_of_lt small) (Int.le_of_lt pos)
    rw [Int.add_mul, Int.one_mul] at scaled
    omega
  · refine Int.not_lt.1 fun large => ?_
    have scaled := Int.mul_le_mul_of_nonneg_right (Int.add_one_le_of_lt large) (Int.le_of_lt pos)
    omega

/-- An integer is compared to a finite double by exact value. -/
theorem compareInt_of_units {n : Int64} {d : Double} {u : Int} (h : d.units = some u) :
    compareInt n d = Ord.compare (n.toInt * Double.one) u := by
  have least : -9223372036854775808 * Double.one ≤ n.toInt * Double.one :=
    Int.mul_le_mul_of_nonneg_right n.le_toInt (Int.le_of_lt Double.one_pos_int)
  have greatest : n.toInt * Double.one < 9223372036854775808 * Double.one :=
    Int.mul_lt_mul_of_pos_right n.toInt_lt Double.one_pos_int
  unfold compareInt
  rw [if_neg (by simp [Double.isNaN_of_units h])]
  split
  · next beyond =>
      rw [Double.le_iff_of_units units_word h] at beyond
      exact (Int.compare_eq_lt.2 (Int.lt_of_lt_of_le greatest beyond)).symm
  · next below =>
      rw [Double.le_iff_of_units units_word h, Int.not_le] at below
      split
      · next beyond =>
          rw [Double.lt_iff_of_units h units_neg_word] at beyond
          exact (Int.compare_eq_gt.2 (Int.lt_of_lt_of_le beyond least)).symm
      · next above =>
          rw [Double.lt_iff_of_units h units_neg_word, Int.not_lt] at above
          have units := Double.units_trunc h
          obtain ⟨low, high⟩ := whole_fits above below
          obtain ⟨r, parts, more, less, -⟩ := Double.exists_fraction u
          generalize u.tdiv Double.one = t at units low high parts
          have rest : u - t * Double.one = r := by omega
          rw [compare_int64, Double.toInt_toInt64 units low high, Double.sub_of_units h units,
            Double.compare?_zero_ofUnits, Option.getD_some, rest, parts]
          exact (compare_whole_fraction more less).symm

theorem compareInt_eq_places (n : Int64) (d : Double) :
    compareInt n d =
      (Ord.compare (int n).place.1 (float d).place.1).then
        (Ord.compare (int n).place.2 (float d).place.2) := by
  cases d with
  | finite => exact compareInt_of_units rfl
  | infinite negative =>
      simp only [compareInt, Double.isNaN, Double.le_infinite_of_units units_word,
        Double.infinite_lt_of_units units_neg_word]
      cases negative <;> rfl
  | nan => rfl

/-- Numbers are compared by their places. -/
theorem compare_eq_places (a b : Number) :
    Ord.compare a b =
      (Ord.compare a.place.1 b.place.1).then (Ord.compare a.place.2 b.place.2) := by
  cases a with
  | int m =>
      cases b with
      | int n => exact (compare_int64 m n).trans (compare_mul_one m.toInt n.toInt).symm
      | float d => exact compareInt_eq_places m d
  | float d =>
      cases b with
      | int n =>
          change (compareInt n d).swap = _
          rw [compareInt_eq_places, Ordering.swap_then, Nat.compare_swap, Int.compare_swap]
      | float e =>
          cases d with
          | finite =>
              cases e with
              | infinite negative => cases negative <;> rfl
              | finite | nan => rfl
          | infinite negative =>
              cases e with
              | infinite other => cases negative <;> cases other <;> rfl
              | finite | nan => cases negative <;> rfl
          | nan =>
              cases e with
              | infinite negative => cases negative <;> rfl
              | finite | nan => rfl

instance : Std.TransOrd Number := by
  have places : (Ord.compare : Number → Number → Ordering) =
      compareLex (compareOn fun n => n.place.1) (compareOn fun n => n.place.2) :=
    funext fun a => funext fun b => compare_eq_places a b
  unfold Std.TransOrd
  rw [places]
  infer_instance

end Number

end ProvenShapes
