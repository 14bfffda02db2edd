/-
**Double-precision numbers as exact data.**

A finite double is a whole number of *units*, where one unit is `2 ^ -1074`: it is
`± mantissa * 2 ^ shift` units for a mantissa of at most 53 bits.  Keeping the mantissa and the shift
instead of an opaque machine word makes every comparison and every rounding a statement about
integers.

Main definitions:

* `Double.Canonical` — the pairs of mantissa and shift that a finite double has;
* `Double` — a signed canonical pair, an infinity, or not-a-number;
* `Double.units` — the exact value of a finite double, counted in units;
* `Double.roundDiv` — a quotient rounded to the nearest whole number, a half going to the even one;
* `Double.ofRatio` — the double nearest to a ratio of units, the even mantissa winning a tie;
* `Double.ofDecimal` — the double nearest to `digits * 10 ^ exponent`;
* `Double.bits` — the 64-bit interchange word.
-/

set_option autoImplicit false

namespace ProvenShapes

/-- The mantissa has at most 53 bits, and it has exactly 53 unless the shift is the least one. -/
def Double.Canonical (mantissa shift : Nat) : Prop :=
  mantissa < 1 <<< 53 ∧ shift ≤ 2045 ∧ (1 <<< 52 ≤ mantissa ∨ shift = 0)

instance (mantissa shift : Nat) : Decidable (Double.Canonical mantissa shift) :=
  inferInstanceAs (Decidable (_ ∧ _ ∧ (_ ∨ _)))

/-- A double-precision number: finite with its exact value, infinite, or not-a-number. -/
inductive Double where
  | finite (negative : Bool) (mantissa shift : Nat) (canonical : Double.Canonical mantissa shift)
  | infinite (negative : Bool)
  | nan
deriving DecidableEq

namespace Double

/-- How many units make one. -/
def one : Nat := 1 <<< 1074

/-- The double zero with the given sign. -/
def zero (negative : Bool) : Double :=
  .finite negative 0 0 ⟨by decide, by decide, .inr rfl⟩

instance : Inhabited Double := ⟨zero false⟩

/-- The exact value of a finite double in units; there is none for the others. -/
def units : Double → Option Int
  | .finite negative mantissa shift _ =>
      let size : Int := (mantissa <<< shift : Nat)
      some (if negative then -size else size)
  | _ => none

/-- Neither an infinity nor not-a-number. -/
def isFinite : Double → Bool
  | .finite .. => true
  | _ => false

/-- Not a number. -/
def isNaN : Double → Bool
  | .nan => true
  | _ => false

/-- A zero of either sign. -/
def isZero : Double → Bool
  | .finite _ mantissa _ _ => mantissa == 0
  | _ => false

/-! ### Rounding -/

/-- The quotient `n / d` rounded to the nearest whole number; a half goes to the even one. -/
def roundDiv (n d : Nat) : Nat :=
  let quotient := n / d
  let twice := 2 * (n % d)
  if twice < d then quotient
  else if d < twice then quotient + 1
  else if quotient % 2 = 0 then quotient
  else quotient + 1

/-- The double of a mantissa and a shift, and an infinity where no finite double has them. -/
def ofParts (negative : Bool) (mantissa shift : Nat) : Double :=
  if h : Canonical mantissa shift then .finite negative mantissa shift h else .infinite negative

/-- The double nearest to `n / d` units.  The shift is the least one that leaves 53 bits before
the point; rounding up to `2 ^ 53` moves one bit into the shift. -/
def ofRatio (negative : Bool) (n d : Nat) : Double :=
  let shift := (n / d).log2 - 52
  let mantissa := roundDiv n (d <<< shift)
  if mantissa = 1 <<< 53 then ofParts negative (1 <<< 52) (shift + 1)
  else ofParts negative mantissa shift

/-- The double nearest to a whole number. -/
def ofInt (n : Int) : Double :=
  ofRatio (n < 0) (n.natAbs * one) 1

/-! ### Decimal notation -/

/-- How many decimal digits a number has; zero has one. -/
def digitCount (n : Nat) : Nat := (Nat.toDigits 10 n).length

/-- The double nearest to `± digits * 10 ^ exponent`.  Outside the decimal magnitudes a double
reaches the answer is an infinity or zero at once, whatever the exponent's size. -/
def ofDecimal (negative : Bool) (digits : Nat) (exponent : Int) : Double :=
  let magnitude := (digitCount digits : Int) + exponent
  if digits = 0 ∨ magnitude < -400 then zero negative
  else if 310 < magnitude then .infinite negative
  else if 0 ≤ exponent then ofRatio negative (digits * Nat.pow 10 exponent.toNat * one) 1
  else ofRatio negative (digits * one) (Nat.pow 10 (-exponent).toNat)

/-! ### The interchange word -/

/-- The 64-bit word of a double: sign, biased exponent, mantissa without its leading bit.  That
leading bit, when there is one, adds the exponent's bias of one.  Every not-a-number has the word of
the quiet one. -/
def bits : Double → UInt64
  | .finite negative mantissa shift _ =>
      UInt64.ofNat ((if negative then 1 <<< 63 else 0) + (shift <<< 52 + mantissa))
  | .infinite negative => UInt64.ofNat ((if negative then 1 <<< 63 else 0) + 2047 <<< 52)
  | .nan => UInt64.ofNat (4095 <<< 51)

end Double

end ProvenShapes
