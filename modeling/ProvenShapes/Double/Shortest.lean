/-
**The fewest decimal digits that read back.**

Many decimals round to one double.  The text of a double is the shortest of them, and of several
equally short ones the nearest to the double's exact value.  Everything here is exact arithmetic on
naturals: the decimals that round to a double form an interval whose ends are known in quarters of a
unit, and on the grid of `n`-digit decimals only the two neighbours of the value have to be tried.

Main definitions:

* `Double.Tie` — what to do when two decimals are equally near;
* `Double.Digits` — a decimal `digits * 10 ^ exponent`;
* `Double.shortest` — **the fewest digits that read back**;
* `Double.Layout` — which exponents are written positionally, and how whole numbers end;
* `Double.layOut` — the text of a decimal in a layout.
-/

import ProvenShapes.Double.Basic

set_option autoImplicit false

namespace ProvenShapes.Double

/-- Which of two equally near decimals is taken. -/
inductive Tie where
  | up
  | toEven
deriving DecidableEq, Repr

/-- The decimal `digits * 10 ^ exponent`. -/
structure Digits where
  digits : Nat
  exponent : Int
deriving DecidableEq, Repr

/-! ### The interval of decimals that round to a double -/

/-- The reals that round to a positive double, in quarters of a unit.  The ends belong to the
interval exactly when the mantissa is even. -/
structure Window where
  low : Nat
  value : Nat
  high : Nat
  closed : Bool

/-- The neighbour below a full mantissa of `2 ^ 52` is only half as far away as the one above. -/
def window (mantissa shift : Nat) : Window :=
  let step := 1 <<< shift
  let value := 4 * mantissa * step
  { low := value - (if mantissa = 1 <<< 52 ∧ 0 < shift then step else 2 * step)
    value := value
    high := value + 2 * step
    closed := mantissa % 2 == 0 }

/-- Whether the ratio `n / d`, in quarters of a unit, rounds to the double of the window. -/
def Window.admits (w : Window) (n d : Nat) : Bool :=
  if w.closed then w.low * d ≤ n && n ≤ w.high * d
  else w.low * d < n && n < w.high * d

/-! ### Searching the decimal grids -/

/-- The exponent of the leading decimal digit of a positive value given in quarters of a unit. -/
def leadingExponent (value : Nat) : Int :=
  (digitCount (value * Nat.pow 10 330 / (4 * one)) : Int) - 331

/-- The decimal on the grid of multiples of `10 ^ exponent` that lies in the window and is nearest
to its value, if the window holds a point of the grid next to the value. -/
def Window.onGrid (w : Window) (tie : Tie) (exponent : Int) : Option Nat :=
  let scale := 4 * one * Nat.pow 10 exponent.toNat
  let spread := Nat.pow 10 (-exponent).toNat
  let below := w.value * spread / scale
  let rest := w.value * spread % scale
  let above := below + 1
  let lower := w.admits (below * scale) spread
  let upper := w.admits (above * scale) spread
  if lower && upper then
    if 2 * rest < scale then some below
    else if scale < 2 * rest then some above
    else match tie with
      | .up => some above
      | .toEven => some (if below % 2 = 0 then below else above)
  else if lower then some below
  else if upper then some above
  else none

/-- The decimal of a point on a grid.  Only the grid of one digit can yield ten, which is a one
with the next exponent. -/
def Digits.ofPoint (point : Nat) (exponent : Int) : Digits :=
  if point = 10 then ⟨1, exponent + 1⟩ else ⟨point, exponent⟩

/-- The shortest decimal that rounds to the positive double `mantissa * 2 ^ shift` units: the first
grid of `1, 2, …, 17` digits that meets the window decides. -/
def shortest (tie : Tie) (mantissa shift : Nat) : Digits :=
  let w := window mantissa shift
  let leading := leadingExponent w.value
  let found := (List.range 17).findSome? fun (n : Nat) =>
    (w.onGrid tie (leading - n)).map fun point => Digits.ofPoint point (leading - n)
  found.getD ⟨mantissa, 0⟩

/-! ### Writing digits -/

/-- How a decimal is written: the tie rule of its digits, the exponents of the leading digit that
are written positionally, and what follows a whole number written positionally. -/
structure Layout where
  tie : Tie
  positional : Int → Bool
  wholeEnd : List Char

/-- The digits in positional notation. -/
def positionalText (wholeEnd : List Char) (d : Digits) : List Char :=
  let ds := Nat.toDigits 10 d.digits
  let point := (ds.length : Int) + d.exponent
  if 0 ≤ d.exponent then ds ++ List.replicate d.exponent.toNat '0' ++ wholeEnd
  else if point ≤ 0 then '0' :: '.' :: (List.replicate (-point).toNat '0' ++ ds)
  else ds.take point.toNat ++ '.' :: ds.drop point.toNat

/-- The digits in scientific notation, with the sign of the exponent always written. -/
def scientificText (d : Digits) : List Char :=
  let ds := Nat.toDigits 10 d.digits
  let exponent := (ds.length : Int) - 1 + d.exponent
  let fraction := if ds.length = 1 then [] else '.' :: ds.drop 1
  let sign := if exponent < 0 then '-' else '+'
  ds.take 1 ++ fraction ++ 'e' :: sign :: Nat.toDigits 10 exponent.natAbs

/-- The text of a finite double in a layout. -/
def layOut (layout : Layout) (negative : Bool) (mantissa shift : Nat) : List Char :=
  let d := if mantissa = 0 then ⟨0, 0⟩ else shortest layout.tie mantissa shift
  let leading := (digitCount d.digits : Int) - 1 + d.exponent
  let text := if layout.positional leading then positionalText layout.wholeEnd d else scientificText d
  if negative then '-' :: text else text

end ProvenShapes.Double
