/-
**Numbers as text.**

An integer is written plainly, also when a double holds it.  Any other double is written with the
fewest digits that read back, in one of two layouts: *plain*, which never uses an exponent, and
*data*, the layout of JSON, which writes large and small magnitudes scientifically.

Main definitions:

* `Number.Decimal` — a scanned decimal: digits, decimal exponent, and what was left unread;
* `Number.read` — the number a text denotes: an integer, a decimal, an infinity or not-a-number;
* `Number.plain`, `Number.data` — the two layouts;
* `Number.display`, `Number.json` — the texts of a number in them.
-/

import ProvenShapes.Double.Shortest
import ProvenShapes.Number.Basic

set_option autoImplicit false

namespace ProvenShapes.Number

/-! ### Reading -/

/-- The natural that a list of decimal digits denotes. -/
def natOfDigits (ds : List Char) : Nat :=
  ds.foldl (fun n c => 10 * n + (c.toNat - 48)) 0

/-- The leading decimal digits of a text, and what follows them. -/
def spanDigits (cs : List Char) : List Char × List Char :=
  (cs.takeWhile Char.isDigit, cs.dropWhile Char.isDigit)

/-- A sign, if the text begins with one, and the rest; `true` is negative. -/
def spanSign : List Char → Bool × List Char
  | '-' :: rest => (true, rest)
  | '+' :: rest => (false, rest)
  | cs => (false, cs)

/-- The integer a text denotes: an optional sign and at least one digit. -/
def readInt? (cs : List Char) : Option Int :=
  let (negative, rest) := spanSign cs
  if rest.isEmpty || !rest.all Char.isDigit then none
  else
    let size : Int := natOfDigits rest
    some (if negative then -size else size)

/-- The exponent part at the end of a decimal; it may be missing. -/
def readExponent? : List Char → Option Int
  | [] => some 0
  | e :: rest => if e = 'e' ∨ e = 'E' then readInt? rest else none

/-- The double a text without its sign denotes: digits with an optional point and at least one
digit, an optional exponent; or a name of infinity or not-a-number in any case. -/
def readMagnitude? (negative : Bool) (cs : List Char) : Option Double :=
  let name := String.ofList (cs.map Char.toLower)
  if name = "inf" ∨ name = "infinity" then some (.infinite negative)
  else if name = "nan" then some .nan
  else
    let (whole, rest) := spanDigits cs
    let (fraction, rest) :=
      match rest with
      | '.' :: rest => spanDigits rest
      | rest => ([], rest)
    if whole.isEmpty && fraction.isEmpty then none
    else
      match readExponent? rest with
      | some e => some (.ofDecimal negative (natOfDigits (whole ++ fraction)) (e - fraction.length))
      | none => none

/-- The double a text denotes. -/
def readDouble? (cs : List Char) : Option Double :=
  let (negative, rest) := spanSign cs
  readMagnitude? negative rest

/-- The integer a text denotes, if it fits 64 bits. -/
def readInt64? (cs : List Char) : Option Int64 :=
  match readInt? cs with
  | some n =>
      if Int64.minValue.toInt ≤ n ∧ n ≤ Int64.maxValue.toInt then some (Int64.ofInt n) else none
  | none => none

/-- The number a text denotes, an integer that fits 64 bits or else a double; or a message. -/
def read (s : String) : Except String Number :=
  match readInt64? s.toList with
  | some i => .ok (.int i)
  | none =>
      match readDouble? s.toList with
      | some d => .ok (.ofDouble d)
      | none => .error s!"`{s}` is not a number"

/-! ### Writing -/

/-- No exponent is ever written, and a half goes up. -/
def plain : Double.Layout :=
  { tie := .up, positional := fun _ => true, wholeEnd := [] }

/-- Positional from `10 ^ -5` to below `10 ^ 16`, where a whole number ends in a zero fraction;
scientific elsewhere, and a half goes to the even digit. -/
def data : Double.Layout :=
  { tie := .toEven, positional := fun e => -5 ≤ e && e < 16, wholeEnd := ['.', '0'] }

/-- The text of an integer. -/
def intText (n : Int) : List Char :=
  if n < 0 then '-' :: Nat.toDigits 10 n.natAbs else Nat.toDigits 10 n.natAbs

/-- The text of a number in a layout, given the texts of the values that no layout covers. -/
def text (layout : Double.Layout) (infinity negativeInfinity nan : List Char) (n : Number) :
    List Char :=
  match n, n.toInt? with
  | _, some i => intText i
  | .float (.finite negative mantissa shift _), none =>
      Double.layOut layout negative mantissa shift
  | .float (.infinite negative), none => if negative then negativeInfinity else infinity
  | .float .nan, none => nan
  | .int i, none => intText i.toInt

/-- The text of a number in messages. -/
def display (n : Number) : String :=
  String.ofList (n.text plain "inf".toList "-inf".toList "NaN".toList)

/-- The text of a number in JSON, which has no infinities and no not-a-number. -/
def json (n : Number) : List Char :=
  n.text data "null".toList "null".toList "null".toList

end ProvenShapes.Number
