/-
**Intervals of numbers.**

A comparison with a bound admits the numbers of an interval, or all numbers but one.  Lengths are
whole and never negative, so a strict comparison of a length is tightened to the neighbouring whole
number, and an interval of lengths without a lower end starts at zero.

Main definitions:

* `Side` — the lower and the upper side, with the ends of intervals on it;
* `Interval` — two ends, either of which may be missing, and an excluded point;
* `Interval.ofValue`, `Interval.ofLength` — the interval of a comparison;
* `Interval.intersects` — whether two intervals have a common number;
* `Interval.isWithin` — whether one interval lies in the other.
-/

import ProvenShapes.Comparison
import ProvenShapes.Number.Basic

set_option autoImplicit false

namespace ProvenShapes

namespace Number

/-- The least whole number above a number, rounded to its representation; the largest 64-bit
integer stays. -/
def stepUp : Number → Number
  | int n => int (if n = Int64.maxValue then n else n + 1)
  | float d =>
      match d.units with
      | some u => float (.ofInt (u / Double.one + 1))
      | none => float d

/-- The greatest whole number below a number, rounded to its representation; the least 64-bit
integer stays. -/
def stepDown : Number → Number
  | int n => int (if n = Int64.minValue then n else n - 1)
  | float d =>
      match d.units with
      | some u => float (.ofInt (-(-u / Double.one) - 1))
      | none => float d

end Number

/-- An end of an interval. -/
structure Bound where
  value : Number
  inclusive : Bool

/-- The sides on which an interval ends. -/
inductive Side where
  | low
  | high
deriving DecidableEq, Repr

namespace Side

/-- The order of numbers from the outside inwards: upwards from a lower end, downwards from an upper
end. -/
def order : Side → Number → Number → Ordering
  | low, m, n => compare m n
  | high, m, n => compare n m

/-- Of two ends the one that admits less. -/
def tighter (side : Side) : Option Bound → Option Bound → Option Bound
  | some x, some y =>
      match side.order x.value y.value with
      | .gt => some x
      | .lt => some y
      | .eq => if x.inclusive then some y else some x
  | x, none => x
  | none, y => y

/-- The number lies inwards from an end, or is an end that belongs to the interval. -/
def admits (side : Side) : Option Bound → Number → Bool
  | none, _ => true
  | some b, n => if b.inclusive then side.order n b.value != .lt else side.order n b.value == .gt

/-- Every number that the first end admits is admitted by the second. -/
def within (side : Side) : Option Bound → Option Bound → Bool
  | _, none => true
  | none, some _ => false
  | some a, some b =>
      match side.order a.value b.value with
      | .gt => true
      | .lt => false
      | .eq => b.inclusive || !a.inclusive

end Side

/-- The numbers between two ends, except for an excluded one. -/
structure Interval where
  low : Option Bound
  high : Option Bound
  excluded : Option Number

namespace Interval

/-- An end that belongs to the interval. -/
def closed (value : Number) : Option Bound := some ⟨value, true⟩

/-- An end that does not belong to the interval. -/
def opened (value : Number) : Option Bound := some ⟨value, false⟩

/-- The numbers that compare to a bound. -/
def ofValue (op : Comparison) (bound : Number) : Interval :=
  match op with
  | .lt => ⟨none, opened bound, none⟩
  | .le => ⟨none, closed bound, none⟩
  | .gt => ⟨opened bound, none, none⟩
  | .ge => ⟨closed bound, none, none⟩
  | .eq => ⟨closed bound, closed bound, none⟩
  | .ne => ⟨none, none, some bound⟩

/-- The lengths that compare to a bound. -/
def ofLength (op : Comparison) (bound : UInt64) : Interval :=
  let n := Number.ofNat bound.toNat
  let zero := closed (.int 0)
  match op with
  | .lt => ⟨zero, closed n.stepDown, none⟩
  | .le => ⟨zero, closed n, none⟩
  | .gt => ⟨closed n.stepUp, none, none⟩
  | .ge => ⟨closed n, none, none⟩
  | .eq => ⟨closed n, closed n, none⟩
  | .ne => ⟨zero, none, some n⟩

/-- Some number lies in both intervals. -/
def intersects (i j : Interval) : Bool :=
  match Side.tighter .low i.low j.low, Side.tighter .high i.high j.high with
  | some low, some high =>
      match compare low.value high.value with
      | .gt => false
      | .eq =>
          low.inclusive && high.inclusive &&
            !(i.excluded == some low.value || j.excluded == some low.value)
      | .lt => true
  | _, _ => true

/-- The number lies between the ends. -/
def admitsBetween (i : Interval) (n : Number) : Bool :=
  Side.admits .low i.low n && Side.admits .high i.high n

/-- Every number of the first interval lies in the second. -/
def isWithin (i j : Interval) : Bool :=
  let hitsHole :=
    match j.excluded with
    | some p => !(i.excluded == some p) && i.admitsBetween p
    | none => false
  !hitsHole && Side.within .low i.low j.low && Side.within .high i.high j.high

end Interval

end ProvenShapes
