/-
**The numbers of JSON text.**

The digits of a number are gathered in a significand of 64 bits.  A digit that does not fit any more
counts as a zero before the point, and for nothing after it.  The significand is turned into a double
and multiplied or divided by a power of ten.  Each of these steps rounds, so the double that is read
need not be the one nearest to the number.  A number beyond all doubles is refused.

Main definitions:

* `Json.wholeDigits`, `Json.fractionDigits` — the digits before and after the point, as far as 64 bits
  hold them;
* `Json.scale?` — a double times a power of ten;
* `Json.Literal.ofParts?` — the literal that the parts of a number make;
* `Json.magnitude?` — **the number at the start of a text**.
-/

import ProvenShapes.Double.Arithmetic
import ProvenShapes.Json.Basic
import ProvenShapes.Number.Text

set_option autoImplicit false

namespace ProvenShapes.Json

open Double (Digits)

/-! ### Digits -/

/-- The digits before the point, after those of a significand.  From the first on that makes it too
large, they count as zeros. -/
def wholeDigits (significand : Nat) : List Char → Digits
  | [] => ⟨significand, 0⟩
  | c :: rest =>
      let next := 10 * significand + (c.toNat - 48)
      if next < UInt64.size then wholeDigits next rest else ⟨significand, rest.length + 1⟩

/-- The digits after the point, after those that were read.  From the first on that makes the
significand too large, they are dropped. -/
def fractionDigits (read : Digits) : List Char → Digits
  | [] => read
  | c :: rest =>
      let next := 10 * read.digits + (c.toNat - 48)
      if next < UInt64.size then fractionDigits ⟨next, read.exponent - 1⟩ rest else read

/-! ### Powers of ten -/

/-- The double nearest to a power of ten. -/
def power (n : Nat) : Double := .ofDecimal false 1 n

/-- A double times a power of ten.  What is too small for the powers that doubles hold is divided by
the largest of them first; what is too large is refused. -/
def scale? (f : Double) (exponent : Int) : Option Double :=
  if exponent.natAbs ≤ 308 then
    if 0 ≤ exponent then
      let product := f.mul (power exponent.natAbs)
      if product.isFinite then some product else none
    else some (f.div (power exponent.natAbs))
  else if f.isZero then some f
  else if 0 ≤ exponent then none
  else scale? (f.div (power 308)) (exponent + 308)
termination_by exponent.natAbs
decreasing_by omega

/-! ### Literals -/

/-- The literal of digits with an exponent. -/
def Literal.ofDigits? (negative : Bool) (d : Digits) : Option Literal :=
  (scale? (.ofInt d.digits) d.exponent).map fun f => .real (if negative then f.neg else f)

/-- The literal of a number without fraction and exponent. -/
def Literal.ofWhole (negative : Bool) (n : Nat) : Literal :=
  if negative then
    if 0 < n ∧ n ≤ 1 <<< 63 then .whole (-(n : Int)) else .real (Double.ofInt n).neg
  else .whole n

/-- The literal of a number: its digits before and after the point, and its exponent.  It is a whole
number if it has no point and no exponent, and fits. -/
def Literal.ofParts? (negative : Bool) (whole : List Char) (fraction : Option (List Char))
    (exponent : Option Int) : Option Literal :=
  let read := wholeDigits 0 whole
  if fraction.isNone && exponent.isNone && read.exponent == 0 then
    some (ofWhole negative read.digits)
  else
    let read := fractionDigits read (fraction.getD [])
    ofDigits? negative ⟨read.digits, read.exponent + exponent.getD 0⟩

/-! ### Scanning -/

/-- The digits after a point; with a point there is at least one. -/
def fraction? : List Char → Option (Option (List Char) × List Char)
  | '.' :: rest =>
      let (ds, after) := Number.spanDigits rest
      if ds.isEmpty then none else some (some ds, after)
  | rest => some (none, rest)

/-- The exponent after its mark; with a mark there is at least one digit. -/
def exponent? : List Char → Option (Option Int × List Char)
  | [] => some (none, [])
  | c :: rest =>
      if c = 'e' ∨ c = 'E' then
        let (negative, rest) := Number.spanSign rest
        let (ds, after) := Number.spanDigits rest
        let size : Int := Number.natOfDigits ds
        if ds.isEmpty then none else some (some (if negative then -size else size), after)
      else some (none, c :: rest)

/-- The number at the start of a text without its sign, and what follows it.  Leading zeros are
refused. -/
def magnitude? (negative : Bool) (cs : List Char) : Option (Literal × List Char) :=
  let (whole, rest) := Number.spanDigits cs
  if whole.isEmpty || (whole.head? == some '0' && whole.length != 1) then none
  else
    match fraction? rest with
    | none => none
    | some (fraction, rest) =>
        match exponent? rest with
        | none => none
        | some (exponent, after) =>
            (Literal.ofParts? negative whole fraction exponent).map fun n => (n, after)

/-! #### Every number takes up text -/

theorem length_spanDigits_le (cs : List Char) : (Number.spanDigits cs).2.length ≤ cs.length := by
  simpa [Number.spanDigits] using (List.dropWhile_sublist (p := Char.isDigit) (l := cs)).length_le

theorem length_spanDigits_lt {cs : List Char} (h : (Number.spanDigits cs).1.isEmpty = false) :
    (Number.spanDigits cs).2.length < cs.length := by
  have split : (Number.spanDigits cs).1 ++ (Number.spanDigits cs).2 = cs := by
    simp [Number.spanDigits]
  have total := congrArg List.length split
  have : 0 < (Number.spanDigits cs).1.length := by
    cases e : (Number.spanDigits cs).1 with
    | nil => simp [e] at h
    | cons => simp
  simp only [List.length_append] at total
  omega

theorem length_spanSign_le (cs : List Char) : (Number.spanSign cs).2.length ≤ cs.length := by
  unfold Number.spanSign
  split <;> simp

theorem length_fraction_le {cs rest : List Char} {ds : Option (List Char)}
    (h : fraction? cs = some (ds, rest)) : rest.length ≤ cs.length := by
  unfold fraction? at h
  split at h
  · next r =>
      simp only at h
      split at h
      · simp at h
      · have := length_spanDigits_le r
        simp only [Option.some.injEq, Prod.mk.injEq] at h
        simp only [← h.2, List.length_cons]
        omega
  · simp_all

theorem length_exponent_le {cs rest : List Char} {e : Option Int}
    (h : exponent? cs = some (e, rest)) : rest.length ≤ cs.length := by
  unfold exponent? at h
  split at h
  · simp_all
  · next c r =>
      split at h
      · simp only at h
        split at h
        · simp at h
        · have h₁ := length_spanSign_le r
          have h₂ := length_spanDigits_le (Number.spanSign r).2
          simp only [Option.some.injEq, Prod.mk.injEq] at h
          simp only [← h.2, List.length_cons]
          omega
      · simp_all

theorem length_magnitude_lt {negative : Bool} {cs rest : List Char} {n : Literal}
    (h : magnitude? negative cs = some (n, rest)) : rest.length < cs.length := by
  unfold magnitude? at h
  simp only at h
  split at h
  · simp at h
  · next whole =>
      split at h
      · simp at h
      · next fr r₁ hf =>
          split at h
          · simp at h
          · next ex r₂ he =>
              have h₁ := length_fraction_le hf
              have h₂ := length_exponent_le he
              obtain ⟨literal, _, eq⟩ := Option.map_eq_some_iff.1 h
              have h₃ : r₂ = rest := (Prod.mk.injEq .. ▸ eq).2
              have h₄ : (Number.spanDigits cs).2.length < cs.length := by
                refine length_spanDigits_lt ?_
                cases e : (Number.spanDigits cs).1.isEmpty with
                | false => rfl
                | true => simp [e] at whole
              rw [← h₃]
              omega

end ProvenShapes.Json
