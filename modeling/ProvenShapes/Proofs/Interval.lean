/-
**Intervals and the numbers they admit.**

Implication between two comparisons is decided on intervals, while a comparison itself is evaluated
on a number.  Here the two are tied together: the interval of a comparison admits exactly the numbers
that compare as it says, and an interval that is found to lie within another one admits nothing that
the other does not.  For lengths this holds below `2 ^ 63 - 1`: there neither the saturation of the
largest 64-bit integer nor the rounding of larger bounds can be seen.

Main definitions:

* `Interval.Admits` — what an interval admits;
* `Bound.Alike`, `Interval.Alike` — ends and intervals that differ in how numbers are written.

Main results:

* `Side.within_trans`, `Side.admits_of_within` — ends within ends admit no more;
* `Interval.admits_ofValue` — **the interval of a comparison admits what compares so**;
* `Interval.admits_ofLength` — the same for lengths below `2 ^ 63 - 1`;
* `Interval.admits_of_isWithin` — **an interval within another admits no more**;
* `Interval.isWithin_trans` — lying within is transitive, whatever the bounds are;
* `Interval.intersects_iff_ends` — when intervals intersect, in terms of their ends;
* `Interval.intersects_of_admits` — intervals that admit a common number are found to intersect;
* `Interval.intersects_congr` — alike intervals intersect the same intervals.
-/

import ProvenShapes.Interval
import ProvenShapes.Proofs.Number.Order

set_option autoImplicit false

namespace ProvenShapes

/-! ### Steps from one whole number to the next -/

namespace Number

theorem stepUp_ofInt {n : Int} (low : -2 ^ 63 ≤ n) (high : n < 2 ^ 63 - 1) :
    (ofInt n).stepUp = ofInt (n + 1) := by
  rw [ofInt_of_fits low (by omega), ofInt_of_fits (by omega) (by omega)]
  have notMax : Int64.ofInt n ≠ Int64.maxValue := by
    intro h
    have : n = Int64.maxValue.toInt := by rw [← h, Int64.toInt_ofInt_of_le low (by omega)]
    have : Int64.maxValue.toInt = 2 ^ 63 - 1 := by decide
    omega
  simp only [stepUp, notMax, if_false, Int64.ofInt_add]
  rfl

theorem stepUp_ofInt_max : (ofInt (2 ^ 63 - 1)).stepUp = ofInt (2 ^ 63 - 1) := by decide

theorem stepDown_ofInt {n : Int} (low : -2 ^ 63 < n) (high : n < 2 ^ 63) :
    (ofInt n).stepDown = ofInt (n - 1) := by
  rw [ofInt_of_fits (by omega) high, ofInt_of_fits (by omega) (by omega)]
  have notMin : Int64.ofInt n ≠ Int64.minValue := by
    intro h
    have : n = Int64.minValue.toInt := by rw [← h, Int64.toInt_ofInt_of_le (by omega) high]
    have : Int64.minValue.toInt = -2 ^ 63 := by decide
    omega
  simp only [stepDown, notMin, if_false, Int64.ofInt_sub]
  rfl

/-- An integer that does not fit 64 bits from above becomes a double, and a vast one. -/
theorem ofInt_vast {n : Int} (h : 2 ^ 63 ≤ n) : ∃ d, ofInt n = .float d ∧ Vast (.float d) := by
  have notFits : ¬(Int64.minValue.toInt ≤ n ∧ n ≤ Int64.maxValue.toInt) := by
    rw [fits_iff]
    omega
  have vast := vast_float_ofInt (n := n) (by omega)
  refine ⟨_, by rw [ofInt, if_neg notFits, ofDouble], ?_⟩
  split
  · next zero =>
      -- a double with the value zero is not vast
      generalize Double.ofInt n = d at vast zero
      cases d with
      | finite negative mantissa shift canonical =>
          obtain rfl : mantissa = 0 := by simpa [Double.isZero] using zero
          have positive := Int.mul_pos (a := 2 ^ 63) (by decide) Double.one_pos_int
          obtain outside | ⟨-, large⟩ := vast
          · simp [place] at outside
          · have nothing : (float (.finite negative 0 shift canonical)).place.2 = 0 := by
              cases negative <;> simp [place, Double.units]
            omega
      | infinite | nan => simp [Double.isZero] at zero
  · exact vast

theorem vast_stepUp {d : Double} (h : Vast (.float d)) : (stepUp (.float d)).Vast := by
  cases d with
  | finite negative mantissa shift canonical =>
      obtain h | ⟨-, large⟩ := h
      · simp [place] at h
      · refine vast_float_ofInt ?_
        have := Int.le_ediv_of_mul_le Double.one_pos_int large
        simp only [place, Double.units, Option.getD_some] at this
        omega
  | infinite | nan => exact h

theorem vast_stepDown {d : Double} (h : Vast (.float d)) : (stepDown (.float d)).Vast := by
  cases d with
  | finite negative mantissa shift canonical =>
      obtain h | ⟨-, large⟩ := h
      · simp [place] at h
      · refine vast_float_ofInt ?_
        simp only [place, Double.units, Option.getD_some] at large
        have := Int.ediv_le_ediv Double.one_pos_int (Int.neg_le_neg large)
        rw [← Int.neg_mul, Int.mul_ediv_cancel _ (Int.ne_of_gt Double.one_pos_int)] at this
        omega
  | infinite | nan => exact h

/-! ### Lengths among numbers -/

theorem compare_length {n bound : Nat} (h : n < 2 ^ 63) :
    Ord.compare (ofNat n) (ofNat bound) = Ord.compare n bound := by
  rcases Nat.lt_or_ge bound (2 ^ 63) with small | large
  · rw [ofNat, ofNat, compare_ofInt (by omega) (by omega)]
    rcases Nat.lt_trichotomy n bound with lt | rfl | gt
    · rw [Nat.compare_eq_lt.2 lt, Int.compare_eq_lt]
      omega
    · simp
    · rw [Nat.compare_eq_gt.2 gt, Int.compare_eq_gt]
      omega
  · have : n < bound := by omega
    rw [Nat.compare_eq_lt.2 this]
    obtain ⟨d, double, vast⟩ := ofInt_vast (n := bound) (by omega)
    rw [ofNat, ofNat, double]
    exact compare_ofInt_vast (by omega) vast

/-- A length is below a bound just when it is at most the whole number before the bound. -/
theorem length_le_stepDown_iff {n bound : Nat} (h : n < 2 ^ 63 - 1) :
    Ord.compare (ofNat n) (ofNat bound).stepDown ≠ .gt ↔ n < bound := by
  rcases Nat.lt_or_ge bound (2 ^ 63) with small | large
  · rw [ofNat, ofNat, stepDown_ofInt (by omega) (by omega), compare_ofInt (by omega) (by omega),
      Ne, Int.compare_eq_gt]
    omega
  · obtain ⟨d, double, vast⟩ := ofInt_vast (n := bound) (by omega)
    rw [ofNat, ofNat, double, compare_ofInt_vast (by omega) (vast_stepDown vast)]
    simp only [ne_eq, reduceCtorEq, not_false_eq_true, true_iff]
    omega

/-- A length is above a bound just when it is at least the whole number after the bound. -/
theorem stepUp_le_length_iff {n bound : Nat} (h : n < 2 ^ 63 - 1) :
    Ord.compare (ofNat n) (ofNat bound).stepUp ≠ .lt ↔ bound < n := by
  rcases Nat.lt_or_ge bound (2 ^ 63 - 1) with small | large
  · rw [ofNat, ofNat, stepUp_ofInt (by omega) (by omega), compare_ofInt (by omega) (by omega),
      Ne, Int.compare_eq_lt]
    omega
  · -- the largest integer stays where it is, and what lies beyond stays vast
    have below : Ord.compare (ofNat n) (ofNat bound).stepUp = .lt := by
      rcases Nat.eq_or_lt_of_le large with rfl | beyond
      · have max : ofNat (2 ^ 63 - 1) = ofInt (2 ^ 63 - 1) := rfl
        rw [max, stepUp_ofInt_max, ofNat, compare_ofInt (by omega) (by omega), Int.compare_eq_lt]
        omega
      · obtain ⟨d, double, vast⟩ := ofInt_vast (n := bound) (by omega)
        rw [ofNat, ofNat, double]
        exact compare_ofInt_vast (by omega) (vast_stepUp vast)
    rw [below]
    simp only [ne_eq, not_true_eq_false, false_iff]
    omega

theorem zero_le_length {n : Nat} (h : n < 2 ^ 63) : Ord.compare (ofNat n) (.int 0) ≠ .lt := by
  have zero : Number.int 0 = ofInt 0 := rfl
  rw [zero, ofNat, compare_ofInt (by omega) (by omega), Ne, Int.compare_eq_lt]
  omega

end Number

/-! ### What an end admits -/

namespace Side

variable {side : Side} {a b c : Option Bound} {m n : Number}

theorem forall_iff {P : Side → Prop} : (∀ side, P side) ↔ P low ∧ P high := by
  constructor
  · intro all
    exact ⟨all low, all high⟩
  · rintro ⟨atLow, atHigh⟩ side
    cases side with
    | low => exact atLow
    | high => exact atHigh

instance (side : Side) : Std.TransCmp side.order := by
  cases side with
  | low => exact inferInstanceAs (Std.TransCmp fun m n : Number => compare m n)
  | high => exact inferInstanceAs (Std.TransCmp fun m n : Number => compare n m)

@[simp]
theorem order_self (side : Side) (n : Number) : side.order n n = .eq := Std.ReflCmp.compare_self

/-- Numbers are equal from either side. -/
theorem order_eq_eq_iff : side.order m n = .eq ↔ compare m n = .eq := by
  cases side with
  | low => rfl
  | high => exact Std.OrientedCmp.eq_comm

theorem not_lt_of_admits {b : Bound} (h : side.admits (some b) n = true) :
    side.order n b.value ≠ .lt := by
  intro outside
  cases strict : b.inclusive <;> simp [admits, strict, outside] at h

/-- An end that admits its own value is closed. -/
theorem inclusive_of_admits {b : Bound} (h : side.admits (some b) n = true)
    (there : side.order n b.value = .eq) : b.inclusive = true := by
  by_contra opened
  simp [admits, opened, there] at h

theorem admits_of_gt {b : Bound} (h : side.order n b.value = .gt) :
    side.admits (some b) n = true := by
  cases strict : b.inclusive <;> simp [admits, strict, h]

theorem admits_congr (same : compare m n = .eq) (hm : side.admits a m = true) :
    side.admits a n = true := by
  cases a with
  | none => rfl
  | some b =>
      have equal : side.order m n = .eq := order_eq_eq_iff.2 same
      simpa only [admits, Std.TransCmp.congr_left equal] using hm

/-- An end within another has a value further inwards, or the same value; then it is open, or the
other one is closed. -/
theorem within_some_iff {x y : Bound} :
    side.within (some x) (some y) = true ↔
      side.order x.value y.value = .gt ∨
        (side.order x.value y.value = .eq ∧ (y.inclusive = true ∨ x.inclusive = false)) := by
  cases order : side.order x.value y.value <;> simp [within, order]

/-- A number that an end admits is admitted by every end that it lies within. -/
theorem admits_of_within (h : side.within a b = true) (hn : side.admits a n = true) :
    side.admits b n = true := by
  cases b with
  | none => rfl
  | some y =>
      cases a with
      | none => simp [within] at h
      | some x =>
          rcases within_some_iff.1 h with inwards | ⟨same, ends⟩
          · refine admits_of_gt ?_
            cases place : side.order n x.value with
            | lt => exact absurd place (not_lt_of_admits hn)
            | eq => exact Std.TransCmp.gt_of_eq_of_gt place inwards
            | gt => exact Std.TransCmp.gt_trans place inwards
          · have equal : side.order n y.value = side.order n x.value :=
              (Std.TransCmp.congr_right same).symm
            rcases ends with closed | opened
            · simpa [admits, closed, equal] using not_lt_of_admits hn
            · exact admits_of_gt (by simpa [admits, opened, equal] using hn)

theorem within_trans (hab : side.within a b = true) (hbc : side.within b c = true) :
    side.within a c = true := by
  cases c with
  | none => cases a <;> rfl
  | some z =>
      cases b with
      | none => simp [within] at hbc
      | some y =>
          cases a with
          | none => simp [within] at hab
          | some x =>
              rw [within_some_iff] at hab hbc ⊢
              rcases hab with inwards | ⟨same, first⟩
              · rcases hbc with inwards' | ⟨same', -⟩
                · exact .inl (Std.TransCmp.gt_trans inwards inwards')
                · exact .inl (Std.TransCmp.gt_of_gt_of_eq inwards same')
              · rcases hbc with inwards' | ⟨same', second⟩
                · exact .inl (Std.TransCmp.gt_of_eq_of_gt same inwards')
                · -- at equal values an open end lies within any end, a closed one within closed ones
                  refine .inr ⟨Std.TransCmp.eq_trans same same', ?_⟩
                  rcases second with closed | opened
                  · exact .inl closed
                  · exact .inr (first.resolve_left (by simp [opened]))

theorem tighter_eq_or (side : Side) (a b : Option Bound) :
    side.tighter a b = a ∨ side.tighter a b = b := by
  unfold tighter
  split
  · split
    · exact .inl rfl
    · exact .inr rfl
    · split
      · exact .inr rfl
      · exact .inl rfl
  · exact .inl rfl
  · exact .inr rfl

/-- What two ends admit is admitted by the tighter one. -/
theorem admits_tighter (ha : side.admits a n = true) (hb : side.admits b n = true) :
    side.admits (side.tighter a b) n = true := by
  rcases tighter_eq_or side a b with eq | eq <;> rwa [eq]

end Side

/-! ### What an interval admits -/

namespace Interval

/-- The end on a side. -/
def endAt (i : Interval) : Side → Option Bound
  | .low => i.low
  | .high => i.high

/-- The number lies between the ends and is not the excluded one. -/
def Admits (i : Interval) (n : Number) : Prop :=
  (∀ side : Side, side.admits (i.endAt side) n = true) ∧
    ∀ p, i.excluded = some p → compare n p ≠ .eq

theorem admitsBetween_iff {i : Interval} {n : Number} :
    i.admitsBetween n = true ↔ ∀ side : Side, side.admits (i.endAt side) n = true := by
  rw [Side.forall_iff]
  exact Bool.and_eq_true_iff

theorem admits_iff {i : Interval} {n : Number} :
    i.Admits n ↔ Side.low.admits i.low n = true ∧ Side.high.admits i.high n = true ∧
      ∀ p, i.excluded = some p → compare n p ≠ .eq := by
  rw [Admits, Side.forall_iff, and_assoc]
  rfl

/-- The interval of a comparison admits exactly the numbers that compare so. -/
theorem admits_ofValue {op : Comparison} {bound n : Number} :
    (ofValue op bound).Admits n ↔ op.apply n bound = true := by
  have turned := Std.OrientedOrd.eq_swap (a := bound) (b := n)
  rw [admits_iff]
  cases op <;> cases h : compare n bound <;> rw [h] at turned <;>
    simp [ofValue, opened, closed, Side.admits, Side.order, Comparison.apply, Comparison.admits, h,
      turned]

/-- The interval of a comparison of lengths admits exactly the lengths that compare so. -/
theorem admits_ofLength {op : Comparison} {bound : UInt64} {n : Nat} (h : n < 2 ^ 63 - 1) :
    (ofLength op bound).Admits (.ofNat n) ↔ op.apply n bound.toNat = true := by
  have zero := Number.zero_le_length (n := n) (by omega)
  have same : compare (Number.ofNat n) (Number.ofNat bound.toNat) = compare n bound.toNat :=
    Number.compare_length (by omega)
  have turned (m : Number) : compare m (Number.ofNat n) = (compare (Number.ofNat n) m).swap :=
    Std.OrientedOrd.eq_swap
  rw [admits_iff]
  cases op with
  | lt =>
      simp [ofLength, closed, Side.admits, Side.order, turned, zero, Comparison.apply,
        Comparison.admits, Number.length_le_stepDown_iff h, Nat.compare_eq_lt]
  | gt =>
      simp [ofLength, closed, Side.admits, Side.order, Comparison.apply, Comparison.admits,
        Number.stepUp_le_length_iff h, Nat.compare_eq_gt]
  | le | ge | eq | ne =>
      cases order : compare n bound.toNat <;>
        simp [ofLength, closed, Side.admits, Side.order, turned, zero, same, Comparison.apply,
          Comparison.admits, order]

/-! ### One interval within another -/

theorem excluded_eq_some_iff {i : Interval} {p : Number} :
    (i.excluded == some p) = true ↔ ∃ q, i.excluded = some q ∧ compare q p = .eq := by
  cases h : i.excluded with
  | none => simp
  | some q =>
      have : (some q == some p) = (Number.compare q p == .eq) := rfl
      rw [this]
      simp [show Number.compare q p = compare q p from rfl]

/-- One interval lies within another when its ends do and the hole of the other is none of its
numbers. -/
theorem isWithin_iff {i j : Interval} :
    i.isWithin j = true ↔
      (∀ p, j.excluded = some p →
        (∃ q, i.excluded = some q ∧ compare q p = .eq) ∨
          ¬∀ side : Side, side.admits (i.endAt side) p = true) ∧
        ∀ side : Side, side.within (i.endAt side) (j.endAt side) = true := by
  have ends : (∀ side : Side, side.within (i.endAt side) (j.endAt side) = true) ↔
      Side.low.within i.low j.low = true ∧ Side.high.within i.high j.high = true := Side.forall_iff
  simp only [ends, isWithin, Bool.and_eq_true, and_assoc]
  refine and_congr_left fun _ => ?_
  cases hole : j.excluded with
  | none => simp
  | some p =>
      simp only [← admitsBetween_iff, ← excluded_eq_some_iff]
      simp

/-- A number that an interval admits is admitted by every interval that it lies within. -/
theorem admits_of_isWithin {i j : Interval} {n : Number} (h : i.isWithin j = true)
    (hn : i.Admits n) : j.Admits n := by
  obtain ⟨hole, ends⟩ := isWithin_iff.1 h
  obtain ⟨inside, notHole⟩ := hn
  refine ⟨fun side => Side.admits_of_within (ends side) (inside side), ?_⟩
  intro p excluded same
  -- the hole of the outer interval is the inner one's hole, or outside the inner one
  rcases hole p excluded with ⟨q, shared, equal⟩ | outside
  · exact notHole q shared (Std.TransCmp.eq_trans same (Std.OrientedCmp.eq_symm equal))
  · exact outside fun side => Side.admits_congr same (inside side)

theorem isWithin_trans {i j k : Interval} (hij : i.isWithin j = true)
    (hjk : j.isWithin k = true) : i.isWithin k = true := by
  rw [isWithin_iff] at *
  obtain ⟨inner, ends⟩ := hij
  obtain ⟨outer, ends'⟩ := hjk
  refine ⟨?_, fun side => Side.within_trans (ends side) (ends' side)⟩
  intro p hole
  rcases outer p hole with ⟨q, shared, same⟩ | outside
  · -- the two outer intervals have the hole in common, up to the way in which it is written
    rcases inner q shared with ⟨o, own, equal⟩ | outside
    · exact .inl ⟨o, own, Std.TransCmp.eq_trans equal same⟩
    · refine .inr fun between => outside fun side => ?_
      exact Side.admits_congr (Std.OrientedCmp.eq_symm same) (between side)
  · refine .inr fun between => outside fun side => ?_
    exact Side.admits_of_within (ends side) (between side)

/-- Intervals of bounds that are equal as numbers lie within each other. -/
theorem isWithin_ofValue_of_eq {op : Comparison} {x y : Number} (same : compare x y = .eq) :
    (ofValue op x).isWithin (ofValue op y) = true := by
  have turned := Std.OrientedCmp.eq_symm same
  rw [isWithin_iff]
  cases op <;>
    simp [Side.forall_iff, endAt, ofValue, opened, closed, Side.within, Side.order, same, turned]

/-! ### Intervals with a common number -/

/-- Intervals intersect when their tighter ends leave room, or one point that neither excludes. -/
theorem intersects_iff_ends {i j : Interval} :
    i.intersects j = true ↔
      ∀ low high, Side.low.tighter i.low j.low = some low →
        Side.high.tighter i.high j.high = some high →
        compare low.value high.value = .lt ∨
          (compare low.value high.value = .eq ∧ low.inclusive = true ∧ high.inclusive = true ∧
            (i.excluded == some low.value) = false ∧ (j.excluded == some low.value) = false) := by
  unfold intersects
  cases Side.low.tighter i.low j.low with
  | none => simp
  | some low =>
      cases Side.high.tighter i.high j.high with
      | none => simp
      | some high => cases order : compare low.value high.value <;> simp [order, and_assoc]

/-- Between two ends that admit a number there is room, or they are closed and meet in the number. -/
theorem lt_or_meet_of_admits {l h : Bound} {n : Number}
    (above : Side.low.admits (some l) n = true) (below : Side.high.admits (some h) n = true) :
    compare l.value h.value = .lt ∨
      (compare l.value h.value = .eq ∧ l.inclusive = true ∧ h.inclusive = true ∧
        compare n l.value = .eq) := by
  have notBelow : compare n l.value ≠ .lt := Side.not_lt_of_admits above
  have notAbove : compare h.value n ≠ .lt := Side.not_lt_of_admits below
  rw [Ne, Number.compare_eq_lt_iff] at notBelow notAbove
  cases order : compare l.value h.value with
  | lt => exact .inl rfl
  | gt =>
      rw [Number.compare_eq_gt_iff] at order
      omega
  | eq =>
      have atLow : compare n l.value = .eq := by
        rw [Number.compare_eq_eq_iff] at order ⊢
        omega
      have atHigh : compare h.value n = .eq :=
        Std.OrientedCmp.eq_symm (Std.TransCmp.eq_trans atLow order)
      exact .inr ⟨rfl, Side.inclusive_of_admits above atLow, Side.inclusive_of_admits below atHigh,
        atLow⟩

/-- What equals an admitted number is not excluded. -/
theorem Admits.excluded_eq_false {i : Interval} {n p : Number} (h : i.Admits n)
    (same : compare n p = .eq) : (i.excluded == some p) = false := by
  rw [← Bool.not_eq_true, excluded_eq_some_iff]
  rintro ⟨q, hole, equal⟩
  exact h.2 q hole (Std.TransCmp.eq_trans same (Std.OrientedCmp.eq_symm equal))

/-- Intervals that admit a common number are found to intersect. -/
theorem intersects_of_admits {i j : Interval} {n : Number} (hi : i.Admits n) (hj : j.Admits n) :
    i.intersects j = true := by
  have above : Side.low.admits (Side.low.tighter i.low j.low) n = true :=
    Side.admits_tighter (hi.1 .low) (hj.1 .low)
  have below : Side.high.admits (Side.high.tighter i.high j.high) n = true :=
    Side.admits_tighter (hi.1 .high) (hj.1 .high)
  rw [intersects_iff_ends]
  intro l h low high
  rw [low] at above
  rw [high] at below
  refine (lt_or_meet_of_admits above below).imp_right ?_
  rintro ⟨meet, closedLow, closedHigh, there⟩
  exact ⟨meet, closedLow, closedHigh, hi.excluded_eq_false there, hj.excluded_eq_false there⟩

end Interval

/-! ### Ends that are written in another way -/

/-- Two ends are equal as numbers, and both or neither belong to their intervals. -/
def Bound.Alike (x y : Bound) : Prop :=
  compare x.value y.value = .eq ∧ x.inclusive = y.inclusive

theorem Number.compare_congr {x x' y y' : Number} (hx : Ord.compare x x' = .eq)
    (hy : Ord.compare y y' = .eq) : Ord.compare x y = Ord.compare x' y' := by
  rw [Std.TransCmp.congr_left hx, Std.TransCmp.congr_right hy]

theorem Side.order_congr {side : Side} {x x' y y' : Number} (hx : compare x x' = .eq)
    (hy : compare y y' = .eq) : side.order x y = side.order x' y' := by
  cases side with
  | low => exact Number.compare_congr hx hy
  | high => exact Number.compare_congr hy hx

/-- The tighter of two ends is the same one, whichever way they are written. -/
theorem Side.rel_tighter (side : Side) {a a' b b' : Option Bound} (ha : Option.Rel Bound.Alike a a')
    (hb : Option.Rel Bound.Alike b b') :
    Option.Rel Bound.Alike (side.tighter a b) (side.tighter a' b') := by
  cases ha with
  | none =>
      cases hb with
      | none => exact .none
      | some same => exact .some same
  | @some x x' hx =>
      cases hb with
      | none => exact .some hx
      | @some y y' hy =>
          simp only [tighter, order_congr hx.1 hy.1, hx.2]
          split
          · exact .some hx
          · exact .some hy
          · split
            · exact .some hy
            · exact .some hx

namespace Interval

/-- Two intervals have ends that are alike, and exclude equal numbers. -/
structure Alike (i j : Interval) : Prop where
  low : Option.Rel Bound.Alike i.low j.low
  high : Option.Rel Bound.Alike i.high j.high
  excluded : Option.Rel (fun p q => compare p q = .eq) i.excluded j.excluded

theorem alike_ofValue (op : Comparison) {x y : Number} (same : compare x y = .eq) :
    (ofValue op x).Alike (ofValue op y) := by
  cases op with
  | lt | le => exact ⟨.none, .some ⟨same, rfl⟩, .none⟩
  | gt | ge => exact ⟨.some ⟨same, rfl⟩, .none, .none⟩
  | eq => exact ⟨.some ⟨same, rfl⟩, .some ⟨same, rfl⟩, .none⟩
  | ne => exact ⟨.none, .none, .some same⟩

theorem Alike.excluded_eq {i j : Interval} {m n : Number} (h : i.Alike j)
    (same : compare m n = .eq) : (i.excluded == some m) = (j.excluded == some n) := by
  rw [Bool.eq_iff_iff, excluded_eq_some_iff, excluded_eq_some_iff]
  have holes := h.excluded
  generalize i.excluded = p at holes ⊢
  generalize j.excluded = q at holes ⊢
  cases holes with
  | none => simp
  | some equal => simp [Number.compare_congr equal same]

/-- Whether intervals intersect does not depend on how their ends are written. -/
theorem intersects_congr {i i' j j' : Interval} (hi : i.Alike i') (hj : j.Alike j') :
    i.intersects j = i'.intersects j' := by
  have lows := Side.low.rel_tighter hi.low hj.low
  have highs := Side.high.rel_tighter hi.high hj.high
  unfold intersects
  generalize Side.low.tighter i.low j.low = l at lows ⊢
  generalize Side.low.tighter i'.low j'.low = l' at lows ⊢
  generalize Side.high.tighter i.high j.high = h at highs ⊢
  generalize Side.high.tighter i'.high j'.high = h' at highs ⊢
  cases lows with
  | none => rfl
  | some low =>
      cases highs with
      | none => rfl
      | some high =>
          simp only [Number.compare_congr low.1 high.1, low.2, high.2, hi.excluded_eq low.1,
            hj.excluded_eq low.1]

end Interval

end ProvenShapes
