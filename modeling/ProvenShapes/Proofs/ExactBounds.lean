/-
**Comparisons with finite bounds, decided on intervals.**

A comparison with a finite bound is satisfied by a set of rationals: a half-line, a point, or all
rationals but one.  The interval of the comparison contains just these, so two questions about sets of
rationals are asked of intervals: whether one lies in another, and whether two have a common point.
Both are answered exactly.  A missed common point would have to be the only one, and between two
different ends there is always room for a rational that avoids the excluded points.

Main definitions:

* `Comparison.Holds` — a comparison, as a relation;
* `Side.Inside`, `Interval.Contains` — the rationals that an end admits, and those of an interval;
* `Interval.Bounded` — the ends and the excluded point are finite.

Main results:

* `Interval.contains_ofValue` — the interval of a comparison contains what compares so;
* `Interval.intersects_iff` — **intervals intersect exactly when they have a common rational**;
* `Interval.isWithin_iff_forall` — an interval with points below and above lies within another exactly
  when the other contains its points;
* `Interval.ofValue_exact` — **implication and contradiction of comparisons are decided exactly**.
-/

import Mathlib
import ProvenShapes.Proofs.Interval
import ProvenShapes.Proofs.Number.Exact

set_option autoImplicit false

namespace ProvenShapes

/-- The comparison holds between two members of a linear order. -/
def Comparison.Holds {α : Type} [LinearOrder α] : Comparison → α → α → Prop
  | lt, x, y => x < y
  | le, x, y => x ≤ y
  | gt, x, y => y < x
  | ge, x, y => y ≤ x
  | eq, x, y => x = y
  | ne, x, y => x ≠ y

/-! ### The rationals that an end admits -/

namespace Side

/-- Upper ends are lower ends of the rationals turned round. -/
def turn : Side → ℚ → ℚ
  | low, x => x
  | high, x => -x

/-- The rational lies inwards from an end, or is an end that belongs to the interval. -/
def Inside (side : Side) : Option Bound → ℚ → Prop
  | none, _ => True
  | some b, x =>
      if b.inclusive then side.turn b.value.toRat ≤ side.turn x
      else side.turn b.value.toRat < side.turn x

variable {side : Side} {a b : Option Bound} {x y : ℚ}

@[simp]
theorem turn_turn (side : Side) (x : ℚ) : side.turn (side.turn x) = x := by
  cases side with
  | low => rfl
  | high => exact neg_neg x

theorem turn_inj : side.turn x = side.turn y ↔ x = y :=
  (Function.LeftInverse.injective (turn_turn side)).eq_iff

/-- Finite numbers are ordered from a side as their values are. -/
theorem order_eq_cmp {m n : Number} (hm : m.isFinite = true) (hn : n.isFinite = true) :
    side.order m n = cmp (side.turn m.toRat) (side.turn n.toRat) := by
  cases side with
  | low => exact Number.compare_eq_cmp_toRat hm hn
  | high =>
      rw [order, Number.compare_eq_cmp_toRat hn hm]
      exact (StrictAnti.cmp_map_eq (fun _ _ less => neg_lt_neg less) ..).symm

theorem Inside.mono (h : side.Inside a x) (le : side.turn x ≤ side.turn y) : side.Inside a y := by
  cases a with
  | none => trivial
  | some e =>
      cases closed : e.inclusive <;> simp only [Inside, closed] at h ⊢
      · exact lt_of_lt_of_le h le
      · exact le_trans h le

theorem Inside.le {e : Bound} (h : side.Inside (some e) x) :
    side.turn e.value.toRat ≤ side.turn x := by
  cases closed : e.inclusive <;> simp only [Inside, closed] at h
  · exact le_of_lt h
  · exact h

theorem inside_of_lt {e : Bound} (h : side.turn e.value.toRat < side.turn x) :
    side.Inside (some e) x := by
  cases closed : e.inclusive <;> simp only [Inside, closed]
  · exact h
  · exact le_of_lt h

/-- An end admits itself just when it is closed. -/
theorem inside_self_iff {e : Bound} : side.Inside (some e) e.value.toRat ↔ e.inclusive = true := by
  cases closed : e.inclusive <;> simp [Inside, closed]

/-- The end is missing or finite. -/
def FiniteEnd (e : Option Bound) : Prop := ∀ b, e = some b → b.value.isFinite = true

/-- Of finite numbers an end admits those whose values lie inside. -/
theorem admits_iff_inside {p : Number} (ha : FiniteEnd a) (hp : p.isFinite = true) :
    side.admits a p = true ↔ side.Inside a p.toRat := by
  cases a with
  | none => simp [admits, Inside]
  | some e =>
      cases closed : e.inclusive <;>
        simp [admits, Inside, closed, order_eq_cmp hp (ha e rfl), cmp_eq_lt_iff, cmp_eq_gt_iff]

/-! ### Ends within ends -/

/-- An end lies within another exactly when the other admits what it admits. -/
theorem within_iff_forall (ha : FiniteEnd a) (hb : FiniteEnd b) :
    side.within a b = true ↔ ∀ x, side.Inside a x → side.Inside b x := by
  cases b with
  | none => cases a <;> simp [within, Inside]
  | some f =>
      cases a with
      | none =>
          refine iff_of_false Bool.false_ne_true fun all => ?_
          -- a point further out than the end
          have := (all (side.turn (side.turn f.value.toRat - 1)) trivial).le
          rw [turn_turn] at this
          linarith
      | some e =>
          rw [within_some_iff, order_eq_cmp (ha e rfl) (hb f rfl), cmp_eq_gt_iff, cmp_eq_eq_iff]
          constructor
          · rintro (lt | ⟨eq, ends⟩) x inside
            · exact inside_of_lt (lt_of_lt_of_le lt inside.le)
            · rcases ends with closed | opened
              · simpa [Inside, closed, eq] using inside.le
              · exact inside_of_lt (by simpa [Inside, opened, eq] using inside)
          · intro all
            rcases lt_trichotomy (side.turn e.value.toRat) (side.turn f.value.toRat) with lt | eq | gt
            · -- a point between the two ends is inside the first one only
              obtain ⟨x, left, right⟩ := exists_between lt
              have inside := all (side.turn x) (inside_of_lt (by rwa [turn_turn]))
              have beyond := inside.le
              rw [turn_turn] at beyond
              exact absurd beyond (not_le.2 right)
            · refine .inr ⟨eq, ?_⟩
              cases closed : e.inclusive with
              | false => exact .inr rfl
              | true =>
                  have same := turn_inj.1 eq
                  exact .inl (inside_self_iff.1 (same ▸ all _ (inside_self_iff.2 closed)))
            · exact .inl gt

/-- The tighter of two ends lies within both. -/
theorem tighter_within (side : Side) (a b : Option Bound) :
    side.within (side.tighter a b) a = true ∧ side.within (side.tighter a b) b = true := by
  cases a with
  | none => cases b <;> simp [tighter, within]
  | some e =>
      cases b with
      | none => simp [tighter, within]
      | some f =>
          have swap : side.order f.value e.value = (side.order e.value f.value).swap :=
            Std.OrientedCmp.eq_swap
          cases order : side.order e.value f.value <;> rw [order] at swap <;>
            cases closed : e.inclusive <;> simp [tighter, within, order, swap, closed]

theorem finiteEnd_tighter (ha : FiniteEnd a) (hb : FiniteEnd b) : FiniteEnd (side.tighter a b) := by
  rcases tighter_eq_or side a b with eq | eq <;> rwa [eq]

/-- The tighter of two ends admits what both admit. -/
theorem inside_tighter (ha : FiniteEnd a) (hb : FiniteEnd b) :
    side.Inside (side.tighter a b) x ↔ side.Inside a x ∧ side.Inside b x := by
  have finite : FiniteEnd (side.tighter a b) := finiteEnd_tighter ha hb
  have within := tighter_within side a b
  constructor
  · intro inside
    exact ⟨(within_iff_forall finite ha).1 within.1 x inside,
      (within_iff_forall finite hb).1 within.2 x inside⟩
  · rintro ⟨insideA, insideB⟩
    rcases tighter_eq_or side a b with eq | eq <;> rwa [eq]

end Side

/-! ### The rationals of an interval -/

namespace Interval

/-- The rational lies between the ends and is not the excluded one. -/
def Contains (i : Interval) (x : ℚ) : Prop :=
  (∀ side : Side, side.Inside (i.endAt side) x) ∧ ∀ p, i.excluded = some p → x ≠ p.toRat

/-- The ends and the excluded point are missing or finite. -/
structure Bounded (i : Interval) : Prop where
  ends : ∀ side : Side, Side.FiniteEnd (i.endAt side)
  excluded : ∀ p, i.excluded = some p → p.isFinite = true

variable {i j : Interval} {x : ℚ}

theorem Bounded.low (h : i.Bounded) : Side.FiniteEnd i.low := h.ends .low

theorem Bounded.high (h : i.Bounded) : Side.FiniteEnd i.high := h.ends .high

theorem contains_iff :
    i.Contains x ↔ Side.low.Inside i.low x ∧ Side.high.Inside i.high x ∧
      ∀ p, i.excluded = some p → x ≠ p.toRat := by
  rw [Contains, Side.forall_iff, and_assoc]
  rfl

/-- The interval of a comparison contains exactly the rationals that compare so. -/
theorem contains_ofValue {op : Comparison} {bound : Number} :
    (ofValue op bound).Contains x ↔ op.Holds x bound.toRat := by
  rw [contains_iff]
  cases op with
  | eq =>
      have both : bound.toRat ≤ x ∧ x ≤ bound.toRat ↔ x = bound.toRat := by
        rw [and_comm, le_antisymm_iff]
      simpa [ofValue, closed, Side.Inside, Side.turn, Comparison.Holds] using both
  | lt | le | gt | ge | ne =>
      simp [ofValue, opened, closed, Side.Inside, Side.turn, Comparison.Holds]

theorem bounded_ofValue {op : Comparison} {bound : Number} (h : bound.isFinite = true) :
    (ofValue op bound).Bounded := by
  refine ⟨?_, ?_⟩
  · intro side
    cases op <;> cases side <;>
      simp [Side.FiniteEnd, endAt, ofValue, opened, closed, h]
  · cases op <;> simp [ofValue, h]

/-! ### Common points -/

/-- Between ends of which one is missing, or the lower one is less, there is an open interval. -/
theorem exists_room {low high : Option Bound}
    (apart : ∀ l h, low = some l → high = some h → l.value.toRat < h.value.toRat) :
    ∃ u v, u < v ∧ ∀ x, u < x → x < v → Side.low.Inside low x ∧ Side.high.Inside high x := by
  cases low with
  | none =>
      cases high with
      | none => exact ⟨0, 1, one_pos, fun x _ _ => ⟨trivial, trivial⟩⟩
      | some h =>
          exact ⟨h.value.toRat - 1, h.value.toRat, sub_one_lt _,
            fun x _ right => ⟨trivial, Side.inside_of_lt (neg_lt_neg right)⟩⟩
  | some l =>
      cases high with
      | none =>
          exact ⟨l.value.toRat, l.value.toRat + 1, lt_add_one _,
            fun x left _ => ⟨Side.inside_of_lt left, trivial⟩⟩
      | some h =>
          exact ⟨l.value.toRat, h.value.toRat, apart l h rfl rfl,
            fun x left right => ⟨Side.inside_of_lt left, Side.inside_of_lt (neg_lt_neg right)⟩⟩

/-- An open interval has points that two intervals do not exclude. -/
theorem exists_not_excluded (i j : Interval) {u v : ℚ} (lt : u < v) :
    ∃ x, u < x ∧ x < v ∧ (∀ p, i.excluded = some p → x ≠ p.toRat) ∧
      ∀ p, j.excluded = some p → x ≠ p.toRat := by
  let hole (k : Interval) : ℚ := (k.excluded.map Number.toRat).getD 0
  obtain ⟨x, ⟨left, right⟩, avoids⟩ :=
    (Set.Ioo_infinite lt).exists_notMem_finset {hole i, hole j}
  simp only [Finset.mem_insert, Finset.mem_singleton, not_or] at avoids
  refine ⟨x, left, right, ?_, ?_⟩
  · intro p excluded
    simpa [hole, excluded] using avoids.1
  · intro p excluded
    simpa [hole, excluded] using avoids.2

theorem excluded_eq_false_iff (hi : i.Bounded) {p : Number} (hp : p.isFinite = true) :
    (i.excluded == some p) = false ↔ ∀ q, i.excluded = some q → p.toRat ≠ q.toRat := by
  rw [← Bool.not_eq_true, excluded_eq_some_iff]
  simp only [not_exists, not_and]
  refine forall_congr' fun q => forall_congr' fun excluded => ?_
  rw [Number.compare_eq_cmp_toRat (hi.excluded q excluded) hp, cmp_eq_eq_iff, ne_comm]

/-- Two intervals contain what lies between their tighter ends and what neither excludes. -/
theorem contains_both_iff (hi : i.Bounded) (hj : j.Bounded) :
    i.Contains x ∧ j.Contains x ↔
      (Side.low.Inside (Side.low.tighter i.low j.low) x ∧
        Side.high.Inside (Side.high.tighter i.high j.high) x) ∧
        (∀ p, i.excluded = some p → x ≠ p.toRat) ∧ ∀ p, j.excluded = some p → x ≠ p.toRat := by
  rw [Side.inside_tighter hi.low hj.low, Side.inside_tighter hi.high hj.high, contains_iff,
    contains_iff]
  tauto

/-- **Intervals intersect exactly when they have a common rational.** -/
theorem intersects_iff (hi : i.Bounded) (hj : j.Bounded) :
    i.intersects j = true ↔ ∃ x, i.Contains x ∧ j.Contains x := by
  have finiteLow : Side.FiniteEnd (Side.low.tighter i.low j.low) :=
    Side.finiteEnd_tighter hi.low hj.low
  have finiteHigh : Side.FiniteEnd (Side.high.tighter i.high j.high) :=
    Side.finiteEnd_tighter hi.high hj.high
  simp only [contains_both_iff hi hj, intersects_iff_ends]
  generalize Side.low.tighter i.low j.low = low at finiteLow
  generalize Side.high.tighter i.high j.high = high at finiteHigh
  constructor
  · intro ends
    by_cases apart : ∀ l h, low = some l → high = some h → l.value.toRat < h.value.toRat
    · obtain ⟨u, v, lt, inside⟩ := exists_room apart
      obtain ⟨x, left, right, keptI, keptJ⟩ := exists_not_excluded i j lt
      exact ⟨x, inside x left right, keptI, keptJ⟩
    · -- the ends meet in a point, which is the common one
      push Not at apart
      obtain ⟨l, h, rfl, rfl, le⟩ := apart
      have fl := finiteLow l rfl
      have fh := finiteHigh h rfl
      have meets := ends l h rfl rfl
      rw [Number.compare_eq_cmp_toRat fl fh, cmp_eq_lt_iff, cmp_eq_eq_iff] at meets
      obtain ⟨eq, closedLow, closedHigh, keptI, keptJ⟩ := meets.resolve_left (not_lt.2 le)
      have above : Side.low.Inside (some l) l.value.toRat := Side.inside_self_iff.2 closedLow
      have below : Side.high.Inside (some h) h.value.toRat := Side.inside_self_iff.2 closedHigh
      refine ⟨l.value.toRat, ⟨above, eq ▸ below⟩, ?_, ?_⟩
      · exact (excluded_eq_false_iff hi fl).1 keptI
      · exact (excluded_eq_false_iff hj fl).1 keptJ
  · rintro ⟨x, ⟨above, below⟩, keptI, keptJ⟩ l h rfl rfl
    have fl := finiteLow l rfl
    have fh := finiteHigh h rfl
    rw [Number.compare_eq_cmp_toRat fl fh, cmp_eq_lt_iff, cmp_eq_eq_iff]
    have least : l.value.toRat ≤ x := above.le
    have most : x ≤ h.value.toRat := neg_le_neg_iff.1 below.le
    rcases lt_or_eq_of_le (le_trans least most) with lt | eq
    · exact .inl lt
    · obtain rfl : x = l.value.toRat := le_antisymm (eq ▸ most) least
      refine .inr ⟨eq, Side.inside_self_iff.1 above, Side.inside_self_iff.1 (eq ▸ below), ?_, ?_⟩
      · exact (excluded_eq_false_iff hi fl).2 keptI
      · exact (excluded_eq_false_iff hj fl).2 keptJ

/-! ### One interval within another -/

/-- When one interval lies within another, it does not contain the other's excluded point. -/
theorem isWithin_iff_ends (hi : i.Bounded) (hj : j.Bounded) :
    i.isWithin j = true ↔
      (∀ p, j.excluded = some p → ¬i.Contains p.toRat) ∧
        ∀ side : Side, side.within (i.endAt side) (j.endAt side) = true := by
  rw [isWithin_iff]
  refine and_congr_left fun _ => forall_congr' fun p => forall_congr' fun excluded => ?_
  have finite := hj.excluded p excluded
  have inside (side : Side) :
      side.admits (i.endAt side) p = true ↔ side.Inside (i.endAt side) p.toRat :=
    Side.admits_iff_inside (hi.ends side) finite
  simp only [inside]
  rw [← excluded_eq_some_iff, ← Bool.not_eq_false, excluded_eq_false_iff hi finite]
  unfold Contains
  tauto

/-- An interval that has, on each side, a point from which it reaches out to its end, past its
excluded point, lies within another exactly when the other contains its points. -/
theorem isWithin_iff_forall (hi : i.Bounded) (hj : j.Bounded)
    (reaches : ∀ side : Side, ∃ z, side.Inside (i.endAt side) z ∧
      ∀ x, side.turn x ≤ side.turn z → side.Inside (i.endAt side) x → i.Contains x) :
    i.isWithin j = true ↔ ∀ x, i.Contains x → j.Contains x := by
  rw [isWithin_iff_ends hi hj]
  constructor
  · rintro ⟨hole, ends⟩ x inside
    refine ⟨fun side => ?_, ?_⟩
    · exact (Side.within_iff_forall (hi.ends side) (hj.ends side)).1 (ends side) x (inside.1 side)
    · rintro p excluded rfl
      exact hole p excluded inside
  · intro all
    refine ⟨?_, fun side => ?_⟩
    · intro p excluded inside
      exact (all _ inside).2 p excluded rfl
    · obtain ⟨z, hz, out⟩ := reaches side
      refine (Side.within_iff_forall (hi.ends side) (hj.ends side)).2 fun x hx => ?_
      -- of the two points the outer one is in the interval
      rcases le_total (side.turn x) (side.turn z) with le | le
      · exact (all x (out x le hx)).1 side
      · exact ((all z (out z le_rfl hz)).1 side).mono le

/-- On each side, a comparison holds from some point out to the end of its interval. -/
theorem exists_reach (op : Comparison) (bound : Number) (side : Side) :
    ∃ z, side.Inside ((ofValue op bound).endAt side) z ∧
      ∀ x, side.turn x ≤ side.turn z → side.Inside ((ofValue op bound).endAt side) x →
        (ofValue op bound).Contains x := by
  simp only [contains_ofValue]
  cases side with
  | low =>
      cases op with
      | lt | le | ne =>
          refine ⟨bound.toRat - 1, trivial, fun x le _ => ?_⟩
          have less : x < bound.toRat := lt_of_le_of_lt le (sub_one_lt _)
          simp [Comparison.Holds, less, less.le, less.ne]
      | gt | ge =>
          exact ⟨bound.toRat + 1, Side.inside_of_lt (lt_add_one _), fun x _ inside => inside⟩
      | eq => exact ⟨bound.toRat, Side.inside_self_iff.2 rfl, fun x le ge => le_antisymm le ge⟩
  | high =>
      cases op with
      | gt | ge | ne =>
          refine ⟨bound.toRat + 1, trivial, fun x le _ => ?_⟩
          have more : bound.toRat < x := lt_of_lt_of_le (lt_add_one _) (neg_le_neg_iff.1 le)
          simp [Comparison.Holds, more, more.le, more.ne']
      | lt | le =>
          refine ⟨bound.toRat - 1, Side.inside_of_lt (neg_lt_neg (sub_one_lt _)), ?_⟩
          intro x _ inside
          simpa [endAt, ofValue, opened, closed, Side.Inside, Side.turn, Comparison.Holds]
            using inside
      | eq =>
          refine ⟨bound.toRat, Side.inside_self_iff.2 rfl, fun x le ge => ?_⟩
          exact le_antisymm (neg_le_neg_iff.1 ge) (neg_le_neg_iff.1 le)

/-- **Comparisons with finite bounds are reasoned about exactly.**  One interval lies within the other
just when every rational that satisfies the first comparison satisfies the second; the intervals do
not intersect just when no rational satisfies both. -/
theorem ofValue_exact (o₁ o₂ : Comparison) (b₁ b₂ : Number) (h₁ : b₁.isFinite = true)
    (h₂ : b₂.isFinite = true) :
    ((ofValue o₁ b₁).isWithin (ofValue o₂ b₂) = true ↔
      ∀ x : ℚ, o₁.Holds x b₁.toRat → o₂.Holds x b₂.toRat) ∧
    ((ofValue o₁ b₁).intersects (ofValue o₂ b₂) = false ↔
      ¬∃ x : ℚ, o₁.Holds x b₁.toRat ∧ o₂.Holds x b₂.toRat) := by
  have bounded₁ : (ofValue o₁ b₁).Bounded := bounded_ofValue h₁
  have bounded₂ : (ofValue o₂ b₂).Bounded := bounded_ofValue h₂
  constructor
  · rw [isWithin_iff_forall bounded₁ bounded₂ (exists_reach o₁ b₁)]
    simp only [contains_ofValue]
  · rw [← Bool.not_eq_true, intersects_iff bounded₁ bounded₂]
    simp only [contains_ofValue]

/-- Being equal to the double `2 ^ 53` is in conflict with being equal to the integer `2 ^ 53 + 1`. -/
theorem ofValue_exact_past_mantissa :
    (Number.float (.ofInt 9007199254740992)).isFinite = true ∧
      (Number.int 9007199254740993).isFinite = true ∧
      (ofValue .eq (.float (.ofInt 9007199254740992))).intersects
        (ofValue .eq (.int 9007199254740993)) = false ∧
      ¬∃ x : ℚ, Comparison.eq.Holds x (Number.float (.ofInt 9007199254740992)).toRat ∧
        Comparison.eq.Holds x (Number.int 9007199254740993).toRat := by
  have finite : (Number.float (.ofInt 9007199254740992)).isFinite = true := by decide +kernel
  have apart : (ofValue .eq (.float (.ofInt 9007199254740992))).intersects
      (ofValue .eq (.int 9007199254740993)) = false := by decide +kernel
  exact ⟨finite, rfl, apart, (ofValue_exact .eq .eq _ _ finite rfl).2.1 apart⟩

end Interval

end ProvenShapes
