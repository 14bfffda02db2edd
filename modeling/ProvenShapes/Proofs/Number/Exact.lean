/-
**Numbers as rationals.**

A 64-bit integer is itself, and a finite double is `± mantissa * 2 ^ (shift - 1074)`.  With the
infinities at both ends the numbers other than not-a-number are extended rationals.  They are compared
as such, whichever way they are written; in particular an integer that no double can hold is told apart
from the doubles beside it.

Main definitions:

* `Double.toRat`, `Number.toRat` — the exact value of a finite number;
* `Number.value` — the exact value among the extended rationals.

Main results:

* `Number.place_snd_eq` — places count the exact value in units;
* `Number.compare_eq_cmp_toRat` — finite numbers are compared as rationals;
* `Number.compare_eq_cmp_value` — **numbers are compared as extended rationals**.
-/

import Mathlib
import ProvenShapes.Proofs.Number.Order

set_option autoImplicit false

namespace ProvenShapes

/-- The exact value of a finite double. -/
def Double.toRat : Double → ℚ
  | finite negative mantissa shift _ =>
      (if negative then -1 else 1) * mantissa * 2 ^ ((shift : ℤ) - 1074)
  | _ => 0

theorem Double.one_eq : one = 2 ^ 1074 := Nat.one_shiftLeft 1074

namespace Number

/-- The exact value of a finite number. -/
def toRat : Number → ℚ
  | int n => n.toInt
  | float d => d.toRat

/-- The exact value of a number among the extended rationals. -/
def value : Number → WithBot (WithTop ℚ)
  | float (.infinite true) => ⊥
  | float (.infinite false) => ⊤
  | n => ((n.toRat : WithTop ℚ) : WithBot (WithTop ℚ))

/-- The factor between a double and its units. -/
theorem zpow_sub_mul_eq {unit k : ℕ} (h : unit = 2 ^ k) (shift : ℕ) :
    (2 : ℚ) ^ ((shift : ℤ) - k) * unit = 2 ^ shift := by
  rw [h, Nat.cast_pow, Nat.cast_ofNat, ← zpow_natCast, ← zpow_natCast, ← zpow_add₀ (by norm_num),
    sub_add_cancel]

/-- The place of a finite number counts its exact value in units. -/
theorem place_snd_eq {n : Number} (finite : n.isFinite = true) :
    (n.place.2 : ℚ) = n.toRat * Double.one := by
  cases n with
  | int n => simp [place, toRat]
  | float d =>
      cases d with
      | finite negative mantissa shift canonical =>
          have factor : (2 : ℚ) ^ ((shift : ℤ) - (1074 : ℕ)) * Double.one = 2 ^ shift :=
            zpow_sub_mul_eq (k := 1074) Double.one_eq shift
          have size : ((mantissa <<< shift : ℕ) : ℚ) = mantissa * 2 ^ shift := by
            rw [Nat.shiftLeft_eq, Nat.cast_mul, Nat.cast_pow, Nat.cast_ofNat]
          rw [toRat, Double.toRat, mul_assoc, ← Nat.cast_ofNat (R := ℤ) (n := 1074), factor, mul_assoc,
            ← size]
          cases negative with
          | false =>
              change (((mantissa <<< shift : ℕ) : ℤ) : ℚ) = _
              rw [Int.cast_natCast, if_neg Bool.false_ne_true, one_mul]
          | true =>
              change ((-((mantissa <<< shift : ℕ) : ℤ) : ℤ) : ℚ) = _
              rw [Int.cast_neg, Int.cast_natCast, if_pos rfl, neg_one_mul]
      | infinite | nan => simp [isFinite, Double.isFinite] at finite

theorem place_fst_eq_one {n : Number} (finite : n.isFinite = true) : n.place.1 = 1 := by
  cases n with
  | int n => rfl
  | float d =>
      cases d with
      | finite => rfl
      | infinite | nan => simp [isFinite, Double.isFinite] at finite

variable {a b : Number}

theorem place_snd_lt_iff (ha : a.isFinite = true) (hb : b.isFinite = true) :
    a.place.2 < b.place.2 ↔ a.toRat < b.toRat := by
  have unit : (0 : ℚ) < Double.one := by exact_mod_cast Double.one_pos
  rw [← Int.cast_lt (R := ℚ), place_snd_eq ha, place_snd_eq hb, mul_lt_mul_iff_left₀ unit]

/-- Finite numbers are compared as rationals. -/
theorem compare_eq_cmp_toRat (ha : a.isFinite = true) (hb : b.isFinite = true) :
    Ord.compare a b = cmp a.toRat b.toRat := by
  have less := place_snd_lt_iff ha hb
  have more := place_snd_lt_iff hb ha
  rw [compare_eq_places, place_fst_eq_one ha, place_fst_eq_one hb]
  change Ord.compare a.place.2 b.place.2 = _
  rcases lt_trichotomy a.toRat b.toRat with lt | eq | gt
  · rw [(cmp_eq_lt_iff _ _).2 lt, Int.compare_eq_lt]
    exact less.2 lt
  · have same : a.place.2 = b.place.2 := by
      have notLess := less.not.2 eq.not_lt
      have notMore := more.not.2 eq.not_gt
      omega
    rw [(cmp_eq_eq_iff _ _).2 eq, Int.compare_eq_eq, same]
  · rw [(cmp_eq_gt_iff _ _).2 gt, Int.compare_eq_gt]
    exact more.2 gt

/-! ### Extended rationals -/

theorem value_of_isFinite (finite : a.isFinite = true) :
    a.value = ((a.toRat : WithTop ℚ) : WithBot (WithTop ℚ)) := by
  cases a with
  | int n => rfl
  | float d =>
      cases d with
      | finite => rfl
      | infinite | nan => simp [isFinite, Double.isFinite] at finite

/-- A number that is not finite is one of the infinities. -/
theorem eq_infinite_of_not_isFinite (number : a.isNaN = false) (infinite : a.isFinite = false) :
    a = float (.infinite true) ∨ a = float (.infinite false) := by
  cases a with
  | int n => simp [isFinite] at infinite
  | float d =>
      cases d with
      | finite => simp [isFinite, Double.isFinite] at infinite
      | infinite negative => cases negative <;> simp
      | nan => simp [isNaN, Double.isNaN] at number

/-- An infinity is compared to every number as an extended rational. -/
theorem compare_infinite_eq_cmp (negative : Bool) (hb : b.isNaN = false) :
    Ord.compare (float (.infinite negative)) b = cmp (float (.infinite negative)).value b.value := by
  by_cases finite : b.isFinite = true
  · have here := place_fst_eq_one finite
    rw [value_of_isFinite finite]
    cases negative with
    | true =>
        have less : Ord.compare (float (.infinite true)) b = .lt :=
          compare_eq_lt_iff.2 (.inl (by rw [here]; decide))
        rw [less, (cmp_eq_lt_iff _ _).2 (WithBot.bot_lt_coe _)]
    | false =>
        have more : Ord.compare (float (.infinite false)) b = .gt :=
          compare_eq_gt_iff.2 (.inl (by rw [here]; decide))
        have above : ((b.toRat : WithTop ℚ) : WithBot (WithTop ℚ)) < ⊤ :=
          WithBot.coe_lt_coe.2 (WithTop.coe_lt_top _)
        exact more.trans ((cmp_eq_gt_iff _ _).2 above).symm
  · obtain rfl | rfl := eq_infinite_of_not_isFinite hb (by simpa using finite)
    · cases negative with
      | true => exact (cmp_self_eq_eq _).symm
      | false => exact ((cmp_eq_gt_iff _ _).2 bot_lt_top).symm
    · cases negative with
      | true => exact ((cmp_eq_lt_iff _ _).2 bot_lt_top).symm
      | false => exact (cmp_self_eq_eq _).symm

/-- **Numbers are compared as extended rationals.** -/
theorem compare_eq_cmp_value (ha : a.isNaN = false) (hb : b.isNaN = false) :
    Ord.compare a b = cmp a.value b.value := by
  have swapped : ∀ {x y : Number}, Ord.compare x y = cmp x.value y.value →
      Ord.compare y x = cmp y.value x.value := by
    intro x y h
    rw [Std.OrientedOrd.eq_swap, h, cmp_swap]
  by_cases finite : a.isFinite = true
  · by_cases finite' : b.isFinite = true
    · have embeds : StrictMono fun q : ℚ => ((q : WithTop ℚ) : WithBot (WithTop ℚ)) :=
        WithBot.coe_strictMono.comp WithTop.coe_strictMono
      rw [compare_eq_cmp_toRat finite finite', value_of_isFinite finite, value_of_isFinite finite']
      exact (embeds.cmp_map_eq a.toRat b.toRat).symm
    · obtain rfl | rfl := eq_infinite_of_not_isFinite hb (by simpa using finite')
      · exact swapped (compare_infinite_eq_cmp true ha)
      · exact swapped (compare_infinite_eq_cmp false ha)
  · obtain rfl | rfl := eq_infinite_of_not_isFinite ha (by simpa using finite)
    · exact compare_infinite_eq_cmp true hb
    · exact compare_infinite_eq_cmp false hb

end Number

end ProvenShapes
