/-
**Reading a displayed number.**

A number is displayed without an exponent, and a double beyond `2 ^ 53` is displayed with its shortest
digits and zeros after them.  Such a text has no point, so it is read as an integer where it fits 64
bits.  That integer is the double only if the zeros happen to be its digits: the digits lie in the
window of the double, and there is more than one integer in it.  Every other number is read back.

Main definitions:

* `Number.spelled` — the integer that digits with zeros after them spell;
* `Number.Misread` — a double beyond `2 ^ 53` that is displayed as another 64-bit integer.

Main results:

* `Number.readInt?_text`, `Number.readDouble?_text` — how a numeral with a sign is read;
* `Number.mul_one_eq_of_shift_le` — up to `2 ^ 53` shortest digits without a point are exact;
* `Number.display_reads_back` — **a displayed number is read back, misread doubles apart**.
-/

import Mathlib
import ProvenShapes.Proofs.Number.Numeral
import ProvenShapes.Proofs.Orders

set_option autoImplicit false

namespace ProvenShapes.Number

/-! ### Numerals with a sign -/

theorem spanSign_signText (negative : Bool) {cs : List Char}
    (digit : ∃ c rest, cs = c :: rest ∧ c.isDigit = true) :
    spanSign (signText negative ++ cs) = (negative, cs) := by
  obtain ⟨c, rest, rfl, digit⟩ := digit
  cases negative with
  | false => exact spanSign_of_isDigit digit rest
  | true => rfl

/-- A numeral is read as an integer if it is whole. -/
theorem readInt?_text (negative : Bool) {n : Numeral} (whole : n.IsWhole) :
    readInt? (signText negative ++ n.text) =
      some (if negative then -(natOfDigits n.whole : ℤ) else natOfDigits n.whole) := by
  have sign := spanSign_signText negative n.head?_text
  rw [Numeral.text_of_isWhole whole] at sign ⊢
  exact readInt?_of_spanSign sign n.digits_whole n.whole_ne_nil

theorem readInt?_text_eq_none (negative : Bool) {n : Numeral} (marked : ¬ n.IsWhole) :
    readInt? (signText negative ++ n.text) = none := by
  have mark : n.text.all Char.isDigit = false := by
    rw [List.all_eq_false]
    cases places : n.places with
    | some ds => exact ⟨'.', by simp [Numeral.text, Numeral.placesText, places], by decide⟩
    | none =>
        cases exponent : n.exponent with
        | some e => exact ⟨'e', by simp [Numeral.text, Numeral.exponentText, exponent], by decide⟩
        | none => exact absurd ⟨places, exponent⟩ marked
  simp [readInt?, spanSign_signText negative n.head?_text, mark]

theorem readDouble?_text (negative : Bool) (n : Numeral) :
    readDouble? (signText negative ++ n.text) =
      some (.ofDecimal negative n.value.digits n.value.exponent) := by
  simp only [readDouble?, spanSign_signText negative n.head?_text, readMagnitude?_text]

/-- The text of an integer is read as the integer. -/
theorem readInt?_intText (i : ℤ) : readInt? (intText i) = some i := by
  have digits : natOfDigits (Numeral.ofNat i.natAbs).whole = i.natAbs := natOfDigits_toDigits _
  rw [intText_eq, readInt?_text _ (Numeral.isWhole_ofNat _), digits]
  congr 1
  by_cases negative : i < 0
  · rw [if_pos (decide_eq_true negative)]
    omega
  · rw [if_neg (by simp [negative])]
    omega

/-! ### Doubles without a point -/

/-- The integer that digits with zeros after them spell. -/
def spelled (negative : Bool) (d : Double.Digits) : ℤ :=
  if negative then -(d.digits * 10 ^ d.exponent.toNat) else d.digits * 10 ^ d.exponent.toNat

theorem spelled_mul_one_eq_iff {negative : Bool} {d : Double.Digits} {size : ℕ} :
    spelled negative d * Double.one = (if negative then -(size : ℤ) else size) ↔
      d.digits * 10 ^ d.exponent.toNat * Double.one = size := by
  cases negative with
  | false =>
      simp only [spelled, Bool.false_eq_true, if_false]
      exact_mod_cast Iff.rfl
  | true =>
      simp only [spelled, if_true, neg_mul, neg_inj]
      exact_mod_cast Iff.rfl

/-- Where doubles lie at most one apart, shortest digits without a point are exact. -/
theorem mul_one_eq_of_shift_le {mantissa shift : ℕ} (pos : mantissa ≠ 0) (few : mantissa < 1 <<< 53)
    (fine : shift ≤ 1074) {tie : Double.Tie}
    (whole : 0 ≤ (Double.shortest tie mantissa shift).exponent) :
    (Double.shortest tie mantissa shift).digits * 10 ^ (Double.shortest tie mantissa shift).exponent.toNat *
      Double.one = mantissa <<< shift := by
  have admits := Double.admits_shortest pos few shift tie
  generalize Double.shortest tie mantissa shift = d at *
  obtain ⟨size, spelling⟩ : ∃ size, size = d.digits * 10 ^ d.exponent.toNat := ⟨_, rfl⟩
  have value : 4 * Double.one * d.toRat = ((4 * (size * Double.one) : ℕ) : ℚ) / (1 : ℕ) := by
    have scale : (-d.exponent).toNat = 0 := by omega
    rw [Double.Digits.toRat, Double.ten_zpow_eq, scale, spelling]
    push_cast
    ring
  rw [value, ← Double.Window.admits_eq_true_iff Nat.one_pos] at admits
  obtain ⟨low, high, -⟩ := Double.bounds_of_admits pos admits
  -- one is a whole number of steps, so the integer is one too
  obtain ⟨steps, unit⟩ : ∃ steps, Double.one = steps * 1 <<< shift :=
    ⟨1 <<< (1074 - shift), by
      rw [Double.one, Nat.one_shiftLeft, Nat.one_shiftLeft, Nat.one_shiftLeft, ← Nat.pow_add,
        Nat.sub_add_cancel fine]⟩
  have step : 0 < 1 <<< shift := Nat.one_shiftLeft shift ▸ Nat.two_pow_pos shift
  have product : size * Double.one = size * steps * 1 <<< shift := by rw [unit, mul_assoc]
  rw [← spelling, Nat.shiftLeft_eq, ← Nat.one_shiftLeft, product]
  rw [product] at low high
  generalize size * steps = k at low high ⊢
  generalize 1 <<< shift = width at low high step ⊢
  refine congrArg (· * width) ?_
  rcases Nat.lt_trichotomy k mantissa with less | same | more
  · have := Nat.mul_le_mul_right width less
    rw [Nat.succ_mul] at this
    omega
  · exact same
  · have := Nat.mul_le_mul_right width more
    rw [Nat.succ_mul] at this
    omega

/-- Digits that are written without a point, as an integer of 64 bits. -/
def SpellsWord (negative : Bool) (d : Double.Digits) : Prop :=
  0 ≤ d.exponent ∧ Int64.minValue.toInt ≤ spelled negative d ∧ spelled negative d ≤ Int64.maxValue.toInt

instance (negative : Bool) (d : Double.Digits) : Decidable (SpellsWord negative d) :=
  inferInstanceAs (Decidable (_ ∧ _ ∧ _))

/-- A double beyond `2 ^ 53` that is displayed as another integer of 64 bits. -/
def Misread : Number → Prop
  | .float (.finite negative mantissa shift _) =>
      let d := Double.shortest plain.tie mantissa shift
      Double.one <<< 53 < mantissa <<< shift ∧ SpellsWord negative d ∧
        d.digits * 10 ^ d.exponent.toNat * Double.one ≠ mantissa <<< shift
  | _ => False

instance : DecidablePred Misread
  | .float (.finite _ _ _ _) => inferInstanceAs (Decidable (_ ∧ _ ∧ _ ≠ _))
  | .float (.infinite _) | .float .nan | .int _ => inferInstanceAs (Decidable False)

/-! ### Reading -/

/-- An integer of 64 bits is read from its text. -/
theorem read_ofList_intText {i : ℤ} (fits : Int64.minValue.toInt ≤ i ∧ i ≤ Int64.maxValue.toInt) :
    read (String.ofList (intText i)) = .ok (.int (Int64.ofInt i)) := by
  simp only [read, readInt64?, String.toList_ofList, readInt?_intText, if_pos fits]

theorem beq_self (n : Number) : (n == n) = true := beq_iff.2 Std.ReflOrd.compare_self

/-- An integer of 64 bits is a finite double if it counts its units. -/
theorem int_beq_float {i u : ℤ} (fits : Int64.minValue.toInt ≤ i ∧ i ≤ Int64.maxValue.toInt)
    {d : Double} (units : d.units = some u) :
    (int (Int64.ofInt i) == float d) = true ↔ i * Double.one = u := by
  obtain ⟨low, high⟩ := fits_iff.1 fits
  rw [beq_iff]
  change compareInt (Int64.ofInt i) d = .eq ↔ _
  rw [compareInt_of_units units, Int64.toInt_ofInt_of_le low high, Int.compare_eq_eq]

/-- What is read from the text of a double that is no small integer: an integer of 64 bits if the text
has no point, and the double otherwise. -/
theorem read_ofList_layOut (negative : Bool) {mantissa shift : ℕ} (pos : mantissa ≠ 0)
    (canonical : Double.Canonical mantissa shift) {d : Double.Digits}
    (digits : d = Double.shortest plain.tie mantissa shift) :
    read (String.ofList (Double.layOut plain negative mantissa shift)) =
      if SpellsWord negative d then .ok (.int (Int64.ofInt (spelled negative d)))
      else .ok (.float (.finite negative mantissa shift canonical)) := by
  obtain ⟨n, text, value, shape⟩ :=
    exists_numeral_layOut plain none rfl (by simp) negative pos canonical
  have double : readDouble? (signText negative ++ n.text) =
      some (.finite negative mantissa shift canonical) := by
    rw [readDouble?_text, ofDecimal_of_toRat_eq pos canonical value]
  have nonzero : ofDouble (.finite negative mantissa shift canonical) =
      .float (.finite negative mantissa shift canonical) := by
    simp [ofDouble, Double.isZero, pos]
  rw [← digits] at value shape
  have whole : n.IsWhole ↔ 0 ≤ d.exponent := by simp [shape, plain]
  simp only [read, readInt64?, String.toList_ofList, text]
  by_cases pointless : n.IsWhole
  · have integer : (if negative = true then -(natOfDigits n.whole : ℤ) else natOfDigits n.whole) =
        spelled negative d := by
      have spelling : natOfDigits n.whole = d.digits * 10 ^ d.exponent.toNat := by
        have scale : (d.exponent.toNat : ℤ) = d.exponent := Int.toNat_of_nonneg (whole.1 pointless)
        rw [Numeral.value, Double.Digits.toRat, Double.Digits.toRat, pointless.1, pointless.2, ← scale,
          zpow_natCast] at value
        simp only [Option.getD_none, List.append_nil, List.length_nil, Nat.cast_zero, sub_zero, zpow_zero,
          mul_one] at value
        exact_mod_cast value
      simp only [spelled, spelling]
      push_cast
      rfl
    have limits : SpellsWord negative d ↔
        Int64.minValue.toInt ≤ spelled negative d ∧ spelled negative d ≤ Int64.maxValue.toInt := by
      simp [SpellsWord, whole.1 pointless]
    simp only [readInt?_text negative pointless, integer, double, nonzero]
    by_cases word : SpellsWord negative d
    · simp only [if_pos (limits.1 word), if_pos word]
    · simp only [if_neg (mt limits.2 word), if_neg word]
  · have fractional : ¬ SpellsWord negative d := fun word => pointless (whole.2 word.1)
    simp only [readInt?_text_eq_none negative pointless, double, nonzero, if_neg fractional]

theorem read_display_of_toInt? {n : Number} {i : ℤ} (whole : n.toInt? = some i)
    (fits : Int64.minValue.toInt ≤ i ∧ i ≤ Int64.maxValue.toInt) :
    read n.display = .ok (.int (Int64.ofInt i)) := by
  rw [← read_ofList_intText fits]
  simp only [display, text, whole]

/-- A finite double is an integer if it is a multiple of one and not beyond `2 ^ 53`. -/
theorem toInt?_finite (negative : Bool) {mantissa shift : ℕ}
    (canonical : Double.Canonical mantissa shift) :
    ∃ u : ℤ, (Double.finite negative mantissa shift canonical).units = some u ∧
      u.natAbs = mantissa <<< shift ∧
      (float (.finite negative mantissa shift canonical)).toInt? =
        if u % Double.one = 0 ∧ u.natAbs ≤ Double.one <<< 53 then some (u / Double.one) else none := by
  refine ⟨_, rfl, ?_, rfl⟩
  cases negative with
  | false => exact Int.natAbs_natCast _
  | true => exact (Int.natAbs_neg _).trans (Int.natAbs_natCast _)

theorem units_of_toInt? {negative : Bool} {mantissa shift : ℕ}
    {canonical : Double.Canonical mantissa shift}
    {i : ℤ} (h : (float (.finite negative mantissa shift canonical)).toInt? = some i) :
    (Double.finite negative mantissa shift canonical).units = some (i * Double.one) ∧
      i.natAbs ≤ 2 ^ 53 ∧ mantissa <<< shift ≤ Double.one <<< 53 := by
  obtain ⟨u, units, size, whole⟩ := toInt?_finite negative canonical
  rw [whole] at h
  split at h
  · next integral =>
      obtain rfl := Option.some.inj h
      have parts : u / Double.one * Double.one = u := Int.ediv_mul_cancel_of_emod_eq_zero integral.1
      refine ⟨by rw [units, parts], ?_, by rw [← size]; exact integral.2⟩
      have bound := integral.2
      rw [← parts, Int.natAbs_mul, Int.natAbs_natCast, Nat.shiftLeft_eq, mul_comm Double.one] at bound
      exact Nat.le_of_mul_le_mul_right bound Double.one_pos
  · exact absurd h (by simp)

/-- The integer that a number is has 64 bits and equals the number. -/
theorem int_beq_of_toInt? {n : Number} {i : ℤ} (whole : n.toInt? = some i) :
    (Int64.minValue.toInt ≤ i ∧ i ≤ Int64.maxValue.toInt) ∧ (int (Int64.ofInt i) == n) = true := by
  match n, whole with
  | .int k, whole =>
      obtain rfl : k.toInt = i := Option.some.inj whole
      rw [Int64.ofInt_toInt]
      exact ⟨⟨k.minValue_le_toInt, k.toInt_le⟩, beq_self _⟩
  | .float (.finite negative mantissa shift canonical), whole =>
      obtain ⟨units, small, -⟩ := units_of_toInt? whole
      have fits : Int64.minValue.toInt ≤ i ∧ i ≤ Int64.maxValue.toInt := by
        rw [fits_iff]
        omega
      exact ⟨fits, (int_beq_float fits units).2 rfl⟩

theorem not_misread_of_toInt? {n : Number} {i : ℤ} (whole : n.toInt? = some i) : ¬ n.Misread := by
  match n, whole with
  | .int _, _ => exact not_false
  | .float (.finite _ _ _ _), whole => exact fun misread => (units_of_toInt? whole).2.2.not_gt misread.1

theorem mantissa_ne_zero {negative : Bool} {mantissa shift : ℕ}
    {canonical : Double.Canonical mantissa shift}
    (large : (float (.finite negative mantissa shift canonical)).toInt? = none) : mantissa ≠ 0 := by
  rintro rfl
  cases negative <;> simp [toInt?, Double.units] at large

theorem one_shiftLeft_dvd {k shift : ℕ} (h : k ≤ shift) (n : ℕ) : 1 <<< k ∣ n <<< shift := by
  rw [Nat.one_shiftLeft, Nat.shiftLeft_eq]
  exact Dvd.dvd.mul_left (Nat.pow_dvd_pow 2 h) n

/-- A double that is displayed without a point, but not as itself, lies beyond `2 ^ 53`. -/
theorem one_lt_of_inexact {negative : Bool} {mantissa shift : ℕ}
    {canonical : Double.Canonical mantissa shift}
    (large : (float (.finite negative mantissa shift canonical)).toInt? = none)
    (whole : 0 ≤ (Double.shortest plain.tie mantissa shift).exponent)
    (inexact : (Double.shortest plain.tie mantissa shift).digits *
      10 ^ (Double.shortest plain.tie mantissa shift).exponent.toNat * Double.one ≠ mantissa <<< shift) :
    Double.one <<< 53 < mantissa <<< shift := by
  obtain ⟨u, -, size, integer⟩ := toInt?_finite negative canonical
  have coarse : 1074 ≤ shift := by
    by_contra fine
    exact inexact (mul_one_eq_of_shift_le (mantissa_ne_zero large) canonical.1 (by omega) whole)
  have multiple : u % Double.one = 0 := by
    have divides : Double.one ∣ u.natAbs := by
      rw [size]
      exact one_shiftLeft_dvd coarse mantissa
    exact Int.emod_eq_zero_of_dvd (Int.natCast_dvd.2 divides)
  rw [integer] at large
  by_contra less
  rw [if_pos ⟨multiple, by omega⟩] at large
  exact absurd large (by simp)

/-- A finite double that is no integer up to `2 ^ 53`: its text may spell an integer of 64 bits. -/
theorem exists_read_of_toInt?_eq_none {negative : Bool} {mantissa shift : ℕ}
    {canonical : Double.Canonical mantissa shift}
    (large : (float (.finite negative mantissa shift canonical)).toInt? = none) :
    ∃ m, read (float (.finite negative mantissa shift canonical)).display = .ok m ∧
      ((m == float (.finite negative mantissa shift canonical)) = true ↔
        ¬ (float (.finite negative mantissa shift canonical)).Misread) := by
  have pos := mantissa_ne_zero large
  have shown : (float (.finite negative mantissa shift canonical)).display =
      String.ofList (Double.layOut plain negative mantissa shift) := by
    simp only [display, text, large]
  obtain ⟨d, digits⟩ : ∃ d, d = Double.shortest plain.tie mantissa shift := ⟨_, rfl⟩
  rw [shown, read_ofList_layOut negative pos canonical digits]
  by_cases word : SpellsWord negative d
  · refine ⟨_, if_pos word, ?_⟩
    have beyond := one_lt_of_inexact large (digits ▸ word.1)
    rw [← digits] at beyond
    rw [int_beq_float word.2 rfl, spelled_mul_one_eq_iff]
    simp only [Misread, ← digits, word, true_and]
    tauto
  · refine ⟨_, if_neg word, ?_⟩
    simp [beq_self, Misread, ← digits, word]

/-- A displayed number is read as a number, which is the displayed one except for a double beyond
`2 ^ 53` that is displayed as another integer of 64 bits. -/
theorem display_reads_back (n : Number) :
    ∃ m, read n.display = .ok m ∧ ((m == n) = true ↔ ¬ n.Misread) := by
  cases whole : n.toInt? with
  | some i =>
      obtain ⟨fits, same⟩ := int_beq_of_toInt? whole
      exact ⟨_, read_display_of_toInt? whole fits, iff_of_true same (not_misread_of_toInt? whole)⟩
  | none =>
      match n, whole with
      | .float (.finite _ _ _ _), large => exact exists_read_of_toInt?_eq_none large
      | .float (.infinite negative), _ =>
          refine ⟨.float (.infinite negative), ?_, iff_of_true (beq_self _) not_false⟩
          cases negative <;> decide +kernel
      | .float .nan, _ => exact ⟨.float .nan, by decide +kernel, iff_of_true (beq_self _) not_false⟩

/-- The double `2 ^ 60` is displayed as `1152921504606847000`, which is read as that integer. -/
theorem power_of_two_is_misread :
    read (float (.ofInt 1152921504606846976)).display = .ok (.int 1152921504606847000) ∧
      (int 1152921504606847000 == float (.ofInt 1152921504606846976)) = false := by
  decide +kernel

end ProvenShapes.Number
