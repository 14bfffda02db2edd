/-
**Decimal numerals.**

Every text of a number without its sign is a numeral: digits, perhaps a point with more digits, perhaps
an exponent.  The two layouts write the shortest digits of a double as numerals of the same value, and
a numeral is read as the double nearest to its value, whatever way it is written.

Main definitions:

* `Number.Numeral` — the parts of a numeral, with what makes them well-formed;
* `Number.Numeral.text`, `Number.Numeral.value` — its text and the decimal it denotes;
* `Number.Numeral.IsWhole` — it has neither a point nor an exponent.

Main results:

* `Number.readMagnitude?_text` — a numeral is read as the double nearest to its value;
* `Number.exists_numeral_positional`, `Number.exists_numeral_scientific` — both notations write a
  decimal as a numeral of its value;
* `Number.ofDecimal_of_toRat_eq` — **a decimal with the value of the shortest digits is read as the
  double**.
-/

import Mathlib
import ProvenShapes.Number.Text
import ProvenShapes.Proofs.Number.Shortest

set_option autoImplicit false

namespace ProvenShapes.Number

open Double (Digits positionalText scientificText)

/-! ### Lists of digits -/

theorem natOfDigits_eq (ds : List Char) : natOfDigits ds = Nat.ofDigitChars 10 ds 0 := rfl

@[simp] theorem natOfDigits_toDigits (n : ℕ) : natOfDigits (Nat.toDigits 10 n) = n :=
  Nat.ofDigitChars_ten_toDigits

theorem natOfDigits_append (ds es : List Char) :
    natOfDigits (ds ++ es) = natOfDigits ds * 10 ^ es.length + natOfDigits es := by
  rw [natOfDigits_eq, Nat.ofDigitChars_append, Nat.ofDigitChars_eq_ofDigitChars_zero, mul_comm]
  rfl

@[simp] theorem natOfDigits_replicate_zero (n : ℕ) : natOfDigits (List.replicate n '0') = 0 := by
  rw [natOfDigits_eq, Nat.ofDigitChars_replicate_zero, mul_zero]

/-- All characters are digits. -/
def AllDigits (ds : List Char) : Prop := ∀ c ∈ ds, c.isDigit = true

theorem AllDigits.append {ds es : List Char} (hd : AllDigits ds) (he : AllDigits es) :
    AllDigits (ds ++ es) := fun c mem => (List.mem_append.1 mem).elim (hd c) (he c)

theorem allDigits_toDigits (n : ℕ) : AllDigits (Nat.toDigits 10 n) := fun _ mem =>
  Nat.isDigit_of_mem_toDigits (by decide) (by decide) mem

theorem allDigits_replicate_zero (n : ℕ) : AllDigits (List.replicate n '0') := fun _ mem =>
  List.eq_of_mem_replicate mem ▸ rfl

/-- A number that is not zero is written without leading zeros. -/
theorem head?_toDigits_ne {n : ℕ} (pos : n ≠ 0) : (Nat.toDigits 10 n).head? ≠ some '0' := by
  induction n using Nat.strongRecOn with
  | ind n ih =>
      rcases Nat.lt_or_ge n 10 with single | more
      · have leading : ∀ k < 10, k ≠ 0 → [Nat.digitChar k].head? ≠ some '0' := by decide
        rw [Nat.toDigits_of_lt_base single]
        exact leading n single pos
      · rw [Nat.toDigits_of_base_le (by decide) more, List.head?_append_of_ne_nil _ Nat.toDigits_ne_nil]
        exact ih _ (by omega) (by omega)

/-- Nothing that would extend a list of digits stands at the start of the text. -/
def EndsDigits (rest : List Char) : Prop := ∀ c ∈ rest.head?, c.isDigit = false

theorem spanDigits_append {ds rest : List Char} (digits : AllDigits ds) (ends : EndsDigits rest) :
    spanDigits (ds ++ rest) = (ds, rest) := by
  rw [spanDigits, List.takeWhile_append_of_pos digits, List.dropWhile_append_of_pos digits]
  cases rest with
  | nil => simp
  | cons c rest => simp [ends c rfl]

/-! ### Numerals -/

/-- The parts of a numeral: digits without leading zeros, at least one digit after a point, and an
exponent. -/
structure Numeral where
  whole : List Char
  places : Option (List Char)
  exponent : Option ℤ
  digits_whole : AllDigits whole
  whole_ne_nil : whole ≠ []
  no_leading_zero : whole.head? = some '0' → whole.length = 1
  digits_places : ∀ ds ∈ places, AllDigits ds
  places_ne_nil : ∀ ds ∈ places, ds ≠ []

namespace Numeral

/-- The digits after the point, with the point. -/
def placesText : Option (List Char) → List Char
  | none => []
  | some ds => '.' :: ds

/-- An exponent, with its mark and its sign. -/
def exponentText : Option ℤ → List Char
  | none => []
  | some e => 'e' :: (if e < 0 then '-' else '+') :: Nat.toDigits 10 e.natAbs

/-- The text of a numeral. -/
def text (n : Numeral) : List Char := n.whole ++ (placesText n.places ++ exponentText n.exponent)

/-- The decimal that a numeral denotes. -/
def value (n : Numeral) : Digits where
  digits := natOfDigits (n.whole ++ n.places.getD [])
  exponent := n.exponent.getD 0 - (n.places.getD []).length

/-- The numeral has neither a point nor an exponent. -/
def IsWhole (n : Numeral) : Prop := n.places = none ∧ n.exponent = none

/-- The numeral of a natural. -/
def ofNat (n : ℕ) : Numeral where
  whole := Nat.toDigits 10 n
  places := none
  exponent := none
  digits_whole := allDigits_toDigits n
  whole_ne_nil := Nat.toDigits_ne_nil
  no_leading_zero zero := by
    by_cases nonzero : n = 0
    · rw [nonzero]
      rfl
    · exact absurd zero (head?_toDigits_ne nonzero)
  digits_places := by simp
  places_ne_nil := by simp

theorem isWhole_ofNat (n : ℕ) : (ofNat n).IsWhole := ⟨rfl, rfl⟩

theorem text_of_isWhole {n : Numeral} (whole : n.IsWhole) : n.text = n.whole := by
  simp [text, placesText, exponentText, whole.1, whole.2]

theorem head?_text (n : Numeral) : ∃ c rest, n.text = c :: rest ∧ c.isDigit = true := by
  cases shape : n.whole with
  | nil => exact absurd shape n.whole_ne_nil
  | cons c rest =>
      refine ⟨c, rest ++ (placesText n.places ++ exponentText n.exponent), ?_, ?_⟩
      · rw [text, shape, List.cons_append]
      · exact n.digits_whole c (shape ▸ List.mem_cons_self)

end Numeral

/-- The sign of a negative number. -/
def signText (negative : Bool) : List Char := if negative then ['-'] else []

/-- An integer is written as the numeral of its size. -/
theorem intText_eq (i : ℤ) :
    intText i = signText (decide (i < 0)) ++ (Numeral.ofNat i.natAbs).text := by
  rw [Numeral.text_of_isWhole (Numeral.isWhole_ofNat _), intText, signText]
  by_cases negative : i < 0
  · simp [negative, Numeral.ofNat]
  · simp [negative, Numeral.ofNat]

/-! ### Reading -/

theorem spanSign_of_isDigit {c : Char} (digit : c.isDigit = true) (rest : List Char) :
    spanSign (c :: rest) = (false, c :: rest) := by
  unfold spanSign
  split
  · next eq => simp [(List.cons.inj eq).1, Char.isDigit] at digit
  · next eq => simp [(List.cons.inj eq).1, Char.isDigit] at digit
  · rfl

/-- Digits are read as the integer they denote, with or without a sign before them. -/
theorem readInt?_of_spanSign {cs ds : List Char} {negative : Bool} (sign : spanSign cs = (negative, ds))
    (digits : AllDigits ds) (nonempty : ds ≠ []) :
    readInt? cs = some (if negative then -(natOfDigits ds : ℤ) else natOfDigits ds) := by
  have all : ds.all Char.isDigit = true := List.all_eq_true.2 digits
  simp [readInt?, sign, all, nonempty]

theorem readExponent?_text (e : Option ℤ) :
    readExponent? (Numeral.exponentText e) = some (e.getD 0) := by
  cases e with
  | none => rfl
  | some e =>
      have read (cs : List Char) (negative : Bool)
          (sign : spanSign cs = (negative, Nat.toDigits 10 e.natAbs)) :
          readInt? cs = some (if negative then -(e.natAbs : ℤ) else e.natAbs) := by
        rw [readInt?_of_spanSign sign (allDigits_toDigits _) Nat.toDigits_ne_nil, natOfDigits_toDigits]
      rw [Numeral.exponentText, readExponent?, if_pos (.inl rfl), Option.getD_some]
      split
      · rw [read _ true rfl, if_pos rfl]
        congr 1
        omega
      · rw [read _ false rfl, if_neg Bool.false_ne_true]
        congr 1
        omega

theorem endsDigits_exponentText (e : Option ℤ) : EndsDigits (Numeral.exponentText e) := by
  cases e with
  | none => simp [Numeral.exponentText, EndsDigits]
  | some e => simp [Numeral.exponentText, EndsDigits, Char.isDigit]

theorem endsDigits_placesText (places : Option (List Char)) {rest : List Char}
    (ends : EndsDigits rest) :
    EndsDigits (Numeral.placesText places ++ rest) := by
  cases places with
  | none => exact ends
  | some ds => simp [Numeral.placesText, EndsDigits, Char.isDigit]

theorem toLower_of_isDigit {c : Char} (digit : c.isDigit = true) : c.toLower = c := by
  simp only [Char.isDigit, Bool.and_eq_true, decide_eq_true_eq] at digit
  refine dif_neg fun upper => ?_
  exact absurd (UInt32.le_trans upper.1 digit.2) (by decide)

/-- A numeral is no name of an infinity or of not-a-number: those begin with a letter. -/
theorem map_toLower_text_ne (n : Numeral) {name : String} {c : Char}
    (letter : name.toList.head? = some c)
    (proper : c.isDigit = false) : String.ofList (n.text.map Char.toLower) ≠ name := by
  obtain ⟨d, rest, shape, digit⟩ := n.head?_text
  rintro rfl
  rw [String.toList_ofList, shape, List.map_cons, List.head?_cons, toLower_of_isDigit digit] at letter
  rw [Option.some.inj letter, proper] at digit
  exact Bool.noConfusion digit

/-- A numeral is read as the double nearest to its value. -/
theorem readMagnitude?_text (negative : Bool) (n : Numeral) :
    readMagnitude? negative n.text = some (.ofDecimal negative n.value.digits n.value.exponent) := by
  have infinite : ¬ (String.ofList (n.text.map Char.toLower) = "inf" ∨
      String.ofList (n.text.map Char.toLower) = "infinity") := by
    rintro (same | same)
    · exact map_toLower_text_ne n rfl rfl same
    · exact map_toLower_text_ne n rfl rfl same
  have number : String.ofList (n.text.map Char.toLower) ≠ "nan" := map_toLower_text_ne n rfl rfl
  have whole : spanDigits n.text =
      (n.whole, Numeral.placesText n.places ++ Numeral.exponentText n.exponent) :=
    spanDigits_append n.digits_whole (endsDigits_placesText _ (endsDigits_exponentText _))
  have digit : n.whole.isEmpty = false := by simp [n.whole_ne_nil]
  simp only [readMagnitude?, if_neg infinite, if_neg number, whole, digit, Bool.false_and,
    Bool.false_eq_true, if_false]
  cases places : n.places with
  | none =>
      have read := readExponent?_text n.exponent
      cases exponent : n.exponent with
      | none =>
          simp [Numeral.placesText, Numeral.exponentText, readExponent?, Numeral.value, places,
            exponent]
      | some e =>
          rw [exponent, Numeral.exponentText] at read
          simp [Numeral.placesText, Numeral.exponentText, Numeral.value, places, exponent, read]
  | some ds =>
      have fraction := spanDigits_append (n.digits_places ds places) (endsDigits_exponentText n.exponent)
      simp [Numeral.placesText, fraction, readExponent?_text, Numeral.value, places]

/-! ### Writing -/

/-- Digits with zeros after them. -/
theorem exists_numeral_whole {ds : List Char} (digits : AllDigits ds) (nonempty : ds ≠ [])
    (leading : ds.head? ≠ some '0') {ending : Option (List Char)} (zeros : ∀ es ∈ ending, es = ['0'])
    (shift : ℕ) :
    ∃ n : Numeral, ds ++ List.replicate shift '0' ++ Numeral.placesText ending = n.text ∧
      n.value.toRat = natOfDigits ds * 10 ^ shift ∧ (n.IsWhole ↔ ending = none) := by
  let n : Numeral :=
    { whole := ds ++ List.replicate shift '0'
      places := ending
      exponent := none
      digits_whole := digits.append (allDigits_replicate_zero _)
      whole_ne_nil := by simp [nonempty]
      no_leading_zero := fun zero => absurd (List.head?_append_of_ne_nil _ nonempty ▸ zero) leading
      digits_places := fun es mem => zeros es mem ▸ allDigits_replicate_zero 1
      places_ne_nil := fun es mem => zeros es mem ▸ List.cons_ne_nil _ _ }
  refine ⟨n, ?_, ?_, ?_⟩
  · simp [Numeral.text, n, Numeral.exponentText]
  · cases shape : ending with
    | none => simp [Digits.toRat, Numeral.value, n, shape, natOfDigits_append]
    | some es =>
        rw [zeros es shape] at shape
        have padded : natOfDigits (ds ++ List.replicate shift '0' ++ ['0']) =
            natOfDigits ds * 10 ^ shift * 10 := by
          rw [natOfDigits_append, natOfDigits_append, natOfDigits_replicate_zero]
          simp [natOfDigits]
        simp only [Digits.toRat, Numeral.value, n, shape, Option.getD_some, Option.getD_none, padded]
        norm_num
        ring
  · simp [Numeral.IsWhole, n]

/-- Digits with the point among them or before them. -/
theorem exists_numeral_split {ds : List Char} (digits : AllDigits ds) (nonempty : ds ≠ [])
    (leading : ds.head? ≠ some '0') (exponent : Option ℤ) (point : ℕ) (pos : 0 < point)
    (less : point < ds.length) :
    ∃ n : Numeral, ds.take point ++ ('.' :: ds.drop point ++ Numeral.exponentText exponent) = n.text ∧
      n.value = ⟨natOfDigits ds, exponent.getD 0 - (ds.length - point)⟩ ∧ ¬ n.IsWhole := by
  let n : Numeral :=
    { whole := ds.take point
      places := some (ds.drop point)
      exponent := exponent
      digits_whole := fun c mem => digits c (List.mem_of_mem_take mem)
      whole_ne_nil := by simp [nonempty, pos.ne']
      no_leading_zero := fun zero => by
        rw [List.head?_take, if_neg pos.ne'] at zero
        exact absurd zero leading
      digits_places := by
        rintro _ ⟨rfl⟩ c mem
        exact digits c (List.mem_of_mem_drop mem)
      places_ne_nil := by simp [less] }
  refine ⟨n, rfl, ?_, ?_⟩
  · simp [Numeral.value, n]
    omega
  · simp [Numeral.IsWhole, n]

/-- Digits after zeros. -/
theorem exists_numeral_small {ds : List Char} (digits : AllDigits ds) (nonempty : ds ≠ []) (shift : ℕ) :
    ∃ n : Numeral, '0' :: '.' :: (List.replicate shift '0' ++ ds) = n.text ∧
      n.value = ⟨natOfDigits ds, -(shift + ds.length : ℕ)⟩ ∧ ¬ n.IsWhole := by
  let n : Numeral :=
    { whole := ['0']
      places := some (List.replicate shift '0' ++ ds)
      exponent := none
      digits_whole := allDigits_replicate_zero 1
      whole_ne_nil := List.cons_ne_nil _ _
      no_leading_zero := fun _ => rfl
      digits_places := by
        rintro _ ⟨rfl⟩
        exact (allDigits_replicate_zero _).append digits
      places_ne_nil := by simp [nonempty] }
  have value : natOfDigits (['0'] ++ (List.replicate shift '0' ++ ds)) = natOfDigits ds := by
    rw [natOfDigits_append, natOfDigits_append, natOfDigits_replicate_zero]
    simp [natOfDigits]
  refine ⟨n, ?_, ?_, ?_⟩
  · simp [Numeral.text, n, Numeral.exponentText, Numeral.placesText]
  · simp [Numeral.value, n, ← value]
  · simp [Numeral.IsWhole, n]

/-- Positional notation writes a decimal as a numeral of its value. -/
theorem exists_numeral_positional {d : Digits} (pos : d.digits ≠ 0) {ending : Option (List Char)}
    (zeros : ∀ ds ∈ ending, ds = ['0']) :
    ∃ n : Numeral, positionalText (Numeral.placesText ending) d = n.text ∧ n.value.toRat = d.toRat ∧
      (n.IsWhole ↔ 0 ≤ d.exponent ∧ ending = none) := by
  have digits := allDigits_toDigits d.digits
  have nonempty : Nat.toDigits 10 d.digits ≠ [] := Nat.toDigits_ne_nil
  have leading := head?_toDigits_ne pos
  have denotes := natOfDigits_toDigits d.digits
  simp only [positionalText]
  generalize Nat.toDigits 10 d.digits = ds at *
  split
  · next whole =>
      obtain ⟨n, text, value, shape⟩ := exists_numeral_whole digits nonempty leading zeros d.exponent.toNat
      refine ⟨n, text, ?_, by simp [shape, whole]⟩
      rw [value, denotes, Digits.toRat, ← zpow_natCast, Int.toNat_of_nonneg whole]
  · next fractional =>
      split
      · next small =>
          obtain ⟨n, text, value, shape⟩ :=
            exists_numeral_small digits nonempty (-((ds.length : ℤ) + d.exponent)).toNat
          refine ⟨n, text, ?_, by simp [shape, fractional]⟩
          have exponent : -(((-((ds.length : ℤ) + d.exponent)).toNat + ds.length : ℕ) : ℤ) = d.exponent := by
            omega
          rw [value, denotes, exponent]
      · next large =>
          obtain ⟨n, text, value, shape⟩ := exists_numeral_split digits nonempty leading none
            ((ds.length : ℤ) + d.exponent).toNat (by omega) (by omega)
          have exponent : (none : Option ℤ).getD 0 - ((ds.length : ℤ) - ((ds.length : ℤ) + d.exponent).toNat) =
              d.exponent := by
            rw [Option.getD_none]
            omega
          refine ⟨n, ?_, by rw [value, denotes, exponent], by simp [shape, fractional]⟩
          rw [← text, Numeral.exponentText, List.append_nil]

/-- Scientific notation writes a decimal as a numeral of its value. -/
theorem exists_numeral_scientific {d : Digits} (pos : d.digits ≠ 0) :
    ∃ n : Numeral, scientificText d = n.text ∧ n.value.toRat = d.toRat ∧ ¬ n.IsWhole := by
  have digits := allDigits_toDigits d.digits
  have nonempty : Nat.toDigits 10 d.digits ≠ [] := Nat.toDigits_ne_nil
  have leading := head?_toDigits_ne pos
  have denotes := natOfDigits_toDigits d.digits
  simp only [scientificText]
  generalize Nat.toDigits 10 d.digits = ds at *
  split
  · next single =>
      let n : Numeral :=
        { whole := ds
          places := none
          exponent := some ((ds.length : ℤ) - 1 + d.exponent)
          digits_whole := digits
          whole_ne_nil := nonempty
          no_leading_zero := fun _ => single
          digits_places := by simp
          places_ne_nil := by simp }
      refine ⟨n, ?_, ?_, ?_⟩
      · simp [Numeral.text, n, Numeral.exponentText, Numeral.placesText, single]
      · simp [Numeral.value, n, single, denotes]
      · simp [Numeral.IsWhole, n]
  · next several =>
      have least : 1 < ds.length := by
        have := List.length_pos_iff.2 nonempty
        omega
      obtain ⟨n, text, value, shape⟩ := exists_numeral_split digits nonempty leading
        (some ((ds.length : ℤ) - 1 + d.exponent)) 1 Nat.one_pos least
      refine ⟨n, ?_, ?_, shape⟩
      · simpa [Numeral.exponentText] using text
      · have exponent : (ds.length : ℤ) - 1 + d.exponent - (ds.length - (1 : ℕ)) = d.exponent := by omega
        rw [value, denotes, Option.getD_some, exponent]

/-! ### Doubles -/

/-- A decimal with the value of the shortest digits of a double is read as the double. -/
theorem ofDecimal_of_toRat_eq {negative : Bool} {mantissa shift : ℕ} (pos : mantissa ≠ 0)
    (canonical : Double.Canonical mantissa shift) {tie : Double.Tie} {d : Digits}
    (same : d.toRat = (Double.shortest tie mantissa shift).toRat) :
    Double.ofDecimal negative d.digits d.exponent = .finite negative mantissa shift canonical :=
  Double.ofDecimal_of_admits pos canonical (same ▸ Double.admits_shortest pos canonical.1 shift tie)

theorem digits_shortest_ne_zero {mantissa shift : ℕ} (pos : mantissa ≠ 0)
    (canonical : Double.Canonical mantissa shift) (tie : Double.Tie) :
    (Double.shortest tie mantissa shift).digits ≠ 0 :=
  (Double.magnitude_of_admits pos canonical (Double.admits_shortest pos canonical.1 shift tie)).1

/-- A layout writes a double that is not zero as a numeral with the value of its shortest digits. -/
theorem exists_numeral_layOut (layout : Double.Layout) (ending : Option (List Char))
    (wholeEnd : layout.wholeEnd = Numeral.placesText ending) (zeros : ∀ ds ∈ ending, ds = ['0'])
    (negative : Bool) {mantissa shift : ℕ} (pos : mantissa ≠ 0)
    (canonical : Double.Canonical mantissa shift) :
    ∃ n : Numeral, Double.layOut layout negative mantissa shift = signText negative ++ n.text ∧
      n.value.toRat = (Double.shortest layout.tie mantissa shift).toRat ∧
      (n.IsWhole ↔
        layout.positional ((Double.digitCount (Double.shortest layout.tie mantissa shift).digits : ℤ) - 1 +
          (Double.shortest layout.tie mantissa shift).exponent) = true ∧
        0 ≤ (Double.shortest layout.tie mantissa shift).exponent ∧ ending = none) := by
  have nonzero := digits_shortest_ne_zero pos canonical layout.tie
  have sign (text : List Char) :
      (if negative = true then '-' :: text else text) = signText negative ++ text := by
    cases negative <;> rfl
  simp only [Double.layOut, if_neg pos, sign, wholeEnd]
  split
  · next positional =>
      obtain ⟨n, text, value, shape⟩ := exists_numeral_positional nonzero zeros
      exact ⟨n, by rw [text], value, by simp [shape, positional]⟩
  · next scientific =>
      obtain ⟨n, text, value, shape⟩ := exists_numeral_scientific nonzero
      exact ⟨n, by rw [text], value, by simp [shape, scientific]⟩

end ProvenShapes.Number
