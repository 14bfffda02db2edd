/-
**The tokens of written text.**

A text *lexes* to a list of tokens if these are its tokens whatever follows, as long as what follows
does not extend a number at its end.  Texts that lex are put together from parts that do: a mark lexes
to its token, a gap to nothing, quoted text to the text between the quotes, and the text of a number to
the literal that tells the number, with the whole numbers among doubles read as whole numbers.  Of
other doubles this is so if the reader, which rounds more than once, gets them from their text.

Main definitions:

* `Json.EndsNumber` — what may follow a number;
* `Json.Lexes` — a text has these tokens, whatever follows;
* `Number.literal` — the literal of a number;
* `Double.ReadsBack` — the text of a double is read as the double.

Main results:

* `Json.Lexes.append` — texts that lex are put together;
* `Json.lexes_quoted` — **quoted text is read back**, whatever characters it has;
* `Json.lexes_json` — **the text of a number is read as its literal**;
* `Number.literal_beq` — and the literal denotes the number.
-/

import Mathlib
import ProvenShapes.Json.Reader
import ProvenShapes.Json.Writer
import ProvenShapes.Proofs.Number.Reading

set_option autoImplicit false

namespace ProvenShapes

open Number (Numeral signText natOfDigits spanDigits_append)

/-! ### Texts that lex -/

namespace Json

/-- Nothing that would extend a number stands at the start of the text. -/
def EndsNumber (rest : List Char) : Prop :=
  ∀ c ∈ rest.head?, c.isDigit = false ∧ c ≠ '.' ∧ c ≠ 'e' ∧ c ≠ 'E'

theorem EndsNumber.nil : EndsNumber [] := by simp [EndsNumber]

theorem EndsNumber.append {text rest : List Char} (first : EndsNumber text) (then_ : EndsNumber rest) :
    EndsNumber (text ++ rest) := by
  cases text with
  | nil => exact then_
  | cons c text => exact first

theorem tokens_eq_bind {c : Char} (solid : isGap c = false) (text : List Char) :
    tokens (c :: text) =
      (token? (c :: text)).bind fun read => (tokens read.2).map (read.1 :: ·) := by
  rw [tokens, if_neg (by simp [solid])]
  split
  · next read => rw [read, Option.bind_some]
  · next none => rw [none, Option.bind_none]

theorem tokens_of_token? {c : Char} {text rest : List Char} {t : Token} (solid : isGap c = false)
    (h : token? (c :: text) = some (t, rest)) : tokens (c :: text) = (tokens rest).map (t :: ·) := by
  rw [tokens_eq_bind solid, h, Option.bind_some]

/-- The text has these tokens, whatever follows it. -/
def Lexes (text : List Char) (ts : List Token) : Prop :=
  ∀ rest, EndsNumber rest → tokens (text ++ rest) = (tokens rest).map (ts ++ ·)

namespace Lexes

variable {text more : List Char} {ts us : List Token}

theorem tokens_eq (h : Lexes text ts) : tokens text = some ts := by
  have whole := h [] EndsNumber.nil
  rw [List.append_nil] at whole
  simp [whole, tokens]

theorem append (first : Lexes text ts) (second : Lexes more us) (ends : EndsNumber more) :
    Lexes (text ++ more) (ts ++ us) := by
  intro rest after
  rw [List.append_assoc, first _ (ends.append after), second _ after, Option.map_map]
  congr 1
  funext vs
  simp

theorem gap {c : Char} (blank : isGap c = true) (h : Lexes text ts) : Lexes (c :: text) ts := by
  intro rest after
  rw [List.cons_append, tokens, if_pos blank, h rest after]

theorem nil : Lexes [] [] := fun rest _ => by simp

/-- A first token that does not depend on what follows. -/
theorem mark {c : Char} {t : Token} (solid : isGap c = false)
    (h : ∀ rest, token? (c :: rest) = some (t, rest)) (after : Lexes text ts) :
    Lexes (c :: text) (t :: ts) := by
  intro rest ends
  rw [List.cons_append, tokens_of_token? solid (h _), after rest ends, Option.map_map]
  rfl

/-- A text whose first token is all of it. -/
theorem of_token? {c : Char} {t : Token} (solid : isGap c = false)
    (h : ∀ rest, EndsNumber rest → token? (c :: text ++ rest) = some (t, rest)) :
    Lexes (c :: text) [t] := by
  intro rest ends
  exact tokens_of_token? solid (h rest ends)

end Lexes

theorem lexes_null : Lexes "null".toList [.null] := .of_token? rfl fun _ _ => rfl

theorem lexes_bool (b : Bool) : Lexes (if b then "true".toList else "false".toList) [.bool b] := by
  cases b with
  | false => exact .of_token? rfl fun _ _ => rfl
  | true => exact .of_token? rfl fun _ _ => rfl

/-! ### Quoted text -/

theorem hexValue?_hexDigit : ∀ n < 16, hexValue? (hexDigit n) = some n := by decide +kernel

/-- A code that is no surrogate stands for its character. -/
theorem joinUnits_code {n : Nat} (small : n < 0xd800) (units : List TextUnit) :
    joinUnits (.code n :: units) = (joinUnits units).map (Char.ofNat n :: ·) := by
  have high : isHighSurrogate n = false := by simp [isHighSurrogate, small]
  have low : isLowSurrogate n = false := by
    simp [isLowSurrogate]
    omega
  cases units with
  | nil => simp [joinUnits, high, low]
  | cons unit units =>
      cases unit with
      | char c => simp [joinUnits, high, low]
      | code m => simp [joinUnits, high, low]

/-- An escape of one letter. -/
theorem quotedUnits_letter {e c : Char} (escape : escapeChar? e = some c) (rest : List Char) :
    quotedUnits ('\\' :: e :: rest) =
      (quotedUnits rest).map fun read => (.char c :: read.1, read.2) := by
  have plain : e ≠ 'u' := by
    rintro rfl
    simp [escapeChar?] at escape
  rw [quotedUnits.eq_4 _ _ (by simp [plain]), escape]
  cases quotedUnits rest <;> rfl

/-- A character that stands for itself. -/
theorem quotedUnits_self {c : Char} (quote : c ≠ '"') (backslash : c ≠ '\\')
    (printable : ¬c.toNat < 0x20)
    (rest : List Char) :
    quotedUnits (c :: rest) = (quotedUnits rest).map fun read => (.char c :: read.1, read.2) := by
  rw [quotedUnits.eq_5 _ _ (by simp [quote]) (by simp [backslash]) (by simp [backslash]),
    if_neg (by simp [backslash, printable])]
  cases quotedUnits rest <;> rfl

/-- A control that is written as a code. -/
theorem quotedUnits_code {n : Nat} (small : n < 256) (rest : List Char) :
    quotedUnits ('\\' :: 'u' :: '0' :: '0' :: hexDigit (n / 16) :: hexDigit (n % 16) :: rest) =
      (quotedUnits rest).map fun read => (.code n :: read.1, read.2) := by
  have code : hexCode? '0' '0' (hexDigit (n / 16)) (hexDigit (n % 16)) = some n := by
    have zero : hexValue? '0' = some 0 := rfl
    simp only [hexCode?, zero, hexValue?_hexDigit _ (show n / 16 < 16 by omega),
      hexValue?_hexDigit _ (show n % 16 < 16 by omega)]
    congr 1
    omega
  rw [quotedUnits, code]
  cases quotedUnits rest <;> rfl

/-- A written character is one unit, which stands for the character. -/
theorem exists_unit (c : Char) :
    ∃ unit : TextUnit,
      (∀ rest, quotedUnits (escaped c ++ rest) =
        (quotedUnits rest).map fun read => (unit :: read.1, read.2)) ∧
      ∀ units, joinUnits (unit :: units) = (joinUnits units).map (c :: ·) := by
  have letter {e : Char} (escape : escapeChar? e = some c) :
      ∃ unit : TextUnit,
        (∀ rest, quotedUnits (['\\', e] ++ rest) =
          (quotedUnits rest).map fun read => (unit :: read.1, read.2)) ∧
        ∀ units, joinUnits (unit :: units) = (joinUnits units).map (c :: ·) :=
    ⟨.char c, quotedUnits_letter escape, fun _ => rfl⟩
  unfold escaped
  iterate 7
    split
    · next h => exact letter (congrArg some h.symm)
  split
  · next control =>
      refine ⟨.code c.toNat, quotedUnits_code (by omega), fun units => ?_⟩
      rw [joinUnits_code (by omega), Char.ofNat_toNat]
  · next quote backslash _ _ _ _ _ printable =>
      exact ⟨.char c, quotedUnits_self quote backslash printable, fun _ => rfl⟩

/-- Written characters are read back up to the closing quote. -/
theorem quotedText?_escaped (cs rest : List Char) :
    quotedText? (cs.flatMap escaped ++ '"' :: rest) = some (String.ofList cs, rest) := by
  have units : ∃ units, quotedUnits (cs.flatMap escaped ++ '"' :: rest) = some (units, rest) ∧
      joinUnits units = some cs := by
    induction cs with
    | nil => exact ⟨[], by simp [quotedUnits], rfl⟩
    | cons c cs ih =>
        obtain ⟨units, read, join⟩ := ih
        obtain ⟨unit, first, stands⟩ := exists_unit c
        refine ⟨unit :: units, ?_, by rw [stands, join, Option.map_some]⟩
        rw [List.flatMap_cons, List.append_assoc, first, read, Option.map_some]
  obtain ⟨units, read, join⟩ := units
  simp [quotedText?, read, join]

/-- Quoted text is read back. -/
theorem lexes_quoted (s : String) : Lexes (quoted s) [.string s] := by
  refine .of_token? rfl fun rest _ => ?_
  have read := quotedText?_escaped s.toList rest
  simp [token?, read]

/-! ### Numerals -/

theorem EndsNumber.endsDigits {rest : List Char} (h : EndsNumber rest) : Number.EndsDigits rest :=
  fun c mem => (h c mem).1

theorem exponent?_text (e : Option ℤ) {rest : List Char} (ends : EndsNumber rest) :
    exponent? (Numeral.exponentText e ++ rest) = some (e, rest) := by
  cases e with
  | none =>
      cases rest with
      | nil => rfl
      | cons c rest =>
          obtain ⟨-, -, small, large⟩ := ends c rfl
          simp [Numeral.exponentText, exponent?, small, large]
  | some e =>
      have digits := spanDigits_append (Number.allDigits_toDigits e.natAbs) ends.endsDigits
      have nonempty : Nat.toDigits 10 e.natAbs ≠ [] := Nat.toDigits_ne_nil
      by_cases negative : e < 0
      · simp [Numeral.exponentText, exponent?, negative, Number.spanSign, digits, nonempty,
          -Nat.cast_natAbs]
        omega
      · simp [Numeral.exponentText, exponent?, negative, Number.spanSign, digits, nonempty,
          -Nat.cast_natAbs]
        omega

theorem EndsNumber.after_exponent {rest : List Char} (h : EndsNumber rest) (e : Option ℤ) :
    ∀ c ∈ (Numeral.exponentText e ++ rest).head?, c.isDigit = false ∧ c ≠ '.' := by
  cases e with
  | none => exact fun c mem => ⟨(h c mem).1, (h c mem).2.1⟩
  | some e => simp [Numeral.exponentText, Char.isDigit]

theorem fraction?_text (n : Numeral) {rest : List Char} (ends : EndsNumber rest) :
    fraction? (Numeral.placesText n.places ++ (Numeral.exponentText n.exponent ++ rest)) =
      some (n.places, Numeral.exponentText n.exponent ++ rest) := by
  have after := ends.after_exponent n.exponent
  generalize Numeral.exponentText n.exponent ++ rest = cs at *
  cases places : n.places with
  | none =>
      rw [Numeral.placesText, List.nil_append]
      unfold fraction?
      split
      · exact absurd rfl (after '.' rfl).2
      · rfl
  | some ds =>
      have digits := spanDigits_append (n.digits_places ds places) fun c mem => (after c mem).1
      simp [Numeral.placesText, fraction?, digits, n.places_ne_nil ds places]

/-- The literal of a numeral. -/
def literalOf? (negative : Bool) (n : Numeral) : Option Literal :=
  Literal.ofParts? negative n.whole n.places n.exponent

theorem magnitude?_text (negative : Bool) (n : Numeral) {rest : List Char} (ends : EndsNumber rest) :
    magnitude? negative (n.text ++ rest) = (literalOf? negative n).map fun l => (l, rest) := by
  have whole : Number.spanDigits (n.text ++ rest) =
      (n.whole, Numeral.placesText n.places ++ (Numeral.exponentText n.exponent ++ rest)) := by
    rw [Numeral.text, List.append_assoc, List.append_assoc]
    refine spanDigits_append n.digits_whole (Number.endsDigits_placesText _ ?_)
    exact fun c mem => (ends.after_exponent n.exponent c mem).1
  have proper : (n.whole.isEmpty || (n.whole.head? == some '0' && n.whole.length != 1)) = false := by
    simpa [n.whole_ne_nil] using n.no_leading_zero
  simp only [magnitude?, whole, proper, fraction?_text n ends, exponent?_text n.exponent ends,
    Bool.false_eq_true, if_false]
  rfl

theorem token?_of_isDigit {c : Char} (digit : c.isDigit = true) (rest : List Char) :
    token? (c :: rest) = (magnitude? false (c :: rest)).map fun (n, after) => (.number n, after) := by
  have apart {d : Char} (same : c = d) (other : d.isDigit = false) : False :=
    Bool.noConfusion (digit.symm.trans (same ▸ other))
  rw [token?.eq_12]
  all_goals exact fun _ eq => apart (List.cons.inj eq).1 (by decide)

/-- The first character of a numeral with its sign is no gap, and the numeral is the first token. -/
theorem token?_numeral (negative : Bool) (n : Numeral) :
    ∃ c text, signText negative ++ n.text = c :: text ∧ isGap c = false ∧
      ∀ rest, EndsNumber rest → token? (c :: text ++ rest) =
        (literalOf? negative n).map fun l => (.number l, rest) := by
  cases negative with
  | true =>
      refine ⟨'-', n.text, rfl, rfl, fun rest ends => ?_⟩
      rw [List.cons_append, token?, magnitude?_text true n ends, Option.map_map]
      rfl
  | false =>
      obtain ⟨c, text, shape, digit⟩ := n.head?_text
      have solid : isGap c = false := by
        by_contra gap
        simp only [isGap, Bool.not_eq_false, Bool.or_eq_true, beq_iff_eq] at gap
        rcases gap with ((rfl | rfl) | rfl) | rfl <;> simp [Char.isDigit] at digit
      refine ⟨c, text, shape, solid, fun rest ends => ?_⟩
      rw [List.cons_append, token?_of_isDigit digit, ← List.cons_append, ← shape,
        magnitude?_text false n ends, Option.map_map]
      rfl

/-- A numeral with its sign is read as its literal. -/
theorem lexes_numeral {negative : Bool} {n : Numeral} {l : Literal}
    (h : literalOf? negative n = some l) :
    Lexes (signText negative ++ n.text) [.number l] := by
  obtain ⟨c, text, shape, solid, read⟩ := token?_numeral negative n
  rw [shape]
  refine .of_token? solid fun rest ends => ?_
  rw [read rest ends, h, Option.map_some]

/-- What is read of a numeral with its sign is its literal. -/
theorem literalOf?_of_tokens {negative : Bool} {n : Numeral} {l : Literal}
    (h : tokens (signText negative ++ n.text) = some [.number l]) :
    literalOf? negative n = some l := by
  obtain ⟨c, text, shape, solid, read⟩ := token?_numeral negative n
  have alone := read [] EndsNumber.nil
  rw [List.append_nil] at alone
  rw [shape, tokens_eq_bind solid, alone] at h
  cases found : literalOf? negative n with
  | none => simp [found] at h
  | some l' =>
      rw [found] at h
      simpa [tokens] using h

end Json

/-! ### Numbers -/

namespace Number

/-- The literal of a number: a whole number if the number is one that doubles represent exactly. -/
def literal (n : Number) : Json.Literal :=
  match n, n.toInt? with
  | _, some i => .whole i
  | .float d, none => .real d
  | .int i, none => .whole i.toInt

theorem exists_finite_of_toInt? {n : Number} (finite : n.isFinite = true) (large : n.toInt? = none) :
    ∃ negative mantissa shift canonical, n = .float (.finite negative mantissa shift canonical) := by
  cases n with
  | int i => simp [toInt?] at large
  | float d =>
      cases d with
      | finite negative mantissa shift canonical => exact ⟨negative, mantissa, shift, canonical, rfl⟩
      | infinite => simp [isFinite, Double.isFinite] at finite
      | nan => simp [isFinite, Double.isFinite] at finite

/-- The literal of a number denotes the number. -/
theorem literal_beq (n : Number) (finite : n.isFinite = true) : (n.literal.toNumber == n) = true := by
  cases whole : n.toInt? with
  | some i =>
      obtain ⟨fits, same⟩ := int_beq_of_toInt? whole
      simpa only [literal, whole, Json.Literal.toNumber, ofInt, if_pos fits] using same
  | none =>
      obtain ⟨negative, mantissa, shift, canonical, rfl⟩ := exists_finite_of_toInt? finite whole
      have nonzero : (Double.finite negative mantissa shift canonical).isZero = false := by
        simp [Double.isZero, mantissa_ne_zero whole]
      simp [literal, whole, Json.Literal.toNumber, ofDouble, nonzero, beq_self]

end Number

namespace Json

/-- Digits that a word of 64 bits holds are gathered without loss. -/
theorem wholeDigits_of_lt {significand : ℕ} {ds : List Char}
    (fits : Nat.ofDigitChars 10 ds significand < UInt64.size) :
    wholeDigits significand ds = ⟨Nat.ofDigitChars 10 ds significand, 0⟩ := by
  induction ds generalizing significand with
  | nil => rfl
  | cons c rest ih =>
      have next : 10 * significand + (c.toNat - 48) < UInt64.size := by
        refine lt_of_le_of_lt ?_ fits
        rw [Nat.ofDigitChars_cons, Nat.ofDigitChars_eq_ofDigitChars_zero]
        exact le_add_right (Nat.le_mul_of_pos_left _ (by positivity))
      rw [wholeDigits, if_pos next]
      exact ih fits

/-- An integer of 64 bits is read as a whole number. -/
theorem lexes_intText {i : ℤ} (fits : Int64.minValue.toInt ≤ i ∧ i ≤ Int64.maxValue.toInt) :
    Lexes (Number.intText i) [.number (.whole i)] := by
  rw [Number.intText_eq]
  refine lexes_numeral ?_
  obtain ⟨low, high⟩ := Number.fits_iff.1 fits
  have digits : wholeDigits 0 (Nat.toDigits 10 i.natAbs) = ⟨i.natAbs, 0⟩ := by
    have value : Nat.ofDigitChars 10 (Nat.toDigits 10 i.natAbs) 0 = i.natAbs :=
      Number.natOfDigits_toDigits _
    rw [wholeDigits_of_lt, value]
    rw [value, UInt64.size]
    omega
  have read : literalOf? (decide (i < 0)) (Numeral.ofNat i.natAbs) =
      some (Literal.ofWhole (decide (i < 0)) i.natAbs) := by
    simp [literalOf?, Literal.ofParts?, Numeral.ofNat, digits]
  rw [read, Literal.ofWhole]
  by_cases negative : i < 0
  · rw [if_pos (decide_eq_true negative), if_pos (by rw [Nat.one_shiftLeft]; omega)]
    congr 2
    omega
  · rw [if_neg (by simp [negative])]
    congr 2
    omega

end Json

/-- The text of a double is read as the double. -/
def Double.ReadsBack (d : Double) : Prop :=
  Json.tokens (Number.float d).json = some [.number (.real d)]

instance : DecidablePred Double.ReadsBack := fun _ => inferInstanceAs (Decidable (_ = _))

/-- The digits `0.9452706955539223` are rounded twice and read as the next double. -/
example : ¬ (Double.ofDecimal false 9452706955539223 (-16)).ReadsBack := by decide +kernel

namespace Json

/-- The text of a finite number is read as its literal, if that of a double which is no integer is
read as the double. -/
theorem lexes_json {n : Number} (finite : n.isFinite = true)
    (reads : ∀ d, n = .float d → n.toInt? = none → d.ReadsBack) :
    Lexes n.json [.number n.literal] := by
  cases whole : n.toInt? with
  | some i =>
      simpa only [Number.json, Number.text, Number.literal, whole] using
        lexes_intText (Number.int_beq_of_toInt? whole).1
  | none =>
      obtain ⟨negative, mantissa, shift, canonical, rfl⟩ :=
        Number.exists_finite_of_toInt? finite whole
      have back := reads _ rfl whole
      obtain ⟨n, text, -⟩ := Number.exists_numeral_layOut Number.data (some ['0']) rfl
        (by simp) negative (Number.mantissa_ne_zero whole) canonical
      have shown : (Number.float (.finite negative mantissa shift canonical)).json =
          signText negative ++ n.text := by
        simp only [Number.json, Number.text, whole, text]
      rw [Double.ReadsBack, shown] at back
      simp only [shown, Number.literal, whole]
      exact lexes_numeral (literalOf?_of_tokens back)

end Json

end ProvenShapes
