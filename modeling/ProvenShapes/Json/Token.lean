/-
**The tokens of JSON text.**

Text is cut into tokens before its structure is looked at.  Blanks between tokens are dropped;
inside quotes, controls are refused and escapes are resolved, where two escaped surrogates make one
character and a lone one is refused.

Main definitions:

* `Json.Token` — the tokens;
* `Json.quotedUnits` — the units of a text up to its closing quote;
* `Json.joinUnits` — units as characters, surrogates joined in pairs;
* `Json.token?` — the first token of a text that starts with one;
* `Json.tokens` — **the tokens of a text**.
-/

import ProvenShapes.Json.Numeral

set_option autoImplicit false

namespace ProvenShapes.Json

/-- The tokens of JSON text. -/
inductive Token where
  | openArray
  | closeArray
  | openObject
  | closeObject
  | comma
  | colon
  | null
  | bool (b : Bool)
  | number (n : Literal)
  | string (s : String)
deriving DecidableEq

/-! ### Quoted text -/

/-- A unit of quoted text: a character that stands for itself, or an escaped 16-bit code. -/
inductive TextUnit where
  | char (c : Char)
  | code (n : Nat)
deriving DecidableEq

/-- The value of a hexadecimal digit. -/
def hexValue? (c : Char) : Option Nat :=
  if c.isDigit then some (c.toNat - 48)
  else if 'a' ≤ c ∧ c ≤ 'f' then some (c.toNat - 87)
  else if 'A' ≤ c ∧ c ≤ 'F' then some (c.toNat - 55)
  else none

/-- The value of four hexadecimal digits. -/
def hexCode? (a b c d : Char) : Option Nat :=
  match hexValue? a, hexValue? b, hexValue? c, hexValue? d with
  | some a, some b, some c, some d => some (((a * 16 + b) * 16 + c) * 16 + d)
  | _, _, _, _ => none

/-- The character that a one-letter escape stands for. -/
def escapeChar? (c : Char) : Option Char :=
  match c with
  | '"' => some '"'
  | '\\' => some '\\'
  | '/' => some '/'
  | 'b' => some '\x08'
  | 'f' => some '\x0c'
  | 'n' => some '\n'
  | 'r' => some '\r'
  | 't' => some '\t'
  | _ => none

/-- The units of a text up to its closing quote, and what follows the quote. -/
def quotedUnits : List Char → Option (List TextUnit × List Char)
  | [] => none
  | '"' :: rest => some ([], rest)
  | '\\' :: 'u' :: a :: b :: c :: d :: rest =>
      match hexCode? a b c d, quotedUnits rest with
      | some n, some (units, after) => some (.code n :: units, after)
      | _, _ => none
  | '\\' :: c :: rest =>
      match escapeChar? c, quotedUnits rest with
      | some e, some (units, after) => some (.char e :: units, after)
      | _, _ => none
  | c :: rest =>
      if c = '\\' ∨ c.toNat < 0x20 then none
      else
        match quotedUnits rest with
        | some (units, after) => some (.char c :: units, after)
        | none => none

/-- The code is the first of a surrogate pair. -/
def isHighSurrogate (n : Nat) : Bool := 0xd800 ≤ n && n < 0xdc00

/-- The code is the second of a surrogate pair. -/
def isLowSurrogate (n : Nat) : Bool := 0xdc00 ≤ n && n < 0xe000

/-- Units as characters: surrogates are joined in pairs, and a lone one is refused. -/
def joinUnits : List TextUnit → Option (List Char)
  | [] => some []
  | .char c :: rest => (joinUnits rest).map (c :: ·)
  | .code high :: .code low :: rest =>
      if isHighSurrogate high then
        if isLowSurrogate low then
          let c := Char.ofNat (0x10000 + (high - 0xd800) * 0x400 + (low - 0xdc00))
          (joinUnits rest).map (c :: ·)
        else none
      else if isLowSurrogate high then none
      else (joinUnits (.code low :: rest)).map (Char.ofNat high :: ·)
  | .code n :: rest =>
      if isHighSurrogate n || isLowSurrogate n then none
      else (joinUnits rest).map (Char.ofNat n :: ·)

/-- A text up to its closing quote, and what follows it. -/
def quotedText? (cs : List Char) : Option (String × List Char) :=
  match quotedUnits cs with
  | some (units, after) => (joinUnits units).map fun text => (String.ofList text, after)
  | none => none

/-! ### Tokens -/

/-- The first token of a text that starts with one, and what follows it. -/
def token? : List Char → Option (Token × List Char)
  | '[' :: rest => some (.openArray, rest)
  | ']' :: rest => some (.closeArray, rest)
  | '\x7b' :: rest => some (.openObject, rest)
  | '\x7d' :: rest => some (.closeObject, rest)
  | ',' :: rest => some (.comma, rest)
  | ':' :: rest => some (.colon, rest)
  | 'n' :: 'u' :: 'l' :: 'l' :: rest => some (.null, rest)
  | 't' :: 'r' :: 'u' :: 'e' :: rest => some (.bool true, rest)
  | 'f' :: 'a' :: 'l' :: 's' :: 'e' :: rest => some (.bool false, rest)
  | '"' :: rest => (quotedText? rest).map fun (s, after) => (.string s, after)
  | '-' :: rest => (magnitude? true rest).map fun (n, after) => (.number n, after)
  | cs => (magnitude? false cs).map fun (n, after) => (.number n, after)

/-- The character may stand between tokens. -/
def isGap (c : Char) : Bool := c == ' ' || c == '\n' || c == '\t' || c == '\r'

/-! #### Every token takes up text -/

theorem length_quotedUnits_lt {cs rest : List Char} {units : List TextUnit}
    (h : quotedUnits cs = some (units, rest)) : rest.length < cs.length := by
  fun_induction quotedUnits cs generalizing units rest with
  | case1 | case4 | case6 | case7 | case9 => simp at h
  | case2 => simp_all
  | case3 a b c d r n us after hr _ ih =>
      have := ih hr
      have eq : after = rest := (Prod.mk.injEq .. ▸ Option.some.injEq .. ▸ h).2
      simp only [List.length_cons, ← eq]
      omega
  | case5 c r _ e us after hr _ ih =>
      have := ih hr
      have eq : after = rest := (Prod.mk.injEq .. ▸ Option.some.injEq .. ▸ h).2
      simp only [List.length_cons, ← eq]
      omega
  | case8 c r _ _ _ _ us after hr ih =>
      have := ih hr
      have eq : after = rest := (Prod.mk.injEq .. ▸ Option.some.injEq .. ▸ h).2
      simp only [List.length_cons, ← eq]
      omega

theorem length_quotedText_lt {cs rest : List Char} {text : String}
    (h : quotedText? cs = some (text, rest)) : rest.length < cs.length := by
  unfold quotedText? at h
  split at h
  · next units after read =>
      obtain ⟨_, _, eq⟩ := Option.map_eq_some_iff.1 h
      obtain rfl : after = rest := (Prod.mk.inj eq).2
      exact length_quotedUnits_lt read
  · simp at h

theorem length_token_lt {cs rest : List Char} {t : Token} (h : token? cs = some (t, rest)) :
    rest.length < cs.length := by
  unfold token? at h
  split at h
  case h_1 | h_2 | h_3 | h_4 | h_5 | h_6 | h_7 | h_8 | h_9 =>
      -- a mark or a word, whose length is known
      obtain ⟨-, rfl⟩ := Prod.mk.inj (Option.some.inj h)
      simp only [List.length_cons]
      omega
  case h_10 =>
      obtain ⟨⟨text, after⟩, read, eq⟩ := Option.map_eq_some_iff.1 h
      obtain rfl : after = rest := (Prod.mk.inj eq).2
      exact Nat.lt_succ_of_lt (length_quotedText_lt read)
  case h_11 =>
      obtain ⟨⟨n, after⟩, read, eq⟩ := Option.map_eq_some_iff.1 h
      obtain rfl : after = rest := (Prod.mk.inj eq).2
      exact Nat.lt_succ_of_lt (length_magnitude_lt read)
  case h_12 =>
      obtain ⟨⟨n, after⟩, read, eq⟩ := Option.map_eq_some_iff.1 h
      obtain rfl : after = rest := (Prod.mk.inj eq).2
      exact length_magnitude_lt read

/-- The tokens of a text, or nothing if some part of it is no token. -/
def tokens (cs : List Char) : Option (List Token) :=
  match cs with
  | [] => some []
  | c :: rest =>
      if isGap c then tokens rest
      else
        match _ : token? (c :: rest) with
        | some (t, after) => (tokens after).map (t :: ·)
        | none => none
termination_by cs.length
decreasing_by
  · exact Nat.lt_succ_self rest.length
  · exact length_token_lt (by assumption)

end ProvenShapes.Json
