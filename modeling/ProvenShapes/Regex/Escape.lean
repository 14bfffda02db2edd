/-
**Escapes in regular expressions.**

A backslash and the characters behind it stand for a character, for a class of characters or for a
condition on the position.

Main definitions:

* `Regex.Escape` — what an escape stands for;
* `Regex.hexEscape?` — a character by its code point;
* `Regex.propertyEscape?` — a class by its name;
* `Regex.escape?` — **the escape behind a backslash**.
-/

import ProvenShapes.Json.Token
import ProvenShapes.Regex.Basic
import ProvenShapes.Regex.Flags
import ProvenShapes.Unicode.Lookup

set_option autoImplicit false

namespace ProvenShapes.Regex

/-- What an escape stands for. -/
inductive Escape where
  | char (c : Char)
  | chars (s : CharClass)
  | look (condition : Look)

/-- The text of what stands in braces, given the text behind the opening one, and the text behind the
closing one. -/
def braced? (flags : Flags) (cs : List Char) : Option (List Char × List Char) :=
  match spaced flags (· != '\x7d') cs with
  | (content, _ :: after) => some (content, after)
  | (_, []) => none

/-! ### Code points -/

/-- The character with a code point, if there is one. -/
def charOfCode? (n : Nat) : Option Char := if n.isValidChar then some (Char.ofNat n) else none

/-- The natural that a list of hexadecimal digits denotes; there must be one. -/
def hexNat? (ds : List Char) : Option Nat :=
  if ds.isEmpty then none
  else ds.foldl (fun n c => match n, Json.hexValue? c with
    | some n, some d => some (16 * n + d)
    | _, _ => none) (some 0)

/-- A number of characters with gaps behind each of them. -/
def spacedTake? (flags : Flags) : Nat → List Char → Option (List Char × List Char)
  | 0, cs => some ([], cs)
  | _ + 1, [] => none
  | n + 1, c :: rest =>
      (spacedTake? flags n (gap flags rest)).map fun (taken, after) => (c :: taken, after)

/-- The character behind the mark of a hexadecimal escape: digits in braces, or as many digits as the
mark asks for. -/
def hexEscape? (flags : Flags) (width : Nat) (cs : List Char) : Option (Char × List Char) :=
  let digits :=
    match gap flags cs with
    | '\x7b' :: rest => braced? flags rest
    | cs => spacedTake? flags width cs
  match digits with
  | some (digits, after) => ((hexNat? digits).bind charOfCode?).map fun c => (c, after)
  | none => none

/-- The character behind the mark of an escape with two digits, or with digits in braces; without
Unicode the two digits must mean an ASCII character. -/
def byteEscape? (flags : Flags) (cs : List Char) : Option (Escape × List Char) :=
  match hexEscape? flags 2 cs with
  | some (c, after) =>
      if flags.unicode || c.toNat < 0x80 || (gap flags cs).head? == some '\x7b' then
        some (.char c, after)
      else none
  | none => none

/-! ### Properties -/

/-- The texts before and behind the first place where a mark stands. -/
def splitAtMark? (mark : List Char) : List Char → Option (List Char × List Char)
  | [] => none
  | c :: rest =>
      if mark.isPrefixOf (c :: rest) then some ([], (c :: rest).drop mark.length)
      else (splitAtMark? mark rest).map fun (before, after) => (c :: before, after)

/-- The class of what is written between braces, and whether its complement is meant: a name, or a
property compared to a value. -/
def propertyClass? (content : List Char) : Option (CharClass × Bool) :=
  match splitAtMark? ['!', '='] content with
  | some (property, value) => (Unicode.valued? property value).map (·, true)
  | none =>
      match splitAtMark? [':'] content with
      | some (property, value) => (Unicode.valued? property value).map (·, false)
      | none =>
          match splitAtMark? ['='] content with
          | some (property, value) => (Unicode.valued? property value).map (·, false)
          | none => (Unicode.named? content).map (·, false)

/-- The class behind the mark of a property escape: one letter, or a name in braces.  Without Unicode
there are no properties. -/
def propertyEscape? (flags : Flags) (negated : Bool) (cs : List Char) :
    Option (CharClass × List Char) :=
  if !flags.unicode then none
  else
    match gap flags cs with
    | [] | '\\' :: _ => none
    | '\x7b' :: rest =>
        match braced? flags rest with
        | some (content, after) =>
            (propertyClass? content).map fun (s, complement) =>
              (foldedThenNegated flags (negated != complement) s, after)
        | none => none
    | c :: after =>
        (Unicode.named? [c]).map fun s => (foldedThenNegated flags negated s, after)

/-! ### Conditions -/

/-- The special word boundary named in braces behind a boundary mark.  Without a letter behind the
brace it is no name, and the brace counts repetitions. -/
def namedBoundary? (flags : Flags) (cs : List Char) : Option (Option Look × List Char) :=
  match cs with
  | '\x7b' :: rest =>
      let isLetter (c : Char) := c.isAlpha || c == '-'
      match spaced flags isLetter rest with
      | (_, []) => none
      | ([], _) => some (none, cs)
      | (name, close :: after) =>
          let word := wordClass flags
          if close != '\x7d' then none
          else
            match String.ofList name with
            | "start" => some (some (.wordStart word), after)
            | "end" => some (some (.wordEnd word), after)
            | "start-half" => some (some (.wordStartHalf word), after)
            | "end-half" => some (some (.wordEndHalf word), after)
            | _ => none
  | _ => some (none, cs)

/-! ### All escapes -/

/-- The characters with a meaning of their own. -/
def isMeta (c : Char) : Bool := "\\.+*?()|[]\x7b\x7d^$#&-~".toList.contains c

/-- A character that a backslash may stand before without a meaning of its own. -/
def isEscapable (c : Char) : Bool :=
  isMeta c || (c.toNat < 0x80 && !c.isAlphanum && c != '<' && c != '>')

/-- What the characters behind a backslash stand for, and the text behind them. -/
def escape? (flags : Flags) : List Char → Option (Escape × List Char)
  | [] => none
  | c :: rest =>
      let word := wordClass flags
      let chars (s : CharClass) (negated : Bool) :=
        (allowed? flags (if negated then s.complement else s)).map fun s => (Escape.chars s, rest)
      let char (c : Char) := some (Escape.char c, rest)
      let look (condition : Look) := some (Escape.look condition, rest)
      match c with
      | 'x' => byteEscape? flags rest
      | 'u' => (hexEscape? flags 4 rest).map fun (c, after) => (.char c, after)
      | 'U' => (hexEscape? flags 8 rest).map fun (c, after) => (.char c, after)
      | 'p' => (propertyEscape? flags false rest).map fun (s, after) => (.chars s, after)
      | 'P' => (propertyEscape? flags true rest).map fun (s, after) => (.chars s, after)
      | 'd' => chars (digitClass flags) false
      | 'D' => chars (digitClass flags) true
      | 's' => chars (spaceClass flags) false
      | 'S' => chars (spaceClass flags) true
      | 'w' => chars word false
      | 'W' => chars word true
      | 'a' => char '\x07'
      | 'f' => char '\x0c'
      | 't' => char '\t'
      | 'n' => char '\n'
      | 'r' => char '\r'
      | 'v' => char '\x0b'
      | 'A' => look .textStart
      | 'z' => look .textEnd
      | 'B' => look (.boundary word true)
      | '<' => look (.wordStart word)
      | '>' => look (.wordEnd word)
      | 'b' =>
          match namedBoundary? flags rest with
          | some (some condition, after) => some (.look condition, after)
          | some (none, after) => some (.look (.boundary word false), after)
          | none => none
      | c => if isEscapable c then char c else none

end ProvenShapes.Regex
