/-
**Values as JSON text.**

There are two forms: a compact one without any blanks, which is how values appear in messages, and a
pretty one with each item on a line of its own, indented by two blanks a level.  The absent value is
written as the text `<undefined>`.

Main definitions:

* `Json.quoted` — a text between quotes, with its escapes;
* `Json.Form` — a form, by the blanks that it has;
* `Value.text` — **the text of a value in a form**;
* `Value.display`, `Value.toJson` — the compact and the pretty text.
-/

import ProvenShapes.Number.Text
import ProvenShapes.Value.Basic

set_option autoImplicit false

namespace ProvenShapes

/-! ### Texts -/

/-- The lower-case hexadecimal digit of a number below sixteen. -/
def Json.hexDigit (n : Nat) : Char := (Nat.toDigits 16 n).headD '0'

/-- A character inside quotes: the quote, the backslash and the controls are escaped. -/
def Json.escaped (c : Char) : List Char :=
  if c = '"' then ['\\', '"']
  else if c = '\\' then ['\\', '\\']
  else if c = '\x08' then ['\\', 'b']
  else if c = '\x0c' then ['\\', 'f']
  else if c = '\n' then ['\\', 'n']
  else if c = '\r' then ['\\', 'r']
  else if c = '\t' then ['\\', 't']
  else if c.toNat < 0x20 then
    ['\\', 'u', '0', '0', hexDigit (c.toNat / 16), hexDigit (c.toNat % 16)]
  else [c]

/-- A text between quotes. -/
def Json.quoted (s : String) : List Char := '"' :: (s.toList.flatMap Json.escaped ++ ['"'])

/-! ### Forms -/

/-- How values are laid out: the start of a line at a level of indentation, and what stands between a
key and its value. -/
structure Json.Form where
  lineBreak : Nat → List Char
  colon : List Char

/-- Without any blanks. -/
def Json.Form.compact : Json.Form := { lineBreak := fun _ => [], colon := [':'] }

/-- Each item on a line of its own. -/
def Json.Form.pretty : Json.Form :=
  { lineBreak := fun level => '\n' :: List.replicate (2 * level) ' ', colon := [':', ' '] }

/-- What stands after the last item, if there is any. -/
def Json.Form.ending {α : Type} (form : Json.Form) (level : Nat) (items : List α) : List Char :=
  if items.isEmpty then [] else form.lineBreak level

/-! ### Values -/

namespace Value

/-- How the absent value is written. -/
def undefinedText : String := "<undefined>"

mutual

/-- The text of a value in a form; `level` is the level of the line it starts on. -/
def text (form : Json.Form) (level : Nat) : Value → List Char
  | null => "null".toList
  | bool b => if b then "true".toList else "false".toList
  | number n => n.json
  | string s => Json.quoted s
  | array items => '[' :: (itemTexts form (level + 1) items ++ form.ending level items ++ [']'])
  | object fields =>
      '\x7b' :: (fieldTexts form (level + 1) fields ++ form.ending level fields ++ ['\x7d'])
  | undefined => Json.quoted undefinedText

/-- Items with commas between them. -/
def itemTexts (form : Json.Form) (level : Nat) : List Value → List Char
  | [] => []
  | [v] => form.lineBreak level ++ v.text form level
  | v :: w :: rest =>
      form.lineBreak level ++ (v.text form level ++ ',' :: itemTexts form level (w :: rest))

/-- Fields with commas between them. -/
def fieldTexts (form : Json.Form) (level : Nat) : List (String × Value) → List Char
  | [] => []
  | [(k, v)] => form.lineBreak level ++ (Json.quoted k ++ (form.colon ++ v.text form level))
  | (k, v) :: w :: rest =>
      form.lineBreak level ++ (Json.quoted k ++
        (form.colon ++ (v.text form level ++ ',' :: fieldTexts form level (w :: rest))))

end

/-- The text of a value in messages. -/
def display (v : Value) : String := String.ofList (v.text .compact 0)

/-- The pretty text of a value. -/
def toJson (v : Value) : String := String.ofList (v.text .pretty 0)

end Value

end ProvenShapes
