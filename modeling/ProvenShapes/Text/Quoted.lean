/-
**Quoted text for readers.**

A text in a description is written between quotes so that every character can be told: quotes and
backslashes are escaped, the common controls have short escapes, and what has no visible form of its
own is written as its code point in braces.

Main definitions:

* `Text.described` — a character of a quoted text;
* `Text.quoted` — a text between quotes.
-/

import ProvenShapes.Unicode.Visible

set_option autoImplicit false

namespace ProvenShapes.Text

/-- A character between quotes. -/
def described (c : Char) : List Char :=
  if c = '\x00' then ['\\', '0']
  else if c = '\t' then ['\\', 't']
  else if c = '\r' then ['\\', 'r']
  else if c = '\n' then ['\\', 'n']
  else if c = '"' then ['\\', '"']
  else if c = '\\' then ['\\', '\\']
  else if c.toNat < 0x7f && 0x20 ≤ c.toNat then [c]
  else if Unicode.isVisible c then [c]
  else '\\' :: 'u' :: '\x7b' :: (Nat.toDigits 16 c.toNat ++ ['\x7d'])

/-- A text between quotes. -/
def quoted (s : String) : String := String.ofList ('"' :: (s.toList.flatMap described ++ ['"']))

end ProvenShapes.Text
