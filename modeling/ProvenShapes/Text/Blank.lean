/-
**Blank text.**

A name must hold something other than white space.  White space is the Unicode property of that
name: the five controls from the tab to the carriage return, the space, the next-line control, the
no-break space, and the space and line separators of the general punctuation and ideographic blocks.

Main definitions:

* `Text.isSpace` — the white-space characters;
* `Text.isBlank` — texts of white space only.
-/

set_option autoImplicit false

namespace ProvenShapes.Text

/-- The character is white space. -/
def isSpace (c : Char) : Bool :=
  let n := c.toNat
  (9 ≤ n && n ≤ 13) || n == 0x20 || n == 0x85 || n == 0xa0 || n == 0x1680 ||
    (0x2000 ≤ n && n ≤ 0x200a) || n == 0x2028 || n == 0x2029 || n == 0x202f || n == 0x205f ||
    n == 0x3000

/-- The text is empty or holds white space only. -/
def isBlank (s : String) : Bool := s.toList.all isSpace

end ProvenShapes.Text
