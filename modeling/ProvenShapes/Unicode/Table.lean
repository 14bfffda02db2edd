/-
**Tables of characters as texts.**

Classes of characters given by lists of code points are kept as texts and read when they are asked
for.  There are two forms: runs, where every code point has a label and the table tells where the
label changes, and ranges, which tell the members of one class.

Main definitions:

* `Unicode.Runs` — labelled runs of code points, with `Runs.ofText` and `Runs.classOf`;
* `Unicode.rangesOfText` — the class of a text of ranges.
-/

import ProvenShapes.Regex.CharClass

set_option autoImplicit false

namespace ProvenShapes.Unicode

/-- The value of a hexadecimal digit in upper case. -/
def hexValue (c : Char) : Nat := if c.isDigit then c.toNat - 48 else c.toNat - 55

/-- The natural that a list of hexadecimal digits denotes. -/
def natOfHex (ds : List Char) : Nat := ds.foldl (fun n c => 16 * n + hexValue c) 0

/-- The natural that a text of hexadecimal digits denotes. -/
def natOfText (text : String) : Nat := natOfHex text.toList

/-- The words of a text, which blanks and line ends separate. -/
def words (text : String) : List String :=
  (text.splitToList Char.isWhitespace).filter fun word => !word.isEmpty

/-! ### Runs -/

/-- Runs of code points: the label and the first code point of each, in ascending order. -/
abbrev Runs := List (String × Nat)

/-- The runs of a text of words, each a label of a fixed width followed by a code point. -/
def Runs.ofText (width : Nat) (text : String) : Runs :=
  (words text).map fun word =>
    let cs := word.toList
    (String.ofList (cs.take width), natOfHex (cs.drop width))

/-- The class of all runs whose label satisfies a condition. -/
def Runs.classOf (select : String → Bool) : Runs → CharClass
  | [] => .empty
  | [(label, first)] => if select label then ⟨[(first, 0x10ffff)]⟩ else .empty
  | (label, first) :: (next, start) :: rest =>
      let later := Runs.classOf select ((next, start) :: rest)
      if select label then ⟨(first, start - 1) :: later.ranges⟩ else later

/-! ### Ranges -/

/-- The ranges of a word: one code point `A`, all from `A` to `B` written `A-B`, or every `S`-th of
them written `A-B/S`. -/
def rangesOfWord (word : String) : List (Nat × Nat) :=
  match word.splitOn "-" with
  | [first, rest] =>
      let first := natOfText first
      match rest.splitOn "/" with
      | [last, step] =>
          let last := natOfText last
          let step := natOfText step
          (List.range ((last - first) / step + 1)).map fun i => (first + i * step, first + i * step)
      | _ => [(first, natOfText rest)]
  | _ => [(natOfText word, natOfText word)]

/-- The class of a text of ranges. -/
def rangesOfText (text : String) : CharClass := ⟨(words text).flatMap rangesOfWord⟩

end ProvenShapes.Unicode
