/-
**Classes of characters.**

A class is a list of ranges of code points.  Ranges may touch and overlap; `normal` puts them into
ascending order and joins them, which is what complements are made from.

Main definitions:

* `CharClass` — the classes;
* `CharClass.contains` — membership;
* `CharClass.normal` — ascending ranges with gaps between them;
* `CharClass.complement`, `CharClass.inter`, `CharClass.diff`, `CharClass.symmDiff` — operations on
  classes.
-/

set_option autoImplicit false

namespace ProvenShapes

/-- A class of characters: the code points of some ranges, both ends included. -/
structure CharClass where
  ranges : List (Nat × Nat)
deriving DecidableEq, Repr, Inhabited

namespace CharClass

/-- The class without characters. -/
def empty : CharClass := ⟨[]⟩

/-- The class of all characters. -/
def all : CharClass := ⟨[(0, 0x10ffff)]⟩

/-- The class of one character. -/
def single (c : Char) : CharClass := ⟨[(c.toNat, c.toNat)]⟩

/-- The class of the characters between two, both included. -/
def range (a b : Char) : CharClass := ⟨[(a.toNat, b.toNat)]⟩

/-- The code point belongs to the class. -/
def containsCode (s : CharClass) (n : Nat) : Bool := s.ranges.any fun r => r.1 ≤ n && n ≤ r.2

/-- The character belongs to the class. -/
def contains (s : CharClass) (c : Char) : Bool := s.containsCode c.toNat

/-- The characters of either class. -/
def union (s t : CharClass) : CharClass := ⟨s.ranges ++ t.ranges⟩

instance : Append CharClass := ⟨union⟩

/-- Joins each range of an ascending list with the ranges that it touches. -/
def joined : List (Nat × Nat) → List (Nat × Nat)
  | [] => []
  | r :: rest =>
      match joined rest with
      | [] => [r]
      | next :: more =>
          if next.1 ≤ r.2 + 1 then (r.1, max r.2 next.2) :: more else r :: next :: more

/-- The same class with ascending ranges that do not touch. -/
def normal (s : CharClass) : CharClass :=
  let ascending := (s.ranges.filter fun r => r.1 ≤ r.2).mergeSort fun r q => r.1 ≤ q.1
  ⟨joined ascending⟩

/-- The code point of the character after one; surrogates are no characters. -/
def next (n : Nat) : Nat := if n = 0xd7ff then 0xe000 else n + 1

/-- The code point of the character before one. -/
def previous (n : Nat) : Nat := if n = 0xe000 then 0xd7ff else n - 1

/-- The gaps behind the end of a range, given the ascending ranges that follow it.  A gap runs from
the character after a range to the character before the next one, taken in ascending order: where
there are only surrogates between two ranges, it holds the characters at both ends. -/
def gapsBehind (last : Nat) : List (Nat × Nat) → List (Nat × Nat)
  | [] => if last < 0x10ffff then [(next last, 0x10ffff)] else []
  | r :: rest =>
      (min (next last) (previous r.1), max (next last) (previous r.1)) :: gapsBehind r.2 rest

/-- The characters outside the class. -/
def complement (s : CharClass) : CharClass :=
  match s.normal.ranges with
  | [] => all
  | r :: rest => ⟨(if 0 < r.1 then [(0, previous r.1)] else []) ++ gapsBehind r.2 rest⟩

/-- The characters of both classes. -/
def inter (s t : CharClass) : CharClass :=
  ⟨s.ranges.flatMap fun r =>
    t.ranges.filterMap fun q =>
      let low := max r.1 q.1
      let high := min r.2 q.2
      if low ≤ high then some (low, high) else none⟩

/-- What is left of a range without another one. -/
def cut (r q : Nat × Nat) : List (Nat × Nat) :=
  if q.2 < r.1 || r.2 < q.1 then [r]
  else
    (if r.1 < q.1 then [(r.1, previous q.1)] else []) ++
      (if q.2 < r.2 then [(next q.2, r.2)] else [])

/-- The characters of the first class that are not in the second. -/
def diff (s t : CharClass) : CharClass :=
  ⟨t.normal.ranges.foldl (fun left q => left.flatMap fun r => cut r q) s.normal.ranges⟩

/-- The characters of exactly one of two classes. -/
def symmDiff (s t : CharClass) : CharClass := (s ++ t).diff (s.inter t)

end CharClass

end ProvenShapes
