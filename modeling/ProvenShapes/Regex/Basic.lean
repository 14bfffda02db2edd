/-
**Regular expressions.**

An expression describes which stretches of a text it matches, from one position between characters
to another.  Only whether there is a match is ever asked, so there is no preference among matches,
and an expression is run on a whole set of positions at once: `Regex.advance` takes the positions
where matches may start to the positions where they may end.

Main definitions:

* `Look` — conditions on a position: ends of the text and of lines, word boundaries;
* `Regex` — the expressions;
* `Regex.Matches` — the stretches an expression matches, as a relation;
* `Regex.advance` — the ends of all matches that start at given positions;
* `Regex.isMatch` — some stretch of the text matches.
-/

import ProvenShapes.Regex.CharClass

set_option autoImplicit false

namespace ProvenShapes

/-- A condition on a position in a text. -/
inductive Look where
  /-- The start of the text. -/
  | textStart
  /-- The end of the text. -/
  | textEnd
  /-- The start of a line; with `crlf` a carriage return ends lines too. -/
  | lineStart (crlf : Bool)
  /-- The end of a line. -/
  | lineEnd (crlf : Bool)
  /-- A position between a word character and another one or an end of the text, or, negated, any
  other position. -/
  | boundary (word : CharClass) (negated : Bool)
  /-- A boundary with the word after it. -/
  | wordStart (word : CharClass)
  /-- A boundary with the word before it. -/
  | wordEnd (word : CharClass)
  /-- No word character before the position. -/
  | wordStartHalf (word : CharClass)
  /-- No word character after the position. -/
  | wordEndHalf (word : CharClass)
deriving DecidableEq

/-- A regular expression. -/
inductive Regex where
  /-- The empty stretch. -/
  | empty
  /-- One character of a class. -/
  | one (chars : CharClass)
  /-- The empty stretch at a position with a condition. -/
  | look (condition : Look)
  /-- One expression after the other. -/
  | append (first second : Regex)
  /-- Either expression. -/
  | either (left right : Regex)
  /-- At least `least` repetitions, and at most `most` if there is a limit.  A greedy one prefers
  many; which stretches match does not depend on that. -/
  | repetition (inner : Regex) (least : Nat) (most : Option Nat) (greedy : Bool)
  /-- An expression in parentheses, with the number under which its stretch is kept, if any. -/
  | group (index : Option Nat) (inner : Regex)

/-! ### Conditions -/

namespace Look

/-- The characters before and after a position. -/
structure Around where
  before : Option Char
  after : Option Char

/-- The characters around a position of a text. -/
def around (text : Array Char) (position : Nat) : Around :=
  { before := if position = 0 then none else text[position - 1]?
    after := text[position]? }

/-- A character is a word character. -/
def isWord (word : CharClass) : Option Char → Bool
  | some c => word.contains c
  | none => false

/-- The condition holds between two characters. -/
def holds (condition : Look) (here : Around) : Bool :=
  match condition with
  | textStart => here.before.isNone
  | textEnd => here.after.isNone
  | lineStart crlf =>
      match here.before with
      | none => true
      | some '\n' => true
      | some '\r' => crlf && here.after != some '\n'
      | some _ => false
  | lineEnd crlf =>
      match here.after with
      | none => true
      | some '\n' => !crlf || here.before != some '\r'
      | some '\r' => crlf
      | some _ => false
  | boundary word negated => (isWord word here.before != isWord word here.after) != negated
  | wordStart word => !isWord word here.before && isWord word here.after
  | wordEnd word => isWord word here.before && !isWord word here.after
  | wordStartHalf word => !isWord word here.before
  | wordEndHalf word => !isWord word here.after

end Look

namespace Regex

/-! ### The stretches an expression matches -/

mutual

/-- An expression matches the stretch from one position to another. -/
inductive Matches (text : Array Char) : Regex → Nat → Nat → Prop where
  | empty {i : Nat} : Matches text .empty i i
  | one {chars : CharClass} {c : Char} {i : Nat} (here : text[i]? = some c)
      (inside : chars.contains c = true) : Matches text (.one chars) i (i + 1)
  | look {condition : Look} {i : Nat} (holds : condition.holds (Look.around text i) = true) :
      Matches text (.look condition) i i
  | append {a b : Regex} {i j k : Nat} (first : Matches text a i j) (second : Matches text b j k) :
      Matches text (.append a b) i k
  | left {a b : Regex} {i j : Nat} (h : Matches text a i j) : Matches text (.either a b) i j
  | right {a b : Regex} {i j : Nat} (h : Matches text b i j) : Matches text (.either a b) i j
  | repetition {inner : Regex} {least n i j : Nat} {most : Option Nat} {greedy : Bool}
      (enough : least ≤ n) (limited : ∀ m, most = some m → n ≤ m)
      (times : Repeats text inner n i j) : Matches text (.repetition inner least most greedy) i j
  | group {index : Option Nat} {inner : Regex} {i j : Nat} (h : Matches text inner i j) :
      Matches text (.group index inner) i j

/-- An expression matches a stretch in a number of consecutive parts. -/
inductive Repeats (text : Array Char) : Regex → Nat → Nat → Nat → Prop where
  | none {inner : Regex} {i : Nat} : Repeats text inner 0 i i
  | more {inner : Regex} {n i j k : Nat} (first : Matches text inner i j)
      (rest : Repeats text inner n j k) : Repeats text inner (n + 1) i k

end

/-! ### Running an expression -/

/-- The image of a set of positions, taken again and again up to a number of rounds: all positions
reached from `seen` and `fresh`, where `fresh` are those whose image is not yet known.  Each round
finds a new position or is the last one, so as many rounds as there are positions are as good as any
number. -/
def closure (step : List Nat → List Nat) : Nat → List Nat → List Nat → List Nat
  | 0, seen, fresh => seen ++ fresh
  | rounds + 1, seen, fresh =>
      let known := seen ++ fresh
      let next := ((step fresh).filter fun p => !known.contains p).eraseDups
      if next.isEmpty then known else closure step rounds known next

/-- The image of a set of positions, taken a number of times.  Once a set is its own image, it stays
the same. -/
def iterate (step : List Nat → List Nat) : Nat → List Nat → List Nat
  | 0, positions => positions
  | n + 1, positions =>
      let next := step positions
      if next == positions then positions else iterate step n next

/-- The positions where matches end that start at one of the given positions. -/
def advance (text : Array Char) : Regex → List Nat → List Nat
  | empty, positions => positions
  | one chars, positions =>
      positions.filterMap fun i =>
        match text[i]? with
        | some c => if chars.contains c then some (i + 1) else none
        | none => none
  | look condition, positions => positions.filter fun i => condition.holds (Look.around text i)
  | append a b, positions => b.advance text (a.advance text positions)
  | either a b, positions => (a.advance text positions ++ b.advance text positions).eraseDups
  | repetition inner least most _, positions =>
      let step := inner.advance text
      let rounds :=
        match most with
        | some most => min (most - least) (text.size + 1)
        | none => text.size + 1
      closure step rounds [] (iterate step least positions)
  | group _ inner, positions => inner.advance text positions

/-- Some stretch of the text matches. -/
def isMatch (r : Regex) (s : String) : Bool :=
  let text := s.toList.toArray
  !(r.advance text (List.range (text.size + 1))).isEmpty

end Regex

end ProvenShapes
