/-
**Classes in brackets.**

Between brackets stand characters, ranges, escapes, named classes and further brackets.  Operations
between them bind to the left.  Brackets that are still open are kept on a stack, so the number of
characters bounds the number of steps.

Main definitions:

* `Regex.asciiClass?` — the classes that can be named between colons;
* `Regex.ClassOp` — the operations;
* `Regex.Bracket` — a bracket that is still open;
* `Regex.bracket?` — **a class in brackets** and how deep it nests.
-/

import ProvenShapes.Regex.Escape

set_option autoImplicit false

namespace ProvenShapes.Regex

/-- The classes that can be named between colons inside brackets. -/
def asciiClass? : String → Option CharClass
  | "alnum" => some ⟨[(0x30, 0x39), (0x41, 0x5a), (0x61, 0x7a)]⟩
  | "alpha" => some ⟨[(0x41, 0x5a), (0x61, 0x7a)]⟩
  | "ascii" => some ⟨[(0, 0x7f)]⟩
  | "blank" => some ⟨[(9, 9), (0x20, 0x20)]⟩
  | "cntrl" => some ⟨[(0, 0x1f), (0x7f, 0x7f)]⟩
  | "digit" => some ⟨[(0x30, 0x39)]⟩
  | "graph" => some ⟨[(0x21, 0x7e)]⟩
  | "lower" => some ⟨[(0x61, 0x7a)]⟩
  | "print" => some ⟨[(0x20, 0x7e)]⟩
  | "punct" => some ⟨[(0x21, 0x2f), (0x3a, 0x40), (0x5b, 0x60), (0x7b, 0x7e)]⟩
  | "space" => some ⟨[(9, 13), (0x20, 0x20)]⟩
  | "upper" => some ⟨[(0x41, 0x5a)]⟩
  | "word" => some ⟨[(0x30, 0x39), (0x41, 0x5a), (0x5f, 0x5f), (0x61, 0x7a)]⟩
  | "xdigit" => some ⟨[(0x30, 0x39), (0x41, 0x46), (0x61, 0x66)]⟩
  | _ => none

/-- The operations between classes in brackets. -/
inductive ClassOp where
  | inter
  | diff
  | symmDiff

/-- The class of an operation. -/
def ClassOp.apply (flags : Flags) (op : ClassOp) (left right : CharClass) : CharClass :=
  let left := folded flags left
  let right := folded flags right
  match op with
  | .inter => left.inter right
  | .diff => left.diff right
  | .symmDiff => left.symmDiff right

/-! ### Open brackets -/

/-- A class and how deep it nests. -/
structure Nested where
  chars : CharClass
  depth : Nat

/-- A bracket that is still open: whether it is negated, the operation that waits for its right side,
and the characters since then, with the number of items and how deep they nest. -/
structure Bracket where
  negated : Bool
  pending : Option (ClassOp × Nested) := none
  chars : CharClass := .empty
  items : Nat := 0
  depth : Nat := 0

namespace Bracket

/-- The bracket with one more item. -/
def add (b : Bracket) (item : Nested) : Bracket :=
  { b with
    chars := b.chars ++ item.chars
    items := b.items + 1
    depth := max b.depth item.depth }

/-- The class of the items since the last operation; several items nest one deeper. -/
def latest (b : Bracket) : Nested := ⟨b.chars, if b.items ≤ 1 then b.depth else b.depth + 1⟩

/-- The class between the brackets so far. -/
def value (flags : Flags) (b : Bracket) : Nested :=
  let right := b.latest
  match b.pending with
  | some (op, left) => ⟨op.apply flags left.chars right.chars, max left.depth right.depth + 1⟩
  | none => right

/-- The class of a bracket that closes. -/
def close? (flags : Flags) (b : Bracket) : Option Nested :=
  let inner := b.value flags
  (allowed? flags (foldedThenNegated flags b.negated inner.chars)).map fun s => ⟨s, inner.depth + 1⟩

end Bracket

/-- A character as an item of a bracket. -/
def itemOfChar (c : Char) : Nested := ⟨.single c, 0⟩

/-- The bracket with the characters that stand for themselves at its start: hyphens, and a closing
bracket if it comes first.  Something must follow. -/
def leadingChars : Nat → Flags → Bracket → List Char → Option (Bracket × List Char)
  | 0, _, _, _ => none
  | fuel + 1, flags, b, cs =>
      match gap flags cs with
      | [] => none
      | '-' :: rest => leadingChars fuel flags (b.add (itemOfChar '-')) rest
      | ']' :: rest =>
          if 0 < b.items then some (b, ']' :: rest)
          else if (gap flags rest).isEmpty then none
          else some (b.add (itemOfChar ']'), rest)
      | cs => some (b, cs)

/-- A bracket that opens, and the text behind its start. -/
def openBracket? (flags : Flags) (cs : List Char) : Option (Bracket × List Char) :=
  match gap flags cs with
  | '^' :: rest => leadingChars (rest.length + 1) flags { negated := true } rest
  | cs => leadingChars (cs.length + 1) flags { negated := false } cs

/-! ### Items -/

/-- A class named between colons, and the text behind its closing bracket.  Nothing is between the
characters of its name; whether there is one does not depend on the flags. -/
def namedAscii? : List Char → Option (CharClass × Bool × List Char)
  | ':' :: rest =>
      let (negated, rest) :=
        match rest with
        | '^' :: rest => (true, rest)
        | rest => (false, rest)
      match rest.dropWhile (· != ':') with
      | ':' :: ']' :: after =>
          (asciiClass? (String.ofList (rest.takeWhile (· != ':')))).map fun s => (s, negated, after)
      | _ => none
  | _ => none

/-- A character or a class. -/
inductive BracketItem where
  | char (c : Char)
  | chars (s : CharClass)

/-- One item of a bracket. -/
def bracketItem? (flags : Flags) : List Char → Option (BracketItem × List Char)
  | [] => none
  | '\\' :: rest =>
      match escape? flags rest with
      | some (.char c, after) => some (.char c, after)
      | some (.chars s, after) => some (.chars s, after)
      | _ => none
  | c :: rest => some (.char c, rest)

/-- The hyphen before a text starts a range, unless the closing bracket or another hyphen is the next
character that is no blank.  Where comments are allowed, the first one counts like blanks only up to
its first word. -/
def startsRange (flags : Flags) (cs : List Char) : Bool :=
  let solid (cs : List Char) := cs.dropWhile Unicode.space.contains
  let ahead :=
    if flags.verbose then
      match solid cs with
      | '#' :: comment => solid comment
      | cs => cs
    else cs
  ahead.head? != some ']' && ahead.head? != some '-'

/-- An item of a bracket or a range between two, and the text behind it. -/
def bracketRange? (flags : Flags) (cs : List Char) : Option (CharClass × List Char) :=
  match bracketItem? flags cs with
  | none => none
  | some (first, rest) =>
      let alone :=
        match first with
        | .char c => CharClass.single c
        | .chars s => s
      match gap flags rest with
      | [] => none
      | '-' :: after =>
          if startsRange flags after then
            match first, bracketItem? flags (gap flags after) with
            | .char low, some (.char high, after) =>
                if low ≤ high then some (.range low high, after) else none
            | _, _ => none
          else some (alone, '-' :: after)
      | rest => some (alone, rest)

/-! ### Whole classes -/

/-- The rest of a class in brackets, and the text behind it. -/
def bracketLoop? (flags : Flags) :
    Nat → List Bracket → Bracket → List Char → Option (Nested × List Char)
  | 0, _, _, _ => none
  | fuel + 1, outer, b, cs =>
      let operation (op : ClassOp) (rest : List Char) :=
        let next : Bracket := { negated := b.negated, pending := some (op, b.value flags) }
        bracketLoop? flags fuel outer next rest
      match gap flags cs with
      | [] => none
      | '[' :: rest =>
          match namedAscii? rest with
          | some (s, negated, after) =>
              match allowed? flags (foldedThenNegated flags negated s) with
              | some s => bracketLoop? flags fuel outer (b.add ⟨s, 0⟩) after
              | none => none
          | none =>
              match openBracket? flags rest with
              | some (inner, after) => bracketLoop? flags fuel (b :: outer) inner after
              | none => none
      | ']' :: rest =>
          match b.close? flags, outer with
          | none, _ => none
          | some s, [] => some (s, rest)
          | some s, enclosing :: outer => bracketLoop? flags fuel outer (enclosing.add s) rest
      | '&' :: '&' :: rest => operation .inter rest
      | '-' :: '-' :: rest => operation .diff rest
      | '~' :: '~' :: rest => operation .symmDiff rest
      | cs =>
          match bracketRange? flags cs with
          | some (s, after) =>
              match allowed? flags s with
              | some s => bracketLoop? flags fuel outer (b.add ⟨s, 0⟩) after
              | none => none
          | none => none

/-- A class in brackets, given the text behind the opening one, and the text behind it. -/
def bracket? (flags : Flags) (cs : List Char) : Option (Nested × List Char) :=
  match openBracket? flags cs with
  | some (b, rest) => bracketLoop? flags (cs.length + 1) [] b rest
  | none => none

end ProvenShapes.Regex
