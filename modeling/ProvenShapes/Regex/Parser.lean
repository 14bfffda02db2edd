/-
**Reading regular expressions.**

The text of an expression is read from left to right.  Groups that are still open are kept on a
stack together with the flags to restore behind them.  Each step takes up at least one character, so
the number of characters bounds the number of steps.

There are no look-around conditions and no back-references.  Braces after an item always count
repetitions.  By default characters are those of Unicode; the flag `u` can be switched off for parts
that concern ASCII only.

Main definitions:

* `Regex.group?` — how a group opens;
* `Regex.bounds?` — the bounds of a counted repetition;
* `Regex.depthLimit` — how deep an expression may nest;
* `Regex.parse?` — **the expression of a text**.
-/

import ProvenShapes.Regex.Automaton
import ProvenShapes.Regex.Bracket
import ProvenShapes.Unicode.Visible

set_option autoImplicit false

namespace ProvenShapes.Regex

/-! ### Groups -/

/-- How a group opens: the flags inside it and its name, or flags for the rest of the group around
it. -/
inductive GroupStart where
  | capture (name : Option String)
  | plain (inside : Flags)
  | setFlags (after : Flags)

/-- Reads flags up to a colon or a closing parenthesis: each at most once, at most one minus, and
none at the end.  Gives the flags and the text from the closing character on. -/
def flagLetters? (flags : Flags) (value : Bool) (seen : List Char) :
    List Char → Option (Flags × List Char × List Char)
  | [] => none
  | c :: rest =>
      if c = ':' ∨ c = ')' then
        if seen.head? == some '-' then none else some (flags, seen, c :: rest)
      else if seen.contains c then none
      else if c = '-' then flagLetters? flags false (c :: seen) rest
      else
        match flags.set? c value with
        | some flags => flagLetters? flags value (c :: seen) rest
        | none => none

/-- A character that a group's name may start with or go on with. -/
def isNameChar (first : Bool) (c : Char) : Bool :=
  c == '_' || Unicode.isLetter c ||
    (!first && (c == '.' || c == '[' || c == ']' || Unicode.isNumeral c))

/-- The name of a group up to the closing angle bracket. -/
def groupName? (cs : List Char) : Option (String × List Char) :=
  let name := cs.takeWhile (· != '>')
  match name, cs.dropWhile (· != '>') with
  | first :: more, '>' :: after =>
      if isNameChar true first && more.all (isNameChar false) then
        some (String.ofList name, after)
      else none
  | _, _ => none

/-- How a group opens, given the text behind its parenthesis.  Look-around is refused. -/
def group? (flags : Flags) (cs : List Char) : Option (GroupStart × List Char) :=
  let named (rest : List Char) :=
    (groupName? rest).map fun (name, after) => (GroupStart.capture (some name), after)
  match gap flags cs with
  | '?' :: '=' :: _ | '?' :: '!' :: _ | '?' :: '<' :: '=' :: _ | '?' :: '<' :: '!' :: _ => none
  | '?' :: 'P' :: '<' :: rest => named rest
  | '?' :: '<' :: rest => named rest
  | '?' :: rest =>
      match flagLetters? flags true [] rest with
      | some (inside, _, ':' :: after) => some (.plain inside, after)
      | some (inside, seen, ')' :: after) =>
          if seen.isEmpty then none else some (.setFlags inside, after)
      | _ => none
  | rest => some (.capture none, rest)

/-! ### Parts of an expression -/

/-- A part of an expression that was read: what it means, how deep it nests, and whether it can be
repeated. -/
structure Piece where
  regex : Regex
  depth : Nat := 0
  repeatable : Bool := true

/-- What was read of a group that is still open: the alternatives before the current one and the
parts of the current one, the latest first. -/
structure Open where
  branches : List Piece := []
  items : List Piece := []

/-- The group with one more part. -/
def Open.add (o : Open) (piece : Piece) : Open := { o with items := piece :: o.items }

/-- A sequence of parts; the latest stands first. -/
def sequence (items : List Piece) : Piece :=
  match items with
  | [] => { regex := .empty }
  | [item] => { regex := item.regex, depth := item.depth }
  | last :: earlier =>
      { regex := earlier.foldl (fun r item => .append item.regex r) last.regex
        depth := items.foldl (fun d item => max d item.depth) 0 + 1 }

/-- The alternatives of a group that closes. -/
def Open.close (o : Open) : Piece :=
  let last := sequence o.items
  match o.branches with
  | [] => last
  | branches =>
      { regex := branches.foldl (fun r branch => .either branch.regex r) last.regex
        depth := (last :: branches).foldl (fun d branch => max d branch.depth) 0 + 1 }

/-- What stands for a single character under the flags. -/
def charPiece (flags : Flags) (c : Char) : Piece := { regex := .one (folded flags (.single c)) }

/-- The characters that the dot stands for; without Unicode it stands for none. -/
def dot? (flags : Flags) : Option CharClass :=
  if !flags.unicode then none
  else if flags.dotAll then some .all
  else if flags.crlf then some (CharClass.complement ⟨[(10, 10), (13, 13)]⟩)
  else some (CharClass.complement ⟨[(10, 10)]⟩)

/-! ### Repetitions -/

/-- A decimal count; blanks may stand around it. -/
def count? (flags : Flags) (cs : List Char) : Option (Nat × List Char) :=
  let (digits, rest) := spaced flags Char.isDigit (cs.dropWhile Unicode.space.contains)
  let n := Number.natOfDigits digits
  if digits.isEmpty || UInt32.size ≤ n then none
  else some (n, gap flags (rest.dropWhile Unicode.space.contains))

/-- The bounds of a counted repetition, given the text behind its brace. -/
def bounds? (flags : Flags) (cs : List Char) : Option (Nat × Option Nat × List Char) :=
  match count? flags (gap flags cs) with
  | some (least, '\x7d' :: after) => some (least, some least, after)
  | some (least, ',' :: rest) =>
      match gap flags rest with
      | '\x7d' :: after => some (least, none, after)
      | rest =>
          match count? flags rest with
          | some (most, '\x7d' :: after) =>
              if least ≤ most then some (least, some most, after) else none
          | _ => none
  | _ => none

/-- The group with its last part repeated, and the text behind the repetition: a question mark asks
for few instead of many. -/
def Open.repeat? (flags : Flags) (least : Nat) (most : Option Nat) (o : Open) (rest : List Char) :
    Option (Open × List Char) :=
  let (greedy, after) :=
    match rest with
    | '?' :: after => (flags.swapGreed, after)
    | rest => (!flags.swapGreed, rest)
  match o.items with
  | [] => none
  | item :: items =>
      if item.repeatable then
        let piece : Piece :=
          { regex := .repetition item.regex least most greedy, depth := item.depth + 1 }
        some ({ o with items := piece :: items }, after)
      else none

/-! ### Expressions -/

/-- A group around the current one: what was read of it, the flags to restore in it, and the number
of the current one. -/
structure Enclosing where
  group : Open
  flags : Flags
  index : Option Nat

/-- What groups were met so far: how many are numbered, and the names among them. -/
structure Captures where
  count : Nat := 0
  names : List String := []

/-- One more numbered group; no name may come twice. -/
def Captures.add? (captures : Captures) (name : Option String) : Option Captures :=
  if name.any captures.names.contains then none
  else some ⟨captures.count + 1, name.toList ++ captures.names⟩

/-- Reads parts until the text ends. -/
def parseLoop? :
    Nat → Flags → Captures → List Enclosing → Open → List Char → Option Piece
  | 0, _, _, _, _, _ => none
  | fuel + 1, flags, captures, outer, o, cs =>
      let add (piece : Piece) (rest : List Char) :=
        parseLoop? fuel flags captures outer (o.add piece) rest
      let times (least : Nat) (most : Option Nat) (rest : List Char) :=
        match o.repeat? flags least most rest with
        | some (o, after) => parseLoop? fuel flags captures outer o after
        | none => none
      match gap flags cs with
      | [] => if outer.isEmpty then some o.close else none
      | '(' :: rest =>
          match group? flags rest with
          | some (.capture name, after) =>
              match captures.add? name with
              | some captures =>
                  let outer := ⟨o, flags, some captures.count⟩ :: outer
                  parseLoop? fuel flags captures outer {} after
              | none => none
          | some (.plain inside, after) =>
              parseLoop? fuel inside captures (⟨o, flags, none⟩ :: outer) {} after
          | some (.setFlags changed, after) =>
              let piece : Piece := { regex := .empty, repeatable := false }
              parseLoop? fuel changed captures outer (o.add piece) after
          | none => none
      | ')' :: rest =>
          match outer with
          | [] => none
          | enclosing :: outer =>
              let inner := o.close
              let piece : Piece :=
                { regex := .group enclosing.index inner.regex, depth := inner.depth + 1 }
              parseLoop? fuel enclosing.flags captures outer (enclosing.group.add piece) rest
      | '|' :: rest =>
          parseLoop? fuel flags captures outer ⟨sequence o.items :: o.branches, []⟩ rest
      | '[' :: rest =>
          match bracket? flags rest with
          | some (s, after) => add { regex := .one s.chars, depth := s.depth } after
          | none => none
      | '?' :: rest => times 0 (some 1) rest
      | '*' :: rest => times 0 none rest
      | '+' :: rest => times 1 none rest
      | '\x7b' :: rest =>
          match bounds? flags rest with
          | some (least, most, after) => times least most (gap flags after)
          | none => none
      | '\\' :: rest =>
          match escape? flags rest with
          | some (.char c, after) => add (charPiece flags c) after
          | some (.chars s, after) => add { regex := .one s } after
          | some (.look condition, after) => add { regex := .look condition } after
          | none => none
      | '.' :: rest =>
          match dot? flags with
          | some s => add { regex := .one s } rest
          | none => none
      | '^' :: rest =>
          let condition := if flags.multiLine then Look.lineStart flags.crlf else .textStart
          add { regex := .look condition } rest
      | '$' :: rest =>
          let condition := if flags.multiLine then Look.lineEnd flags.crlf else .textEnd
          add { regex := .look condition } rest
      | c :: rest => add (charPiece flags c) rest

/-- How deep an expression may nest. -/
def depthLimit : Nat := 250

/-- The expression of a text, if it is one and neither too deep nor too large. -/
def parse? (s : String) : Option Regex :=
  let cs := s.toList
  match parseLoop? (cs.length + 1) {} {} [] {} cs with
  | some piece =>
      if piece.depth ≤ depthLimit && piece.regex.form.fits then some piece.regex else none
  | none => none

end ProvenShapes.Regex
