/-
**Layout: the tokens of YAML text.**

Blocks are shown by indentation, and that something is a key shows only at the colon after it.  So the
text is read with the indentation of the open blocks in mind, and with the places where a key may have
started; when the colon comes, the tokens of the key, and of the mapping that it opens, are put in at
that place.

Main definitions:

* `Yaml.Candidate` — a place where a key may have started;
* `Yaml.Layout` — the tokens so far, the open blocks and the candidates;
* `Yaml.Layout.openBlock`, `Yaml.Layout.closeBlocks` — blocks opened and closed by indentation;
* `Yaml.Layout.saveCandidate`, `Yaml.Layout.dropCandidate`, `Yaml.Layout.dropStale` — candidates;
* `Yaml.Layout.step` — one token of the text;
* `Yaml.tokens` — **all tokens of a text**.
-/

import ProvenShapes.Yaml.Scalar
import ProvenShapes.Yaml.Token

set_option autoImplicit false

namespace ProvenShapes.Yaml

/-- A place where a key may have started: the number of the token there and its place in the text.
A required key must turn out to be one. -/
structure Candidate where
  required : Bool
  token : Nat
  index : Nat
  line : Nat
  column : Nat

/-- The tokens so far and what the next ones depend on. -/
structure Layout where
  tokens : Array Token
  /-- A key may start here. -/
  keyAllowed : Bool
  /-- The candidate of the block level and of each open flow collection, innermost first. -/
  candidates : List (Option Candidate)
  /-- The indentation of the innermost block; negative outside of all blocks. -/
  indent : Int
  /-- The indentations of the blocks around it. -/
  outer : List Int
  /-- The place just after a quoted scalar, where a colon needs no gap after it. -/
  adjacent : Option Nat

namespace Layout

/-- Nothing is read yet. -/
def start : Layout where
  tokens := #[]
  keyAllowed := true
  candidates := [none]
  indent := -1
  outer := []
  adjacent := none

/-- How many flow collections are open. -/
def flowDepth (l : Layout) : Nat := l.candidates.length - 1

/-- A flow collection is open. -/
def inFlow (l : Layout) : Bool := 0 < l.flowDepth

/-- One more token. -/
def push (l : Layout) (t : Token) : Layout := { l with tokens := l.tokens.push t }

/-- A token put in before others. -/
def insert (l : Layout) (place : Nat) (t : Token) : Layout :=
  { l with tokens := (l.tokens.take place).push t ++ l.tokens.drop place }

/-- Whether a key may start here. -/
def allowKey (l : Layout) (allowed : Bool) : Layout := { l with keyAllowed := allowed }

/-! ### Blocks -/

/-- Opens a block at a column, unless one of that indentation is open; its token goes to the given
place or else to the end. -/
def openBlock (l : Layout) (column : Nat) (place : Option Nat) (t : Token) : Layout :=
  if !l.inFlow && l.indent < column then
    let opened := { l with indent := column, outer := l.indent :: l.outer }
    match place with
    | some n => opened.insert n t
    | none => opened.push t
  else l

/-- Closes the blocks, from `indent` outwards, that are indented more than a column: gives the
indentations that stay open and how many were closed. -/
def closing (column : Int) (indent : Int) : List Int → Int × List Int × Nat
  | [] => (indent, [], 0)
  | next :: outer =>
      if column < indent then
        let (inner, rest, n) := closing column next outer
        (inner, rest, n + 1)
      else (indent, next :: outer, 0)

/-- Closes the blocks that are indented more than a column. -/
def closeBlocks (l : Layout) (column : Int) : Layout :=
  if l.inFlow then l
  else
    let (indent, outer, n) := closing column l.indent l.outer
    { l with tokens := l.tokens ++ Array.replicate n Token.blockEnd, indent, outer }

/-! ### Candidates for keys -/

/-- The innermost candidate is no key; it must not be a required one. -/
def dropCandidate (l : Layout) : Option Layout :=
  match l.candidates with
  | some c :: rest => if c.required then none else some { l with candidates := none :: rest }
  | _ => some l

/-- A key may have started here. -/
def saveCandidate (l : Layout) (s : Spot) : Option Layout :=
  if l.keyAllowed then
    (l.dropCandidate).map fun l =>
      let candidate : Candidate := {
        required := l.inFlow && l.indent == (s.column : Int)
        token := l.tokens.size
        index := s.index
        line := s.line
        column := s.column }
      { l with candidates := some candidate :: l.candidates.tail }
  else some l

/-- A key is written on one line and is at most 1024 characters long. -/
def isStale (s : Spot) (c : Candidate) : Bool := c.line < s.line || c.index + 1024 < s.index

/-- Candidates that are too far back are no keys; none of them must be a required one. -/
def dropStale (l : Layout) (s : Spot) : Option Layout := do
  let candidates ← l.candidates.mapM fun candidate =>
    match candidate with
    | some c => if isStale s c then (if c.required then none else some none) else some (some c)
    | none => some none
  return { l with candidates }

/-! ### Tokens -/

/-- A token of one character that is no key. -/
def mark (l : Layout) (t : Token) (allowed : Bool) : Option Layout :=
  (l.dropCandidate).map fun l => (l.allowKey allowed).push t

/-- A flow collection is opened; it may be a key. -/
def openFlow (l : Layout) (s : Spot) (t : Token) : Option Layout := do
  let l ← l.saveCandidate s
  if l.flowDepth < 255 then
    return ({ l with candidates := none :: l.candidates }.allowKey true).push t
  else none

/-- A flow collection is closed. -/
def closeFlow (l : Layout) (t : Token) : Option Layout := do
  let l ← l.dropCandidate
  let l := if l.inFlow then { l with candidates := l.candidates.tail } else l
  return (l.allowKey false).push t

/-- An entry of a block sequence. -/
def blockEntry (l : Layout) (s : Spot) : Option Layout :=
  if l.inFlow || !l.keyAllowed then none
  else (l.openBlock s.column none .blockSequence).mark .blockEntry true

/-- A key that is marked as one. -/
def explicitKey (l : Layout) (s : Spot) : Option Layout :=
  if l.inFlow then l.mark .key false
  else if l.keyAllowed then (l.openBlock s.column none .blockMapping).mark .key true
  else none

/-- The colon between a key and its value.  A candidate turns out to be a key, which may open a
mapping. -/
def colon (l : Layout) (s : Spot) : Option Layout :=
  match l.candidates with
  | some c :: rest =>
      let keyed := { l with candidates := none :: rest }.insert c.token .key
      some (((keyed.openBlock c.column (some c.token) .blockMapping).allowKey false).push .value)
  | _ =>
      if l.inFlow then some ((l.allowKey false).push .value)
      else if l.keyAllowed then
        some (((l.openBlock s.column none .blockMapping).allowKey true).push .value)
      else none

/-- A mark at which a document starts or ends. -/
def documentMark (l : Layout) (t : Token) : Option Layout := (l.closeBlocks (-1)).mark t false

/-- A scalar on its line, which may be a key. -/
def scalar (l : Layout) (s : Spot) (style : Style) (read : Option Lexeme) :
    Option (Layout × List Spot) := do
  let l ← l.saveCandidate s
  let lexeme ← read
  return ((l.allowKey lexeme.broken).push (.scalar style lexeme.text), lexeme.rest)

/-- A quoted scalar. -/
def quoted (l : Layout) (s : Spot) (read : Option Lexeme) : Option (Layout × List Spot) := do
  let (l, rest) ← l.scalar s .quoted read
  return ({ l with adjacent := rest.head?.map Spot.index }, rest)

/-! ### Anchors, tags and directives -/

/-- The characters of names. -/
def isNameChar (c : Char) : Bool := c.isAlphanum || c == '_' || c == '-'

/-- The characters that may follow the name of an anchor or alias. -/
def endsName (rest : List Spot) : Bool :=
  match rest with
  | [] => true
  | s :: _ => s.isGap || "?:,]\x7d%@`".toList.contains s.char

/-- The name of an anchor or alias. -/
def anchorName (rest : List Spot) : Option (String × List Spot) :=
  let name := rest.takeWhile fun s => isNameChar s.char
  let after := rest.drop name.length
  if name.isEmpty || !endsName after then none
  else some (String.ofList (name.map Spot.char), after)

/-- An anchor or an alias, which may belong to a key. -/
def anchor (l : Layout) (s : Spot) (rest : List Spot) (t : String → Token) :
    Option (Layout × List Spot) := do
  let l ← l.saveCandidate s
  let (name, after) ← anchorName rest
  return ((l.allowKey false).push (t name), after)

/-- The characters that tags are made of besides those of names. -/
def isTagChar (c : Char) : Bool := isNameChar c || ";/?:@&=+$,.!~*'()[]".toList.contains c

/-- The byte that a percent sign and two hexadecimal digits stand for. -/
def tagByte : List Spot → Option (Nat × List Spot)
  | p :: a :: b :: rest =>
      if p.char == '%' then do
        let high ← Json.hexValue? a.char
        let low ← Json.hexValue? b.char
        return (16 * high + low, rest)
      else none
  | _ => none

/-- The character that escaped bytes stand for.  One byte stands for an ASCII character; a leading
byte and the byte behind it are the two halves of a code point, which must be one of a character. -/
def tagEscape (here : List Spot) : Option (Char × List Spot) := do
  let (lead, rest) ← tagByte here
  if lead < 0x80 then return (Char.ofNat lead, rest)
  else if 0xc0 ≤ lead ∧ lead < 0xd8 then
    let (trail, rest) ← tagByte rest
    if 0x80 ≤ trail ∧ trail < 0xc0 then return (Char.ofNat (256 * lead + trail), rest) else none
  else none

/-- The text of the characters of a tag; `fuel` bounds their number. -/
def tagTextWithin : Nat → List Spot → Option (List Char × List Spot)
  | 0, rest => some ([], rest)
  | _, [] => some ([], [])
  | fuel + 1, s :: rest =>
      if s.char == '%' then do
        let (c, after) ← tagEscape (s :: rest)
        let (text, last) ← tagTextWithin fuel after
        return (c :: text, last)
      else if isTagChar s.char then do
        let (text, last) ← tagTextWithin fuel rest
        return (s.char :: text, last)
      else some ([], s :: rest)

/-- The text of the characters of a tag, where percent signs and hexadecimal digits stand for other
characters. -/
def tagText (here : List Spot) : Option (List Char × List Spot) := tagTextWithin here.length here

/-- A tag after its exclamation mark: `<…>`, or a handle between exclamation marks and the text
after it, or only such a text. -/
def tagOf (rest : List Spot) : Option (Tag × List Spot) := do
  match rest with
  | s :: after =>
      if s.char == '<' then
        let (text, last) ← tagText after
        match last with
        | t :: more =>
            if t.char == '>' && !text.isEmpty then return (⟨"", String.ofList text⟩, more) else none
        | [] => none
      else
        let name := rest.takeWhile fun t => isNameChar t.char
        match rest.drop name.length with
        | t :: more =>
            if t.char == '!' then
              let (text, last) ← tagText more
              let handle := '!' :: (name.map Spot.char ++ ['!'])
              if text.isEmpty then none
              else return (⟨String.ofList handle, String.ofList text⟩, last)
            else
              let (text, last) ← tagText rest
              if text.isEmpty then return (⟨"", "!"⟩, last)
              else return (⟨"!", String.ofList text⟩, last)
        | [] =>
            let (text, last) ← tagText rest
            return (⟨"!", String.ofList text⟩, last)
  | [] => return (⟨"", "!"⟩, [])

/-- A tag, which may belong to a key. -/
def tag (l : Layout) (s : Spot) (rest : List Spot) : Option (Layout × List Spot) := do
  let l ← l.saveCandidate s
  let (t, after) ← tagOf rest
  if gapFollows after then return ((l.allowKey false).push (.tag t), after) else none

/-- What follows a number of one to nine digits in a version. -/
def versionNumber (rest : List Spot) : Option (List Spot) :=
  let digits := rest.takeWhile fun s => s.char.isDigit
  if digits.isEmpty || 9 < digits.length then none else some (rest.drop digits.length)

/-- What follows the line of a version directive, given the text behind its name. -/
def version (rest : List Spot) : Option (List Spot) := do
  match ← versionNumber (rest.dropWhile Spot.isBlank) with
  | dot :: minor => if dot.char == '.' then restOfLine (← versionNumber minor) else none
  | [] => none

/-- What follows the line of a tag directive, given the text behind its name: a handle, which has an
exclamation mark at both ends or is one, and a text. -/
def tagDirective (rest : List Spot) : Option (List Spot) := do
  match rest.dropWhile Spot.isBlank with
  | s :: after =>
      if s.char != '!' then none
      else
        let name := after.takeWhile fun t => isNameChar t.char
        let afterName := after.drop name.length
        let bare := if name.isEmpty then some afterName else none
        let afterHandle ← match afterName with
          | t :: more => if t.char == '!' then some more else bare
          | [] => bare
        let (text, last) ← tagText (afterHandle.dropWhile Spot.isBlank)
        if text.isEmpty || !gapFollows last then none else restOfLine last
  | [] => none

/-- A directive after its percent sign. -/
def directive (l : Layout) (rest : List Spot) : Option (Layout × List Spot) := do
  let l ← (l.closeBlocks (-1)).mark .directive false
  let name := rest.takeWhile fun s => isNameChar s.char
  let after := rest.drop name.length
  if name.isEmpty || !gapFollows after then none
  else if name.map Spot.char == "YAML".toList then return (l, ← version after)
  else if name.map Spot.char == "TAG".toList then return (l, ← tagDirective after)
  else return (l, after.dropWhile fun s => !s.isBreak)

/-! ### Reading the text -/

/-- What follows blanks, breaks and comments, and whether a key may start there.  A tab counts as a
blank only where no key may start. -/
def skip (flow comment allowed : Bool) : List Spot → Bool × List Spot
  | [] => (allowed, [])
  | s :: rest =>
      if s.isBreak then skip flow false (allowed || !flow) rest
      else if comment then skip flow true allowed rest
      else if s.char == '#' then skip flow true allowed rest
      else if s.char == ' ' || s.char == '\t' && (flow || !allowed) then
        skip flow false allowed rest
      else (allowed, s :: rest)

/-- The colon here divides a key and its value. -/
def isColon (l : Layout) (s : Spot) (rest : List Spot) : Bool :=
  gapFollows rest || l.inFlow && (flowMarkFollows rest || l.adjacent == some s.index)

/-- A plain scalar, which may be a key. -/
def plainScalar (l : Layout) (s : Spot) (rest : List Spot) : Option (Layout × List Spot) :=
  l.scalar s .plain (plain l.inFlow (l.indent + 1) .none [] (s :: rest))

/-- One token of the text, and what follows it. -/
def step (l : Layout) (s : Spot) (rest : List Spot) : Option (Layout × List Spot) :=
  let here := s :: rest
  let one (next : Option Layout) : Option (Layout × List Spot) := next.map fun l => (l, rest)
  if s.column = 0 ∧ s.char = '%' then l.directive rest
  else if atMark '-' here then (l.documentMark .documentStart).map fun l => (l, rest.drop 2)
  else if atMark '.' here then (l.documentMark .documentEnd).map fun l => (l, rest.drop 2)
  else
    match s.char with
    | '[' => one (l.openFlow s .flowSequence)
    | '\x7b' => one (l.openFlow s .flowMapping)
    | ']' => one (l.closeFlow .flowSequenceEnd)
    | '\x7d' => one (l.closeFlow .flowMappingEnd)
    | ',' => one (l.mark .flowEntry true)
    | '-' => if gapFollows rest then one (l.blockEntry s) else l.plainScalar s rest
    | '?' => if gapFollows rest then one (l.explicitKey s) else l.plainScalar s rest
    | ':' => if l.isColon s rest then one (l.colon s) else l.plainScalar s rest
    | '*' => l.anchor s rest .alias
    | '&' => l.anchor s rest .anchor
    | '!' => l.tag s rest
    | '|' =>
        if l.inFlow then l.plainScalar s rest
        else l.scalar s .quoted (block true l.indent rest)
    | '>' =>
        if l.inFlow then l.plainScalar s rest
        else l.scalar s .quoted (block false l.indent rest)
    | '\'' => l.quoted s (singleQuoted .none [] rest)
    | '"' => l.quoted s (doubleQuoted .none [] rest)
    | '%' | '@' | '\x60' => none
    | _ => l.plainScalar s rest

/-- The tokens of a text from here on. -/
def run (l : Layout) (here : List Spot) : Option (Array Token) :=
  let (allowed, after) := skip l.inFlow false l.keyAllowed here
  match after with
  | [] =>
      if l.inFlow then none
      else (l.closeBlocks (-1)).dropCandidate.map Layout.tokens
  | s :: rest =>
      match (l.allowKey allowed).dropStale s with
      | none => none
      | some l =>
          match (l.closeBlocks s.column).step s rest with
          | none => none
          | some (next, more) => if more.length < here.length then next.run more else none
termination_by here.length

end Layout

/-- The tokens of a text. -/
def tokens (text : String) : Option (List Token) := (Layout.start.run (spots text)).map Array.toList

end ProvenShapes.Yaml
