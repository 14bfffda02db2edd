/-
**The scalars of YAML text.**

A scalar may run over several lines.  In plain and quoted scalars blanks around the end of a line are
dropped and line ends are folded; a block scalar is set off by indentation, and keeps its line ends or
folds them as its header says.

Main definitions:

* `Yaml.Lexeme` — the text of a scalar and what follows it;
* `Yaml.plain` — a plain scalar;
* `Yaml.singleQuoted`, `Yaml.doubleQuoted` — quoted scalars;
* `Yaml.Block`, `Yaml.block` — block scalars.
-/

import ProvenShapes.Json.Token
import ProvenShapes.Yaml.Spot

set_option autoImplicit false

namespace ProvenShapes.Yaml

/-- The text of a scalar, whether it ended with the end of a line, and what follows it. -/
structure Lexeme where
  text : String
  broken : Bool
  rest : List Spot

/-- A lexeme of reversed text. -/
def Lexeme.ofReversed (text : List Char) (broken : Bool) (rest : List Spot) : Lexeme :=
  ⟨String.ofList text.reverse, broken, rest⟩

/-- Reversed text with a gap and a character after it. -/
def extend (text : List Char) (gap : Gap) (c : Char) : List Char :=
  c :: (gap.folded.reverse ++ text)

/-! ### Plain scalars -/

/-- A plain scalar ends before this character: a colon before a gap, or, in a flow collection, one
of its marks. -/
def endsPlain (flow : Bool) (c : Char) (rest : List Spot) : Bool :=
  c == ':' && (gapFollows rest || flow && flowMarkFollows rest) || flow && isFlowMark c

/-- After a gap, a plain scalar does not go on here: in a block the line is not indented enough, or
a document mark or a comment starts. -/
def endsAfterGap (flow : Bool) (indent : Int) (s : Spot) (rest : List Spot) : Bool :=
  !flow && s.column < indent || atDocumentMark (s :: rest) || s.char == '#'

/-- A plain scalar, read after the given gap and reversed text. -/
def plain (flow : Bool) (indent : Int) (gap : Gap) (text : List Char) :
    List Spot → Option Lexeme
  | [] => some (.ofReversed text gap.isBroken [])
  | s :: rest =>
      if s.isBlank then
        if gap.isBroken && s.char == '\t' && s.column < indent then none
        else plain flow indent (gap.addBlank s.char) text rest
      else if s.isBreak then plain flow indent gap.addBreak text rest
      else if gap.isOpen && endsAfterGap flow indent s rest || endsPlain flow s.char rest then
        some (.ofReversed text gap.isBroken (s :: rest))
      else plain flow indent .none (extend text gap s.char) rest

/-! ### Quoted scalars -/

/-- A single-quoted scalar after its first quote; a quote inside is written twice. -/
def singleQuoted (gap : Gap) (text : List Char) : List Spot → Option Lexeme
  | [] => none
  | s :: rest =>
      if s.isBlank then singleQuoted (gap.addBlank s.char) text rest
      else if s.isBreak then singleQuoted gap.addBreak text rest
      else if atDocumentMark (s :: rest) then none
      else if s.char == '\'' then
        match rest with
        | t :: after =>
            if t.char == '\'' then singleQuoted .none (extend text gap '\'') after
            else some (.ofReversed (gap.folded.reverse ++ text) false rest)
        | [] => some (.ofReversed (gap.folded.reverse ++ text) false rest)
      else singleQuoted .none (extend text gap s.char) rest

/-- The character that a one-letter escape stands for. -/
def escaped? (c : Char) : Option Char :=
  match c with
  | '0' => some '\x00'
  | 'a' => some '\x07'
  | 'b' => some '\x08'
  | 't' | '\t' => some '\t'
  | 'n' => some '\n'
  | 'v' => some '\x0b'
  | 'f' => some '\x0c'
  | 'r' => some '\r'
  | 'e' => some '\x1b'
  | ' ' => some ' '
  | '"' => some '"'
  | '\'' => some '\''
  | '\\' => some '\\'
  | 'N' => some '\u0085'
  | '_' => some '\u00a0'
  | 'L' => some '\u2028'
  | 'P' => some '\u2029'
  | _ => none

/-- How many hexadecimal digits follow an escape letter. -/
def escapeDigits? (c : Char) : Option Nat :=
  match c with
  | 'x' => some 2
  | 'u' => some 4
  | 'U' => some 8
  | _ => none

/-- The character that hexadecimal digits denote. -/
def escapedCode? (digits : List Spot) : Option Char := do
  let values ← digits.mapM fun s => Json.hexValue? s.char
  let code := values.foldl (fun n d => 16 * n + d) 0
  if code.isValidChar then some (Char.ofNat code) else none

/-- A double-quoted scalar after its first quote; a backslash escapes. -/
def doubleQuoted (gap : Gap) (text : List Char) : List Spot → Option Lexeme
  | [] => none
  | s :: rest =>
      if s.isBlank then doubleQuoted (gap.addBlank s.char) text rest
      else if s.isBreak then doubleQuoted gap.addBreak text rest
      else if atDocumentMark (s :: rest) then none
      else if s.char == '"' then some (.ofReversed (gap.folded.reverse ++ text) false rest)
      else if s.char == '\\' then
        match rest with
        | [] => none
        | t :: after =>
            if t.isBreak then doubleQuoted (.breaks false 0) (gap.folded.reverse ++ text) after
            else
              match escaped? t.char, escapeDigits? t.char with
              | some c, _ => doubleQuoted .none (extend text gap c) after
              | none, some n =>
                  if (after.take n).length = n then
                    match escapedCode? (after.take n) with
                    | some c => doubleQuoted .none (extend text gap c) (after.drop n)
                    | none => none
                  else none
              | none, none => none
      else doubleQuoted .none (extend text gap s.char) rest
termination_by spots => spots.length
decreasing_by all_goals simp_wf <;> omega

/-! ### Block scalars -/

/-- What becomes of the line ends at the end of a block scalar. -/
inductive Chomping where
  | strip
  | clip
  | keep
deriving DecidableEq, Repr

/-- How a block scalar is read: its line ends are kept or folded, its tail is chomped, and it stands
in a block of some indentation. -/
structure Block where
  literal : Bool
  chomping : Chomping
  parent : Int

/-- What has been read of a block scalar. -/
structure BlockText where
  /-- The text, reversed. -/
  text : List Char := []
  /-- The end of the last line with content is pending. -/
  lineEnd : Bool := false
  /-- So many ends of empty lines are pending. -/
  emptyLines : Nat := 0
  /-- The last line with content started with a blank. -/
  blankLine : Bool := false

namespace BlockText

/-- A line with content starts: pending line ends are folded or written. -/
def startLine (literal : Bool) (b : BlockText) (c : Char) : BlockText :=
  let blank := c == ' ' || c == '\t'
  let text :=
    if !literal && b.lineEnd && !b.blankLine && !blank then
      if b.emptyLines = 0 then ' ' :: b.text else b.text
    else if b.lineEnd then '\n' :: b.text else b.text
  { text := c :: (List.replicate b.emptyLines '\n' ++ text), blankLine := blank }

/-- The text after its tail is chomped. -/
def finish (chomping : Chomping) (b : BlockText) : List Char :=
  let kept := if b.lineEnd && chomping ≠ .strip then '\n' :: b.text else b.text
  if chomping = .keep then List.replicate b.emptyLines '\n' ++ kept else kept

end BlockText

/-- The indentation of a block scalar, when the deepest of its leading lines is known. -/
def Block.indentation (b : Block) (deepest : Nat) : Nat :=
  max (max deepest (b.parent + 1).toNat) 1

/-- The lines of a block scalar.  `indent?` is its indentation once it is known, and until then
`deepest` is the deepest of the empty lines before the first one with content; `inside` says that a
line with content was begun. -/
def blockLines (b : Block) (indent? : Option Nat) (deepest : Nat) (inside : Bool)
    (read : BlockText) : List Spot → Option Lexeme
  | [] => some (.ofReversed (read.finish b.chomping) true [])
  | s :: rest =>
      if inside then
        if s.isBreak then blockLines b indent? deepest false { read with lineEnd := true } rest
        else blockLines b indent? deepest true { read with text := s.char :: read.text } rest
      else
        let short := match indent? with
          | some n => s.column < n
          | none => true
        if short && s.char == ' ' then blockLines b indent? deepest false read rest
        else if short && s.char == '\t' then none
        else
          let deepest := max deepest s.column
          if s.isBreak then
            blockLines b indent? deepest false { read with emptyLines := read.emptyLines + 1 } rest
          else
            let indent := indent?.getD (b.indentation deepest)
            if s.column = indent then
              blockLines b (some indent) deepest true (read.startLine b.literal s.char) rest
            else some (.ofReversed (read.finish b.chomping) true (s :: rest))

/-- A sign that says how the tail of a block scalar is chomped. -/
def chomping? (c : Char) : Option Chomping :=
  match c with
  | '+' => some .keep
  | '-' => some .strip
  | _ => none

/-- The header of a block scalar: chomping and an indentation from 1 to 9, in either order. -/
def blockHeader (rest : List Spot) : Option (Chomping × Option Nat × List Spot) :=
  let digit (after : List Spot) : Option (Option Nat × List Spot) :=
    match after with
    | s :: more =>
        if s.char == '0' then none
        else if s.char.isDigit then some (some (s.char.toNat - 48), more)
        else some (none, after)
    | [] => some (none, [])
  match rest with
  | s :: after =>
      match chomping? s.char with
      | some c => (digit after).map fun (n, more) => (c, n, more)
      | none => do
          let (n, more) ← digit rest
          match n, more with
          | some _, t :: last =>
              match chomping? t.char with
              | some c => some (c, n, last)
              | none => some (.clip, n, more)
          | _, _ => some (.clip, n, more)
  | [] => some (.clip, none, [])

/-- What follows the rest of a line that holds nothing but blanks and a comment. -/
def restOfLine (rest : List Spot) : Option (List Spot) :=
  let after := rest.dropWhile Spot.isBlank
  let after :=
    match after with
    | s :: _ => if s.char == '#' then after.dropWhile (fun t : Spot => !t.isBreak) else after
    | [] => []
  match after with
  | [] => some []
  | s :: more => if s.isBreak then some more else none

/-- A block scalar after its first sign, in a block of some indentation. -/
def block (literal : Bool) (parent : Int) (rest : List Spot) : Option Lexeme := do
  let (chomping, increment, after) ← blockHeader rest
  let lines ← restOfLine after
  let indent? := increment.map fun n => (max parent 0).toNat + n
  blockLines ⟨literal, chomping, parent⟩ indent? 0 false {} lines

end ProvenShapes.Yaml
