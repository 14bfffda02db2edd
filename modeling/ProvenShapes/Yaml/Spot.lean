/-
**Characters with their places.**

What a character of YAML text means depends on where it stands, so every character is kept with its
place.  All line ends are read as one break; only a line feed starts a new line in the count of
lines and columns.

Main definitions:

* `Yaml.Spot` — a character with its place;
* `Yaml.spots` — the characters of a text with their places, up to the first null character;
* `Yaml.atDocumentMark` — a line that is a document mark stands here;
* `Yaml.Gap` — blanks and breaks inside a scalar, and the text that they are folded to.
-/

set_option autoImplicit false

namespace ProvenShapes.Yaml

/-- A character with its place: its number in the text, its line and its column. -/
structure Spot where
  char : Char
  index : Nat
  line : Nat
  column : Nat
deriving DecidableEq, Repr

namespace Spot

/-- A space or a tab. -/
def isBlank (s : Spot) : Bool := s.char == ' ' || s.char == '\t'

/-- The end of a line. -/
def isBreak (s : Spot) : Bool := s.char == '\n'

/-- A blank or the end of a line. -/
def isGap (s : Spot) : Bool := s.isBlank || s.isBreak

end Spot

/-- The places of characters, given the place of the first one. -/
def place (index line column : Nat) : List Char → List Spot
  | [] => []
  | c :: rest =>
      ⟨c, index, line, column⟩ ::
        if c = '\n' then place (index + 1) (line + 1) 0 rest
        else place (index + 1) line (column + 1) rest

/-- Line ends as single breaks, at the place where they start. -/
def unifyBreaks : List Spot → List Spot
  | [] => []
  | [s] => [if s.char = '\r' then { s with char := '\n' } else s]
  | s :: t :: rest =>
      if s.char = '\r' then
        { s with char := '\n' } :: (if t.isBreak then unifyBreaks rest else unifyBreaks (t :: rest))
      else s :: unifyBreaks (t :: rest)

/-- The characters of a text with their places; a null character ends the text. -/
def spots (text : String) : List Spot :=
  unifyBreaks (place 0 1 0 (text.toList.takeWhile (· ≠ '\x00')))

/-- Nothing but a blank or a break comes next. -/
def gapFollows (rest : List Spot) : Bool :=
  match rest with
  | [] => true
  | s :: _ => s.isGap

/-- The characters that separate the parts of flow collections. -/
def isFlowMark (c : Char) : Bool :=
  c == ',' || c == '[' || c == ']' || c == '\x7b' || c == '\x7d'

/-- One of the flow characters comes next. -/
def flowMarkFollows (rest : List Spot) : Bool :=
  match rest with
  | [] => false
  | s :: _ => isFlowMark s.char

/-- A line starts here with three times the character and nothing more. -/
def atMark (c : Char) : List Spot → Bool
  | s :: t :: u :: rest =>
      s.column == 0 && s.char == c && t.char == c && u.char == c && gapFollows rest
  | _ => false

/-- A mark at which a document starts or ends stands here. -/
def atDocumentMark (rest : List Spot) : Bool := atMark '-' rest || atMark '.' rest

/-! ### Gaps inside scalars -/

/-- Blanks and breaks inside a scalar. -/
inductive Gap where
  | none
  /-- Blanks within a line, the last one first. -/
  | blanks (chars : List Char)
  /-- A break, which folds to a space unless it was escaped, and so many more. -/
  | breaks (folds : Bool) (more : Nat)
deriving DecidableEq, Repr

namespace Gap

/-- The gap holds something. -/
def isOpen : Gap → Bool
  | none => false
  | _ => true

/-- The gap runs over the end of a line. -/
def isBroken : Gap → Bool
  | breaks .. => true
  | _ => false

/-- One more blank; those around breaks do not count. -/
def addBlank (c : Char) : Gap → Gap
  | none => blanks [c]
  | blanks cs => blanks (c :: cs)
  | breaks folds more => breaks folds more

/-- One more break; blanks before the first one do not count. -/
def addBreak : Gap → Gap
  | breaks folds more => breaks folds (more + 1)
  | _ => breaks true 0

/-- The text that a gap is folded to: blanks as they are, one break as a space, more breaks as one
less. -/
def folded : Gap → List Char
  | none => []
  | blanks cs => cs.reverse
  | breaks folds 0 => if folds then [' '] else []
  | breaks _ (more + 1) => List.replicate (more + 1) '\n'

end Gap

end ProvenShapes.Yaml
