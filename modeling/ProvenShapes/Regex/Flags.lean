/-
**Flags of regular expressions.**

Flags switch how the text of an expression is read: whether letters stand for both cases, which
characters the classes hold, and whether blanks and comments may stand between characters.

Main definitions:

* `Regex.Flags` — what the flags `i`, `m`, `s`, `R`, `U`, `u`, `x` switch;
* `Regex.gap` — the text behind blanks and comments, where the flags allow them;
* `Regex.spaced` — characters with blanks and comments between them;
* `Regex.folded` — a class together with the other case of its letters;
* `Regex.wordClass`, `Regex.digitClass`, `Regex.spaceClass` — the classes under flags.
-/

import ProvenShapes.Unicode.Folding
import ProvenShapes.Unicode.Property

set_option autoImplicit false

namespace ProvenShapes.Regex

/-- What the flags of an expression switch. -/
structure Flags where
  ignoreCase : Bool := false
  multiLine : Bool := false
  dotAll : Bool := false
  crlf : Bool := false
  swapGreed : Bool := false
  unicode : Bool := true
  verbose : Bool := false
deriving DecidableEq, Repr

/-- A flag switched on or off. -/
def Flags.set? (flags : Flags) (letter : Char) (value : Bool) : Option Flags :=
  match letter with
  | 'i' => some { flags with ignoreCase := value }
  | 'm' => some { flags with multiLine := value }
  | 's' => some { flags with dotAll := value }
  | 'R' => some { flags with crlf := value }
  | 'U' => some { flags with swapGreed := value }
  | 'u' => some { flags with unicode := value }
  | 'x' => some { flags with verbose := value }
  | _ => none

/-! ### Blanks and comments -/

/-- The text behind blanks and comments; `comment` tells whether the text starts inside one. -/
def skipBlanks (comment : Bool) : List Char → List Char
  | [] => []
  | c :: rest =>
      if comment then skipBlanks (c != '\n') rest
      else if c = '#' then skipBlanks true rest
      else if Unicode.space.contains c then skipBlanks false rest
      else c :: rest

/-- The text behind what the flags allow to stand between characters. -/
def gap (flags : Flags) (cs : List Char) : List Char :=
  if flags.verbose then skipBlanks false cs else cs

/-- The characters up to the first one that is not to be kept, without the blanks and comments that
the flags allow between them, and the text from there on. -/
def spacedFrom (flags : Flags) (keep : Char → Bool) (comment : Bool) :
    List Char → List Char × List Char
  | [] => ([], [])
  | c :: rest =>
      if comment then spacedFrom flags keep (c != '\n') rest
      else if flags.verbose && c == '#' then spacedFrom flags keep true rest
      else if flags.verbose && Unicode.space.contains c then spacedFrom flags keep false rest
      else if keep c then
        let (kept, after) := spacedFrom flags keep false rest
        (c :: kept, after)
      else ([], c :: rest)

/-- The characters up to the first one that is not to be kept, and the text from there on. -/
def spaced (flags : Flags) (keep : Char → Bool) (cs : List Char) : List Char × List Char :=
  spacedFrom flags keep false cs

/-! ### Classes of characters under flags -/

/-- The word characters under the flags. -/
def wordClass (flags : Flags) : CharClass :=
  if flags.unicode then Unicode.word
  else ⟨[(0x30, 0x39), (0x41, 0x5a), (0x5f, 0x5f), (0x61, 0x7a)]⟩

/-- The digits under the flags. -/
def digitClass (flags : Flags) : CharClass :=
  if flags.unicode then Unicode.digit else ⟨[(0x30, 0x39)]⟩

/-- The white space under the flags. -/
def spaceClass (flags : Flags) : CharClass :=
  if flags.unicode then Unicode.space else ⟨[(9, 13), (0x20, 0x20)]⟩

/-- A class together with the other case of its letters, where the flags ask for it. -/
def folded (flags : Flags) (s : CharClass) : CharClass :=
  if !flags.ignoreCase then s
  else if flags.unicode then Unicode.foldClosure s
  else
    let lower := s.inter ⟨[(0x41, 0x5a)]⟩
    let upper := s.inter ⟨[(0x61, 0x7a)]⟩
    s ++ ⟨lower.ranges.map fun r => (r.1 + 32, r.2 + 32)⟩ ++
      ⟨upper.ranges.map fun r => (r.1 - 32, r.2 - 32)⟩

/-- A class that the flags allow: without Unicode only ASCII characters can be meant. -/
def allowed? (flags : Flags) (s : CharClass) : Option CharClass :=
  if flags.unicode || s.ranges.all fun r => r.2 < 0x80 then some s else none

/-- A class with the other case of its letters, negated after that. -/
def foldedThenNegated (flags : Flags) (negated : Bool) (s : CharClass) : CharClass :=
  let s := folded flags s
  if negated then s.complement else s

end ProvenShapes.Regex
