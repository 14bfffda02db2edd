/-
**Normal forms of regular expressions.**

Before an expression is turned into an automaton, it is brought into a normal form: what stands in a
row is joined, alternatives of single characters become a class, and alternatives that begin alike
share their beginning.  The normal form matters only for the size of the automaton.

Main definitions:

* `Form` — expressions in normal form, over bytes where they are fixed;
* `Form.concat`, `Form.alternation`, `Form.repetition` — the forms of composed expressions;
* `Form.least?`, `Form.most?` — the lengths of what a form matches, in bytes;
* `Regex.form` — **the normal form of an expression**.
-/

import ProvenShapes.Regex.Basic
import ProvenShapes.Regex.Utf8

set_option autoImplicit false

namespace ProvenShapes

/-- A regular expression in normal form. -/
inductive Form where
  /-- The empty stretch. -/
  | empty
  /-- Some bytes. -/
  | literal (bytes : List Nat)
  /-- One character of a class, with the sequences of its encodings. -/
  | chars (members : CharClass) (sequences : List (List Utf8.ByteRange))
  /-- The empty stretch at a position with a condition. -/
  | look (condition : Look)
  /-- Repetitions. -/
  | times (inner : Form) (least : Nat) (most : Option Nat) (greedy : Bool)
  /-- A form whose stretch is kept under a number. -/
  | capture (index : Nat) (inner : Form)
  /-- Forms in a row. -/
  | row (parts : List Form)
  /-- Any of some forms. -/
  | anyOf (options : List Form)

namespace Form

/-! ### Equality -/

mutual

/-- Two forms are the same. -/
def same : Form → Form → Bool
  | empty, empty => true
  | literal a, literal b => a == b
  | chars s _, chars t _ => s == t
  | look c, look d => c == d
  | times f least most greedy, times g least' most' greedy' =>
      f.same g && least == least' && most == most' && greedy == greedy'
  | capture i f, capture j g => i == j && f.same g
  | row fs, row gs => sameAll fs gs
  | anyOf fs, anyOf gs => sameAll fs gs
  | _, _ => false

/-- The forms of two lists are the same one by one. -/
def sameAll : List Form → List Form → Bool
  | [], [] => true
  | f :: fs, g :: gs => f.same g && sameAll fs gs
  | _, _ => false

end

/-! ### Lengths -/

/-- A combination of two lengths, if both are known. -/
def both (combine : Nat → Nat → Nat) (m n : Option Nat) : Option Nat :=
  match m, n with
  | some m, some n => some (combine m n)
  | _, _ => none

/-- The number of bytes of a code point. -/
def width (n : Nat) : Nat :=
  if n < 0x80 then 1 else if n < 0x800 then 2 else if n < 0x10000 then 3 else 4

mutual

/-- The length of the shortest stretch that a form matches; unknown where nothing is matched. -/
def least? : Form → Option Nat
  | empty | look _ => some 0
  | literal bytes => some bytes.length
  | chars s _ => s.ranges.head?.map fun r => width r.1
  | times f least _ _ => f.least?.map fun n => n * least
  | capture _ f => f.least?
  | row fs => leastInRow? fs
  | anyOf fs => leastOfAny? fs

/-- The length of the shortest stretch that forms in a row match. -/
def leastInRow? : List Form → Option Nat
  | [] => some 0
  | f :: fs => both (· + ·) f.least? (leastInRow? fs)

/-- The length of the shortest stretch that one of some forms matches. -/
def leastOfAny? : List Form → Option Nat
  | [] => none
  | [f] => f.least?
  | f :: fs => both min f.least? (leastOfAny? fs)

end

mutual

/-- The length of the longest stretch that a form matches; unknown where nothing is matched or there
is no limit. -/
def most? : Form → Option Nat
  | empty | look _ => some 0
  | literal bytes => some bytes.length
  | chars s _ => s.ranges.getLast?.map fun r => width r.2
  | times f _ most _ => both (· * ·) f.most? most
  | capture _ f => f.most?
  | row fs => mostInRow? fs
  | anyOf fs => mostOfAny? fs

/-- The length of the longest stretch that forms in a row match. -/
def mostInRow? : List Form → Option Nat
  | [] => some 0
  | f :: fs => both (· + ·) f.most? (mostInRow? fs)

/-- The length of the longest stretch that one of some forms matches. -/
def mostOfAny? : List Form → Option Nat
  | [] => none
  | [f] => f.most?
  | f :: fs => both max f.most? (mostOfAny? fs)

end

/-! ### Composed forms -/

/-- The form of a class: a class of one character is its bytes. -/
def ofClass (s : CharClass) : Form :=
  let s := s.normal
  let sequences := s.ranges.flatMap fun r => Utf8.sequences r.1 r.2
  match s.ranges with
  | [(a, b)] => if a = b then literal (Utf8.encode a) else chars s sequences
  | _ => chars s sequences

/-- The parts of a form in a row with others. -/
def parts : Form → List Form
  | empty => []
  | row fs => fs
  | f => [f]

/-- Joins literals that follow each other. -/
def joinLiterals : List Form → List Form
  | [] => []
  | f :: fs =>
      match f, joinLiterals fs with
      | literal a, literal b :: rest => literal (a ++ b) :: rest
      | f, rest => f :: rest

/-- The form of forms in a row. -/
def concat (fs : List Form) : Form :=
  match joinLiterals (fs.flatMap parts) with
  | [] => empty
  | [f] => f
  | fs => row fs

/-- The form of a repeated form.  Repeating a form that takes up nothing once is enough. -/
def repetition (f : Form) (least : Nat) (most : Option Nat) (greedy : Bool) : Form :=
  let (least, most) :=
    if f.most? = some 0 then (min least 1, some (min (most.getD 1) 1)) else (least, most)
  if least = 0 ∧ most = some 0 then empty
  else if least = 1 ∧ most = some 1 then f
  else times f least most greedy

/-- The options of a form among others. -/
def options : Form → List Form
  | anyOf fs => fs
  | f => [f]

/-- The class of one character that a form is the bytes of. -/
def single? : Form → Option CharClass
  | literal bytes =>
      match bytes with
      | [] => none
      | lead :: more =>
          let (count, digit) :=
            if lead < 0x80 then (0, lead)
            else if lead < 0xe0 then (1, lead - 0xc0)
            else if lead < 0xf0 then (2, lead - 0xe0)
            else (3, lead - 0xf0)
          if more.length = count then
            let n := more.foldl (fun n byte => 64 * n + (byte - 0x80)) digit
            some ⟨[(n, n)]⟩
          else none
  | _ => none

/-- The class that a form is. -/
def members? : Form → Option CharClass
  | chars s _ => some s
  | _ => none

/-- The union of classes that all forms of a list give. -/
def joined? (read : Form → Option CharClass) : List Form → Option CharClass
  | [] => some .empty
  | f :: fs =>
      match read f, joined? read fs with
      | some s, some t => some (s ++ t)
      | _, _ => none

/-- The parts that two rows begin with alike. -/
def commonStart : List Form → List Form → List Form
  | f :: fs, g :: gs => if f.same g then f :: commonStart fs gs else []
  | _, _ => []

/-- The parts that all rows of a list begin with alike; only rows have parts. -/
def sharedStart : List Form → List Form
  | [row fs] => fs
  | row fs :: rest => commonStart fs (sharedStart rest)
  | _ => []

/-- A form without its first parts. -/
def dropParts (n : Nat) : Form → Form
  | row fs => concat (fs.drop n)
  | f => f

/-- The form of alternatives.  Each time a shared beginning is taken out, the alternatives get
shorter. -/
def alternationWithin : Nat → List Form → Form
  | fuel, fs =>
      match fs.flatMap options with
      | [f] => f
      | fs =>
          match joined? single? fs, joined? members? fs with
          | some s, _ => ofClass s
          | none, some s => ofClass s
          | none, none =>
              match fuel, sharedStart fs with
              | fuel + 1, start@(_ :: _) =>
                  concat (start ++ [alternationWithin fuel (fs.map (dropParts start.length))])
              | _, _ => anyOf fs

/-- The form of alternatives. -/
def alternation (fs : List Form) : Form :=
  alternationWithin (fs.foldl (fun total f => total + f.parts.length) 0) fs

end Form

/-- The normal forms of the alternatives of an expression. -/
def Regex.branches : Regex → List Form
  | empty => [.empty]
  | one chars => [.ofClass chars]
  | look condition => [.look condition]
  | append a b => [.concat [.alternation a.branches, .alternation b.branches]]
  | either a b => a.branches ++ b.branches
  | repetition inner least most greedy =>
      [.repetition (.alternation inner.branches) least most greedy]
  | group none inner => [.alternation inner.branches]
  | group (some index) inner => [.capture index (.alternation inner.branches)]

/-- The normal form of an expression. -/
def Regex.form (r : Regex) : Form := .alternation r.branches

end ProvenShapes
