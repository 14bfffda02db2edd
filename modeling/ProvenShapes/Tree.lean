/-
**Trees that documents are decoded from.**

Declarations are written in more than one text format.  All of them are brought to one kind of tree:
scalars, lists and entries.  A scalar knows what it means by itself and, separately, the text it gives
where a text is wanted, because in some formats `1` is a number and also the text `1`.

Main definitions:

* `Scalar` — what a scalar means by itself;
* `Leaf` — a scalar of a tree;
* `Tree` — the trees;
* `Tree.text?`, `Tree.flag?`, `Tree.word?`, `Tree.number?`, `Tree.toValue?` — plain readings;
* `Tree.list?`, `Tree.table?` — lists and tables of readings;
* `Tree.fields?` — **a record written by names or by position**;
* `Tree.variant?` — one alternative of several.
-/

import ProvenShapes.Json.Basic
import ProvenShapes.Number.Text

set_option autoImplicit false

namespace ProvenShapes

/-- What a scalar means by itself. -/
inductive Scalar where
  | null
  | bool (b : Bool)
  | whole (n : Int)
  | real (d : Double)
  | text (s : String)

/-- A scalar of a tree. -/
structure Leaf where
  /-- What it gives where a text is wanted, if it can stand for one. -/
  spelling : Option String
  /-- What it means by itself; where that is missing only the spelling can be used. -/
  meaning : Option Scalar
  /-- It stands for something that is left out. -/
  absent : Bool := false
  /-- The name of the alternative that it is the content of. -/
  alternative : Option String := none
  /-- It is written where it stands, and not elsewhere under a name. -/
  inPlace : Bool := true

/-- A tree of scalars, lists and entries. -/
inductive Tree where
  | scalar (leaf : Leaf)
  | list (items : List Tree)
  | entries (entries : List (Tree × Tree))
deriving Inhabited

namespace Tree

/-! ### Plain readings -/

/-- The text of a scalar that gives one. -/
def text? : Tree → Option String
  | scalar leaf => leaf.spelling
  | _ => none

/-- What a scalar means. -/
def meaning? : Tree → Option Scalar
  | scalar leaf => leaf.meaning
  | _ => none

/-- The truth value that a scalar means. -/
def flag? (t : Tree) : Option Bool :=
  match t.meaning? with
  | some (.bool b) => some b
  | _ => none

/-- The unsigned 64-bit word that a scalar means. -/
def word? (t : Tree) : Option UInt64 :=
  match t.meaning? with
  | some (.whole n) => if 0 ≤ n ∧ n < UInt64.size then some (.ofNat n.toNat) else none
  | _ => none

/-- The number that a scalar means; a text means the number it denotes. -/
def number? (t : Tree) : Option Number :=
  match t.meaning? with
  | some (.whole n) => some (.ofInt n)
  | some (.real d) => some (.ofDouble d)
  | some (.text s) => (Number.read s).toOption
  | _ => none

/-- The scalar means null. -/
def isNull (t : Tree) : Bool :=
  match t.meaning? with
  | some .null => true
  | _ => false

/-- The scalar stands for something that is left out. -/
def isAbsent : Tree → Bool
  | scalar leaf => leaf.absent
  | _ => false

/-- A tree that is not written where it stands. -/
def elsewhere : Tree → Tree
  | scalar leaf => scalar { leaf with inPlace := false }
  | t => t

end Tree

/-- The value that a scalar means. -/
def Scalar.toValue : Scalar → Value
  | null => .null
  | bool b => .bool b
  | whole n => .number (.ofInt n)
  | real d => .number (.ofDouble d)
  | text s => .string s

namespace Tree

mutual

/-- The value of a tree, if its scalars have meanings and its keys are texts. -/
def toValue? : Tree → Option Value
  | scalar leaf => leaf.meaning.map Scalar.toValue
  | list items => (itemValues? items).map .array
  | entries es => (entryValues? es).map .record

/-- The values of a list of trees. -/
def itemValues? : List Tree → Option (List Value)
  | [] => some []
  | item :: rest =>
      match item.toValue?, itemValues? rest with
      | some v, some vs => some (v :: vs)
      | _, _ => none

/-- The named values of a list of entries. -/
def entryValues? : List (Tree × Tree) → Option (List (String × Value))
  | [] => some []
  | (key, item) :: rest =>
      match key.text?, item.toValue?, entryValues? rest with
      | some name, some v, some vs => some ((name, v) :: vs)
      | _, _, _ => none

end

/-! ### Lists and tables -/

/-- A list, each item of which can be read. -/
def list? {α : Type} (item? : Tree → Option α) : Tree → Option (List α)
  | list items => items.mapM item?
  | _ => none

/-- A table of names with what can be read under them; a repeated name keeps its first place and
its last reading. -/
def table? {α : Type} (item? : Tree → Option α) : Tree → Option (List (String × α))
  | entries es => do
      let named ← es.mapM fun entry => do return (← entry.1.text?, ← item? entry.2)
      return Keyed.listOf named
  | _ => none

/-! ### Records and alternatives -/

/-- The fields of a record, by name; a name that is not expected or that is repeated is refused. -/
def namedFields? (names : List String) :
    List (Tree × Tree) → List (String × Tree) → Option (List (String × Tree))
  | [], found => some found
  | (key, item) :: rest, found =>
      match key.text? with
      | some name =>
          if names.contains name && !Keyed.contains name found then
            namedFields? names rest ((name, item) :: found)
          else none
      | none => none

/-- The fields of a record, written with their names or, in the order of the names, without. -/
def fields? (names : List String) : Tree → Option (List (String × Tree))
  | entries es => namedFields? names es []
  | list items => if items.length ≤ names.length then some (names.zip items) else none
  | scalar .. => none

/-- A field that must be there. -/
def required? {α : Type} (item? : Tree → Option α) (name : String)
    (fields : List (String × Tree)) : Option α :=
  (Keyed.find? name fields).bind item?

/-- A field that has a default. -/
def default? {α : Type} (item? : Tree → Option α) (default : α) (name : String)
    (fields : List (String × Tree)) : Option α :=
  match Keyed.find? name fields with
  | some item => item? item
  | none => some default

/-- A single alternative with its name: an entry whose name is written in its place, or a scalar that
tells the name itself. -/
def variant? : Tree → Option (String × Tree)
  | entries [(scalar key, item)] =>
      if key.inPlace then key.spelling.map fun name => (name, item) else none
  | scalar leaf => leaf.alternative.map fun name => (name, scalar leaf)
  | _ => none

/-- Exactly two items. -/
def pair? {α β : Type} (first? : Tree → Option α) (second? : Tree → Option β) :
    Tree → Option (α × β)
  | list [a, b] => do return (← first? a, ← second? b)
  | _ => none

end Tree

namespace Json

/-- What a number of a JSON document means. -/
def Literal.toScalar : Literal → Scalar
  | whole n => .whole n
  | real d => .real d

mutual

/-- The tree of a JSON document. -/
def toTree : Json → Tree
  | null => .scalar { spelling := none, meaning := some .null, absent := true }
  | bool b => .scalar { spelling := none, meaning := some (.bool b) }
  | number n => .scalar { spelling := none, meaning := some n.toScalar }
  | string s => .scalar { spelling := some s, meaning := some (.text s) }
  | array items => .list (itemTrees items)
  | object es => .entries (entryTrees es)

/-- The trees of a list of JSON documents. -/
def itemTrees : List Json → List Tree
  | [] => []
  | item :: rest => item.toTree :: itemTrees rest

/-- The trees of a list of entries. -/
def entryTrees : List (String × Json) → List (Tree × Tree)
  | [] => []
  | (key, item) :: rest =>
      let name : Leaf := { spelling := some key, meaning := some (.text key) }
      (.scalar name, item.toTree) :: entryTrees rest

end

end Json

end ProvenShapes
