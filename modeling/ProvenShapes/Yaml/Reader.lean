/-
**Reading YAML text.**

A plain scalar means null, a truth value or a number if it is written like one, and otherwise its
text; a quoted one means its text, and a tag tells what any scalar means.  Where a text is wanted,
every scalar gives its own.

Main definitions:

* `Yaml.plainMeaning?` — what a plain scalar means;
* `Yaml.taggedMeaning?` — what a scalar with a tag means;
* `Yaml.Node.toTree` — the tree of a node;
* `Yaml.tree?` — **the tree of a text**;
* `Value.ofYaml?` — the value of a text.
-/

import ProvenShapes.Tree
import ProvenShapes.Yaml.Layout
import ProvenShapes.Yaml.Node

set_option autoImplicit false

namespace ProvenShapes.Yaml

/-! ### Plain scalars -/

/-- The natural that digits denote in a base; there must be at least one. -/
def natInBase? (base : Nat) (ds : List Char) : Option Nat :=
  if ds.isEmpty then none
  else ds.foldlM (fun n c => do
    let d ← Json.hexValue? c
    if d < base then return base * n + d else none) 0

/-- The base that the letter after a leading zero tells. -/
def base? (c : Char) : Option Nat :=
  match c with
  | 'x' => some 16
  | 'o' => some 8
  | 'b' => some 2
  | _ => none

/-- A whole number in the given bounds. -/
def within (low high : Int) (n : Int) : Option Int := if low ≤ n ∧ n ≤ high then some n else none

/-- The whole number of a text that tells its base: unsigned, or negative, in 64 bits. -/
def wholeInBase? (cs : List Char) : Option Int :=
  let unsigned (letter : Char) (ds : List Char) : Option Int := do
    let base ← base? letter
    let n ← natInBase? base (match ds with | '+' :: rest => rest | ds => ds)
    within 0 (UInt64.size - 1) n
  match cs with
  | '0' :: letter :: ds | '+' :: '0' :: letter :: ds => unsigned letter ds
  | '-' :: '0' :: letter :: ds => do
      let base ← base? letter
      let n ← natInBase? base ds
      within Int64.minValue.toInt 0 (-n)
  | _ => none

/-- Digits with a leading zero, which are a text and no number. -/
def hasLeadingZero (cs : List Char) : Bool :=
  match (Number.spanSign cs).2 with
  | '0' :: d :: rest => (d :: rest).all Char.isDigit
  | _ => false

/-- The name of an infinity or of not-a-number. -/
def special? (cs : List Char) : Option Double :=
  let infinities := [".inf", ".Inf", ".INF"]
  let text := String.ofList cs
  if infinities.contains (String.ofList (cs.dropWhile (· == '+'))) then some (.infinite false)
  else if infinities.any fun name => text == "-" ++ name then some (.infinite true)
  else if [".nan", ".NaN", ".NAN"].contains text then some .nan
  else none

/-- A double with a finite value. -/
def finite? (cs : List Char) : Option Double :=
  match Number.readDouble? cs with
  | some d => if d.isFinite then some d else none
  | none => none

/-- What a decimal number means.  A whole one must have 64 bits; up to 128 bits it means nothing, and
beyond that it is a double. -/
def decimalMeaning? (n : Int) (cs : List Char) : Option Scalar :=
  if Int64.minValue.toInt ≤ n ∧ n < UInt64.size then some (.whole n)
  else if -((1 <<< 127 : Nat) : Int) ≤ n ∧ n < (1 <<< 128 : Nat) then none
  else some ((finite? cs).elim (.text (String.ofList cs)) .real)

/-- What a plain scalar means. -/
def plainMeaning? (text : String) : Option Scalar :=
  let cs := text.toList
  if text = "~" ∨ text = "null" then some .null
  else if text = "true" then some (.bool true)
  else if text = "false" then some (.bool false)
  else
    match wholeInBase? cs with
    | some n => some (.whole n)
    | none =>
        if hasLeadingZero cs then some (.text text)
        else
          match Number.readInt? cs with
          | some n => decimalMeaning? n cs
          | none =>
              match special? cs with
              | some d => some (.real d)
              | none => some ((finite? cs).elim (.text text) .real)

/-- What a scalar with a tag means: a tag of a simple type wants a scalar of that type, and any other
makes it a text. -/
def taggedMeaning? (tag : Tag) (text : String) : Option Scalar :=
  if tag.handle = "!!" then
    match tag.suffix with
    | "bool" =>
        if text = "true" then some (.bool true)
        else if text = "false" then some (.bool false)
        else none
    | "int" => ((Number.readInt? text.toList).bind (within Int64.minValue.toInt Int64.maxValue.toInt)).map .whole
    | "float" => (Number.readDouble? text.toList).map .real
    | "null" => if text = "~" ∨ text = "null" then some .null else none
    | _ => some (.text text)
  else some (.text text)

/-- What a scalar means. -/
def meaning? (style : Style) (tag : Option Tag) (text : String) : Option Scalar :=
  match tag, style with
  | some tag, _ => taggedMeaning? tag text
  | none, .plain => plainMeaning? text
  | none, .quoted => some (.text text)

/-- The scalar stands for something that is left out: it is a plain null. -/
def isAbsent (style : Style) (tag : Option Tag) (text : String) : Bool :=
  style == .plain && (tag == none || tag == some ⟨"!!", "null"⟩) && (text == "~" || text == "null")

/-- The name of an alternative that a tag tells. -/
def Tag.alternative? (tag : Tag) : Option String :=
  if tag.handle = "!" then some tag.suffix else none

/-! ### Trees -/

namespace Node

mutual

/-- The tree of a node. -/
def toTree : Node → Tree
  | scalar style tag text =>
      .scalar {
        spelling := some text
        meaning := meaning? style tag text
        absent := isAbsent style tag text
        alternative := tag.bind Tag.alternative? }
  | sequence items => .list (itemTrees items)
  | mapping entries => .entries (entryTrees entries)
  | copyOf _ target => target.toTree.elsewhere

/-- The trees of a list of nodes. -/
def itemTrees : List Node → List Tree
  | [] => []
  | item :: rest => item.toTree :: itemTrees rest

/-- The trees of a list of entries. -/
def entryTrees : List (Node × Node) → List (Tree × Tree)
  | [] => []
  | (key, item) :: rest => (key.toTree, item.toTree) :: entryTrees rest

end

mutual

/-- The collections of a node are nested at most so deep. -/
def fits (limit : Nat) : Node → Bool
  | scalar .. => true
  | sequence items => 0 < limit && itemsFit (limit - 1) items
  | mapping entries => 0 < limit && entriesFit (limit - 1) entries
  | copyOf _ target => target.fits limit

/-- The collections of a list of nodes are nested at most so deep. -/
def itemsFit (limit : Nat) : List Node → Bool
  | [] => true
  | item :: rest => item.fits limit && itemsFit limit rest

/-- The collections of a list of entries are nested at most so deep. -/
def entriesFit (limit : Nat) : List (Node × Node) → Bool
  | [] => true
  | (key, item) :: rest => key.fits limit && item.fits limit && entriesFit limit rest

end

end Node

/-- How deep collections may be nested. -/
def depthLimit : Nat := 128

/-- How many aliases may be followed for each start or end of a node. -/
def jumpLimit : Nat := 100

/-- The tree of a text. -/
def tree? (text : String) : Option Tree := do
  let node ← Node.ofTokens? (← tokens text)
  if node.jumps ≤ jumpLimit * node.events && node.fits depthLimit then some node.toTree else none

end ProvenShapes.Yaml

/-- The value of a YAML text. -/
def ProvenShapes.Value.ofYaml? (text : String) : Option ProvenShapes.Value :=
  (ProvenShapes.Yaml.tree? text).bind ProvenShapes.Tree.toValue?
