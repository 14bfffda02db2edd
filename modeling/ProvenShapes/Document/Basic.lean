/-
**Declaration documents.**

A document lists declarations of every sort.  It refers to patterns by name, and the names are looked
up only when the document is applied.

Main definitions:

* `Document.Condition` — a clause of a pattern as it is written down;
* `Document.Shape`, `Document.Record`, `Document.Note`, `Document.Place` — patterns, composites,
  traits and what traits are attached to, as they are written down;
* `Document` — a document;
* `Document.ofTree?` — **the document that a tree spells out**.
-/

import ProvenShapes.Clause.Basic
import ProvenShapes.Options
import ProvenShapes.Tree

set_option autoImplicit false

namespace ProvenShapes

namespace Document

/-- A clause as it is written down. -/
inductive Condition where
  /-- The name of a primitive type or of a pattern. -/
  | type (name : String)
  | length (op : Comparison) (bound : UInt64)
  | value (op : Comparison) (bound : Number)
  | required (always : Bool)
  | satisfies (constraint : String)
  | kind (name : String)
  | changesWith (fields : List String)
  | field (name pattern : String)

/-- A pattern as it is written down. -/
structure Shape where
  bases : List String := []
  conditions : List Condition := []

/-- A composite as it is written down: fields with the names of their patterns. -/
structure Record where
  fields : List (String × String) := []

/-- What a trait is attached to, as it is written down. -/
inductive Place where
  | pattern (name : String)
  | kind (name : String)
  | field (composite name : String)

/-- A trait as it is written down. -/
structure Note where
  place : Place
  key : String
  value : Value

end Document

/-- A list of declarations of every sort. -/
structure Document where
  options : Option Options := none
  /-- Constraints with their regular expressions. -/
  constraints : List (String × String) := []
  kinds : List String := []
  patterns : List (String × Document.Shape) := []
  /-- Tags with the names of their patterns. -/
  tags : List (String × String) := []
  composites : List (String × Document.Record) := []
  traits : List Document.Note := []

namespace Document

/-! ### Reading the parts -/

/-- The options that a tree spells out. -/
def options? (t : Tree) : Option Options := do
  let fields ← t.fields? ["literal_proofs", "short_circuit", "max_nesting"]
  let defaults : Options := {}
  return {
    literalProofs := ← Tree.default? Tree.flag? defaults.literalProofs "literal_proofs" fields
    shortCircuit := ← Tree.default? Tree.flag? defaults.shortCircuit "short_circuit" fields
    maxNesting := ← Tree.default? (fun t => t.word?.map UInt64.toNat) defaults.maxNesting
      "max_nesting" fields }

/-- The regular expression of a constraint. -/
def constraint? (t : Tree) : Option String :=
  match t.variant? with
  | some ("regex", source) => source.text?
  | _ => none

/-- A comparison operator: its symbol, or the symbol as an alternative without content.  A scalar
that tells the symbol as its alternative has a content. -/
def comparison? (t : Tree) : Option Comparison :=
  match t with
  | .scalar leaf =>
      if (leaf.alternative.bind Comparison.ofSymbol?).isSome then none
      else leaf.spelling.bind Comparison.ofSymbol?
  | t =>
      match t.variant? with
      | some (symbol, content) => if content.isNull then Comparison.ofSymbol? symbol else none
      | none => none

/-- A clause. -/
def condition? (t : Tree) : Option Condition := do
  let (name, content) ← t.variant?
  match name with
  | "type" => return .type (← content.text?)
  | "length" =>
      let (op, bound) ← content.pair? comparison? Tree.word?
      return .length op bound
  | "value" =>
      let (op, bound) ← content.pair? comparison? Tree.number?
      return .value op bound
  | "required" => return .required (← content.flag?)
  | "matches" => return .satisfies (← content.text?)
  | "kind" => return .kind (← content.text?)
  | "changes_with" => return .changesWith (← content.list? Tree.text?)
  | "field" =>
      let fields ← content.fields? ["name", "pattern"]
      return .field (← Tree.required? Tree.text? "name" fields)
        (← Tree.required? Tree.text? "pattern" fields)
  | _ => none

/-- A pattern. -/
def shape? (t : Tree) : Option Shape := do
  let fields ← t.fields? ["bases", "clauses"]
  return {
    bases := ← Tree.default? (Tree.list? Tree.text?) [] "bases" fields
    conditions := ← Tree.default? (Tree.list? condition?) [] "clauses" fields }

/-- A composite. -/
def record? (t : Tree) : Option Record := do
  let fields ← t.fields? ["fields"]
  return { fields := ← Tree.default? (Tree.table? Tree.text?) [] "fields" fields }

/-- What a trait is attached to. -/
def place? (t : Tree) : Option Place := do
  let (name, content) ← t.variant?
  match name with
  | "pattern" => return .pattern (← content.text?)
  | "kind" => return .kind (← content.text?)
  | "field" =>
      let fields ← content.fields? ["composite", "field"]
      return .field (← Tree.required? Tree.text? "composite" fields)
        (← Tree.required? Tree.text? "field" fields)
  | _ => none

/-- A trait. -/
def note? (t : Tree) : Option Note := do
  let fields ← t.fields? ["on", "key", "value"]
  return {
    place := ← Tree.required? place? "on" fields
    key := ← Tree.required? Tree.text? "key" fields
    value := ← Tree.required? Tree.toValue? "value" fields }

/-- Something that may be left out by writing that it is nothing. -/
def optional? {α : Type} (item? : Tree → Option α) (t : Tree) : Option (Option α) :=
  if t.isAbsent then some none else (item? t).map some

/-! ### Reading a document -/

/-- The sections of a document, in the order in which they are applied. -/
def sections : List String :=
  ["options", "constraints", "kinds", "patterns", "tags", "composites", "traits"]

/-- The document that a tree spells out. -/
def ofTree? (t : Tree) : Option Document := do
  let fields ← t.fields? sections
  return {
    options := ← Tree.default? (optional? options?) none "options" fields
    constraints := ← Tree.default? (Tree.table? constraint?) [] "constraints" fields
    kinds := ← Tree.default? (Tree.list? Tree.text?) [] "kinds" fields
    patterns := ← Tree.default? (Tree.table? shape?) [] "patterns" fields
    tags := ← Tree.default? (Tree.table? Tree.text?) [] "tags" fields
    composites := ← Tree.default? (Tree.table? record?) [] "composites" fields
    traits := ← Tree.default? (Tree.list? note?) [] "traits" fields }

end Document

end ProvenShapes
