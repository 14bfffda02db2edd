/-
**The catalog.**

The catalog holds all that has been declared: options, constraints, kinds, patterns, tags, composites
and traits.  Values are asked about against it.

Main definitions:

* `Catalog` — all declarations;
* `Catalog.evaluator` — what clauses are evaluated against;
* `Catalog.validate`, `Catalog.evaluateConstraint`, `Catalog.hasTag`, `Catalog.requireTag` —
  questions about a value;
* `Catalog.composite` — a composite by its name.
-/

import ProvenShapes.Composite.Basic
import ProvenShapes.Kind
import ProvenShapes.Registry.Register
import ProvenShapes.Tag
import ProvenShapes.Trait

set_option autoImplicit false

namespace ProvenShapes

/-- All declarations. -/
structure Catalog where
  options : Options
  constraints : Constraints
  kinds : Kinds
  registry : Registry
  tags : Tags
  composites : List Composite
  traits : Traits

namespace Catalog

/-- The catalog before anything is declared. -/
def empty : Catalog where
  options := {}
  constraints := []
  kinds := []
  registry := .empty
  tags := []
  composites := []
  traits := []

instance : Inhabited Catalog := ⟨empty⟩

/-- What clauses are evaluated against. -/
def evaluator (c : Catalog) : Evaluator := ⟨c.registry, c.constraints, c.options⟩

/-- What clauses may refer to besides patterns. -/
def scope (c : Catalog) : Registry.Scope := ⟨c.constraints, c.kinds⟩

/-- An error unless a value satisfies a pattern. -/
def validate (c : Catalog) (pattern : PatternId) (v : Value) : Except Error Unit := do
  let s ← c.registry.resolve pattern
  (c.evaluator.validate s.toList v).result

/-- A constraint applied to a value. -/
def evaluateConstraint (c : Catalog) (id : String) (v : Value) : Except Error Bool :=
  match c.constraints.find? id with
  | some constraint => constraint.evaluate v
  | none => .error (.unknownConstraint id)

/-- A value carries a tag. -/
def hasTag (c : Catalog) (v : Value) (tag : String) : Except Error Bool := do
  let t ← c.tags.get tag
  return (← (t.failingClause c.evaluator v).result).isNone

/-- An error unless a value carries a tag. -/
def requireTag (c : Catalog) (v : Value) (tag : String) : Except Error Unit := do
  let t ← c.tags.get tag
  (t.require c.evaluator v).result

/-- The composite with a name, if there is one. -/
def composite? (c : Catalog) (name : String) : Option Composite :=
  c.composites.find? fun d => d.name == name

/-- The composite with a name. -/
def composite (c : Catalog) (name : String) : Except Error Composite :=
  match c.composite? name with
  | some d => .ok d
  | none => .error (.unknownComposite name)

end Catalog

end ProvenShapes
