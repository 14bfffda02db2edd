/-
**Declaring.**

Each declaration is checked against what has been declared before it, and either extends the catalog
or leaves it as it was.

Main definitions:

* `Catalog.addConstraint`, `Catalog.addRegex`, `Catalog.addPredicate` — constraints;
* `Catalog.declareKind`, `Catalog.registerPattern`, `Catalog.declareTag` — kinds, patterns, tags;
* `Catalog.declareComposite` — **a composite together with the pattern of its instances**;
* `Catalog.addTrait` — a trait of something that is declared.
-/

import ProvenShapes.Catalog.Basic

set_option autoImplicit false

namespace ProvenShapes.Catalog

/-- Declares a constraint. -/
def addConstraint (c : Catalog) (constraint : Constraint) : Except Error Catalog := do
  return { c with constraints := ← c.constraints.add constraint }

/-- Declares the constraint that texts match a regular expression. -/
def addRegex (c : Catalog) (id source : String) : Except Error Catalog := do
  c.addConstraint (← Constraint.regex id source)

/-- Declares the constraint that values of a primitive type satisfy a predicate. -/
def addPredicate (c : Catalog) (id : String) (domain : Primitive)
    (test : Value → Except Fault Bool) : Except Error Catalog :=
  c.addConstraint (.predicate id domain test)

/-- Declares a kind. -/
def declareKind (c : Catalog) (id : String) : Except Error Catalog := do
  return { c with kinds := ← c.kinds.declare id }

/-- Registers a pattern, possibly without a name, and gives its handle. -/
def registerPattern (c : Catalog) (name : Option String) (clauses : List Clause)
    (bases : List PatternId) : Except Error (Catalog × PatternId) := do
  let (registry, id) ← c.registry.register c.scope name clauses bases
  return ({ c with registry }, id)

/-- Declares a tag. -/
def declareTag (c : Catalog) (id : String) (pattern : PatternId) : Except Error Catalog := do
  return { c with tags := ← c.tags.declare c.registry id pattern }

/-- Each field of a composite has a registered pattern and occurs once. -/
def checkFields (c : Catalog) (composite : String) (seen : List String) :
    List (String × PatternId) → Except Error Unit
  | [] => .ok ()
  | (field, id) :: rest => do
      let _ ← c.registry.resolve id
      if seen.contains field then .error (.alreadyExists .field s!"{composite}.{field}")
      else c.checkFields composite (field :: seen) rest

/-- Declares a composite and registers the pattern of its instances under its name; gives the
handle of that pattern. -/
def declareComposite (c : Catalog) (name : String) (fields : List (String × PatternId)) :
    Except Error (Catalog × PatternId) := do
  if (c.composite? name).isSome then .error (.alreadyExists .composite name)
  c.checkFields name [] fields
  let coMutation ← CoMutation.ofFields c.registry name fields
  let (d, pattern) ← c.registerPattern (some name) (Composite.recordClauses fields) []
  return ({ d with composites := d.composites ++ [⟨name, fields, pattern, coMutation⟩] }, pattern)

/-- What a trait is to be attached to is declared. -/
def checkPoint (c : Catalog) : AttachmentPoint → Except Error Unit
  | .pattern id => do
      let _ ← c.registry.resolve id
  | .kind kind => if c.kinds.contains kind then .ok () else .error (.unknownKind kind)
  | .field name field => do
      let _ ← (← c.composite name).fieldPattern field

/-- Attaches a trait. -/
def addTrait (c : Catalog) (point : AttachmentPoint) (key : String) (value : Value) :
    Except Error Catalog := do
  c.checkPoint point
  return { c with traits := ← c.traits.attach point key value }

end ProvenShapes.Catalog
