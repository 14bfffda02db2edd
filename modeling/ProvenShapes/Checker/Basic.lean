/-
**The checker.**

A checker follows the bindings of a task.  For each binding it keeps the clauses that are proven of
its present value, its provenance, and it counts the clauses that are evaluated when values are
validated.

Main definitions:

* `Source` — where an assigned value comes from;
* `Checker` — a catalog, the bindings, and the count;
* `Checker.Step` — what an operation leaves, and its result;
* `Checker.declare` — a new binding;
* `Checker.binding`, `Checker.provenance`, `Checker.proves` — what is known of a binding;
* `Checker.sourceProvenance` — what is known of a source;
* `Checker.assign` — **an assignment that needs no validation**.
-/

import ProvenShapes.Catalog.Basic
import ProvenShapes.Checker.Scopes
import ProvenShapes.Registry.Implication

set_option autoImplicit false

namespace ProvenShapes

/-- Where an assigned value comes from. -/
inductive Source where
  /-- Another binding, whose provenance carries over. -/
  | binding (name : String)
  /-- A value that is known when it is checked. -/
  | literal (v : Value)
  /-- A value from outside of which only the primitive type is known. -/
  | untyped (t : Primitive)

/-- How the clauses of a binding were established: all of them were proven, or some were validated,
with the count of clauses evaluated. -/
inductive Outcome where
  | static
  | validated (evaluated : Nat)
deriving DecidableEq, Repr

/-- The bindings of a task over a catalog, and how many clauses were evaluated for it. -/
structure Checker where
  catalog : Catalog
  scopes : Scopes
  evaluations : Nat

namespace Checker

/-- A checker without bindings. -/
def start (catalog : Catalog) : Checker := ⟨catalog, .empty, 0⟩

instance : Inhabited Checker := ⟨start default⟩

/-- One more scope inside. -/
def pushScope (k : Checker) : Checker := { k with scopes := k.scopes.enter }

/-- Without the innermost scope and its bindings, unless it is the outermost. -/
def popScope (k : Checker) : Checker := { k with scopes := k.scopes.leave }

/-- The checker as an operation has left it, and the operation's result.  An operation that fails
gives the checker, too: evaluations count even then. -/
abbrev Step (α : Type) := Checker × Except Error α

/-- The clauses known of a value of which only the primitive type is known. -/
def typeOnly (t : Primitive) : ClauseSet := .ofList [.typeIs (.primitive t)]

/-- Declares a binding in the innermost scope with some proven clauses. -/
def declareWith (k : Checker) (name : String) (pattern : PatternId) (provenance : ClauseSet) :
    Step Unit :=
  if Text.isBlank name then (k, .error (.invalidName .binding name))
  else if k.scopes.declaredHere name then (k, .error (.alreadyExists .binding name))
  else
    match k.catalog.registry.resolve pattern with
    | .error e => (k, .error e)
    | .ok _ => ({ k with scopes := k.scopes.declare name ⟨pattern, provenance⟩ }, .ok ())

/-- Declares a binding of which nothing is proven. -/
def declare (k : Checker) (name : String) (pattern : PatternId) : Step Unit :=
  k.declareWith name pattern .empty

/-- Declares a binding of which only the primitive type is known. -/
def declareExternal (k : Checker) (name : String) (pattern : PatternId) (t : Primitive) :
    Step Unit :=
  k.declareWith name pattern (typeOnly t)

/-- The innermost binding of a name. -/
def binding (k : Checker) (name : String) : Except Error Binding :=
  match k.scopes.find? name with
  | some b => .ok b
  | none => .error (.unknownBinding name)

/-- The clauses proven of a binding. -/
def provenance (k : Checker) (name : String) : Except Error ClauseSet := do
  return (← k.binding name).provenance

/-- The clauses proven of a binding imply those of a pattern. -/
def proves (k : Checker) (name : String) (pattern : PatternId) : Except Error Bool := do
  let proven ← k.provenance name
  let required ← k.catalog.registry.resolve pattern
  return k.catalog.registry.subsumes proven required

/-- A clause is proven of a literal by evaluating it; kinds can never be. -/
def literalProves (k : Checker) (v : Value) (c : Clause) : Except Error Bool :=
  if c.isValuePredicate && !k.catalog.registry.carriesKind c then
    (k.catalog.evaluator.holds c v 0).result
  else .ok false

/-- Those of a list of clauses that are proven of a literal. -/
def literalProofs (k : Checker) (v : Value) : List Clause → Except Error (List Clause)
  | [] => .ok []
  | c :: rest => do
      if ← k.literalProves v c then return c :: (← k.literalProofs v rest)
      else k.literalProofs v rest

/-- The clauses known of a source; of a literal, those among the required ones that it satisfies. -/
def sourceProvenance (k : Checker) (source : Source) (required : ClauseSet) :
    Except Error ClauseSet :=
  match source with
  | .binding name => k.provenance name
  | .untyped t => .ok (typeOnly t)
  | .literal v => do
      let type := v.primitive?.toList.map fun t => Clause.typeIs (.primitive t)
      let proven ← if k.catalog.options.literalProofs then k.literalProofs v required.toList
        else .ok []
      return .ofList (type ++ proven)

/-- The binding of a name with other clauses proven. -/
def setProvenance (k : Checker) (name : String) (b : Binding) (provenance : ClauseSet) : Checker :=
  { k with scopes := k.scopes.update name { b with provenance } }

/-- Assigns a source to a binding without validation: what is known of the source must imply the
declared pattern, kinds included. -/
def assign (k : Checker) (target : String) (source : Source) : Step Outcome :=
  match k.binding target with
  | .error e => (k, .error e)
  | .ok b =>
      match k.catalog.registry.resolve b.declared with
      | .error e => (k, .error e)
      | .ok required =>
          match k.sourceProvenance source required with
          | .error e => (k, .error e)
          | .ok proven =>
              match k.catalog.registry.missing proven required with
              | [] => (k.setProvenance target b (proven.union required), .ok .static)
              | missing => (k, .error (.unproven target missing))

end Checker

end ProvenShapes
