/-
**Composites.**

A composite declares the fields of a record, each with a pattern.  Its instances as a whole are
described by a pattern of their own, which is registered under the composite's name.

Main definitions:

* `Composite` — fields with patterns, the pattern of whole instances, and the co-mutation of fields;
* `Composite.recordClauses` — the clauses that describe whole instances;
* `Composite.fieldPattern` — the pattern of a field;
* `Composite.checkCommit` — what a commit must write.
-/

import ProvenShapes.Composite.CoMutation

set_option autoImplicit false

namespace ProvenShapes

/-- The declaration of a record. -/
structure Composite where
  name : String
  fields : List (String × PatternId)
  pattern : PatternId
  coMutation : CoMutation

namespace Composite

/-- The clauses that describe whole instances: an object, and a clause for each field. -/
def recordClauses (fields : List (String × PatternId)) : List Clause :=
  .typeIs (.primitive .object) :: fields.map fun f => .field f.1 f.2

/-- The pattern of a field. -/
def fieldPattern (c : Composite) (field : String) : Except Error PatternId :=
  match Keyed.find? field c.fields with
  | some id => .ok id
  | none => .error (.unknownField c.name field)

/-- The fields that are written together with a field, itself included. -/
def coMutationSet (c : Composite) (field : String) : List String := c.coMutation.component field

/-- A commit of some fields must write every field that changes with one of them. -/
def checkCommit (c : Composite) (written : List String) : Except Error Unit :=
  match c.coMutation.missing written with
  | [] => .ok ()
  | missing => .error (.incompleteCoMutation c.name missing)

end Composite

end ProvenShapes
