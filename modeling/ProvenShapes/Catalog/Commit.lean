/-
**Commits.**

Writes to the fields of one instance are collected in a change set and committed together: every
value must satisfy the pattern of its field, every field must be written that changes with a written
one, and only then are the writes carried out on the record, one after the other.

Operations that may fail give what they work on beside their result, as they have left it.

Main definitions:

* `ChangeSet` — writes to one instance of a composite, sorted by field;
* `ChangeSet.set`, `ChangeSet.setAll` — one more write, and several;
* `ChangeSet.apply` — the writes carried out on a record;
* `ChangeSet.commit` — **the commit into a store**.
-/

import ProvenShapes.Catalog.Basic
import ProvenShapes.Store

set_option autoImplicit false

namespace ProvenShapes

/-- Writes to the fields of one instance of a composite, sorted by field. -/
structure ChangeSet where
  composite : Composite
  key : String
  writes : List (String × Value)

/-- An empty change set for an instance of a composite. -/
def Catalog.changeSet (c : Catalog) (composite key : String) : Except Error ChangeSet := do
  return ⟨← c.composite composite, key, []⟩

namespace ChangeSet

/-- Adds a write, to a field that the composite must have. -/
def set (cs : ChangeSet) (field : String) (v : Value) : ChangeSet × Except Error Unit :=
  match cs.composite.fieldPattern field with
  | .error e => (cs, .error e)
  | .ok _ => ({ cs with writes := Keyed.put field v cs.writes }, .ok ())

/-- Adds writes, up to the first one that is refused. -/
def setAll (cs : ChangeSet) : List (String × Value) → ChangeSet × Except Error Unit
  | [] => (cs, .ok ())
  | (field, v) :: rest =>
      match cs.set field v with
      | (cs, .error e) => (cs, .error e)
      | (cs, .ok _) => cs.setAll rest

/-- The written fields. -/
def written (cs : ChangeSet) : List String := cs.writes.map Prod.fst

/-- Every value satisfies the pattern of its field. -/
def checkValues (c : Catalog) (composite : Composite) : List (String × Value) → Except Error Unit
  | [] => .ok ()
  | (field, v) :: rest => do
      c.validate (← composite.fieldPattern field) v
      checkValues c composite rest

/-- Writes fields of a record one after the other, up to the first one that cannot be written. -/
def writeFields (record : Value) : List (String × Value) → Value × Except Error Unit
  | [] => (record, .ok ())
  | (field, v) :: rest =>
      match record.setField field v with
      | .error e => (record, .error (.storage e.message))
      | .ok new => writeFields new rest

/-- Carries the writes out on a record, if all fields are written that change together. -/
def apply (cs : ChangeSet) (record : Value) : Value × Except Error Unit :=
  match cs.composite.checkCommit cs.written with
  | .error e => (record, .error e)
  | .ok _ => writeFields record cs.writes

/-- Commits the writes into a store. -/
def commit (cs : ChangeSet) (c : Catalog) (store : Store) : Store × Except Error Unit :=
  if cs.writes.isEmpty then (store, .ok ())
  else
    match checkValues c cs.composite cs.writes with
    | .error e => (store, .error e)
    | .ok _ => store.commit cs.key cs.apply

end ChangeSet

end ProvenShapes
