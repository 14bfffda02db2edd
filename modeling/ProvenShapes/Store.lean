/-
**A store of records.**

The store keeps a record for each instance.  A commit edits a copy of the record of one instance, in
place and perhaps in several steps; only when the edit has succeeded is the copy stored.  An absent
record stays absent unless the edit makes it one.

Main definitions:

* `Store` — instances with their records, sorted;
* `Store.commit` — an edit of one record.
-/

import ProvenShapes.Error
import ProvenShapes.Keyed

set_option autoImplicit false

namespace ProvenShapes

/-- The records of instances; the instances are sorted. -/
structure Store where
  records : List (String × Value)
deriving Inhabited

namespace Store

/-- The store without records. -/
def empty : Store := ⟨[]⟩

/-- The record of an instance. -/
def get? (s : Store) (key : String) : Option Value := Keyed.find? key s.records

/-- How many records there are. -/
def size (s : Store) : Nat := s.records.length

/-- An edit of a copy of the record of one instance, where the absent value stands for no record.
The edit gives the copy as it has left it, whether it succeeded or not. -/
def commit (s : Store) (key : String) (edit : Value → Value × Except Error Unit) :
    Store × Except Error Unit :=
  match edit ((s.get? key).getD .undefined) with
  | (_, .error e) => (s, .error e)
  | (record, .ok _) =>
      if record.isUndefined then (s, .ok ()) else (⟨Keyed.put key record s.records⟩, .ok ())

end Store

end ProvenShapes
