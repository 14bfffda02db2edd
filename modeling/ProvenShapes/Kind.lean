/-
**Kinds.**

A kind is an identity that a value is granted.  Kinds have no structure: a kind is equal to itself and
unrelated to all others.

Main definitions:

* `Kinds` — the kinds declared so far;
* `Kinds.declare` — declaring a kind.
-/

import ProvenShapes.Error
import ProvenShapes.Text.Blank

set_option autoImplicit false

namespace ProvenShapes

/-- The names of the kinds declared so far, in their order. -/
abbrev Kinds := List String

/-- The kinds with one more; its name must be new and not blank. -/
def Kinds.declare (ks : Kinds) (id : String) : Except Error Kinds :=
  if Text.isBlank id then .error (.invalidName .kind id)
  else if ks.contains id then .error (.duplicateKind id)
  else .ok (ks ++ [id])

end ProvenShapes
