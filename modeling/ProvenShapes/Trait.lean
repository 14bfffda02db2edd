/-
**Traits.**

A trait is a value under a key, attached to a pattern, to a field of a composite or to a kind.
Traits are stored and handed out; nothing here interprets them.

Main definitions:

* `AttachmentPoint` — what traits are attached to, ordered patterns before fields before kinds;
* `Traits` — for every point, sorted, its traits in the order of their attachment;
* `Traits.attach` — one more trait;
* `Traits.get?`, `Traits.ofPoint`, `Traits.pointsWith` — asking for traits;
* `Traits.isWellKnown` — the keys with an agreed meaning.
-/

import ProvenShapes.Clause.Basic
import ProvenShapes.Error
import ProvenShapes.Keyed
import ProvenShapes.Text.Blank

set_option autoImplicit false

namespace ProvenShapes

/-- What traits are attached to. -/
inductive AttachmentPoint where
  | pattern (id : PatternId)
  | field (composite name : String)
  | kind (name : String)
deriving DecidableEq, Repr

namespace AttachmentPoint

/-- The sort of a point. -/
def sort : AttachmentPoint → Nat
  | pattern _ => 0
  | field .. => 1
  | kind _ => 2

/-- The place of the pattern of a point. -/
def place : AttachmentPoint → Nat
  | pattern id => id.index
  | _ => 0

/-- The names in a point. -/
def names : AttachmentPoint → List String
  | pattern _ => []
  | field composite name => [composite, name]
  | kind name => [name]

/-- The order of points. -/
def compare : AttachmentPoint → AttachmentPoint → Ordering :=
  compareLex (compareOn sort) (compareLex (compareOn place) (compareOn names))

instance : Ord AttachmentPoint := ⟨AttachmentPoint.compare⟩

instance : Std.TransOrd AttachmentPoint :=
  inferInstanceAs (Std.TransCmp
    (compareLex (compareOn sort) (compareLex (compareOn place) (compareOn names))))

/-- The text of a point. -/
def display : AttachmentPoint → String
  | pattern id => id.display
  | field composite name => s!"{composite}.{name}"
  | kind name => s!"kind {name}"

end AttachmentPoint

/-- The traits of each point: points sorted, the traits of a point in the order of attachment. -/
abbrev Traits := List (AttachmentPoint × List (String × Value))

namespace Traits

/-- All traits of a point. -/
def ofPoint (ts : Traits) (point : AttachmentPoint) : List (String × Value) :=
  (Keyed.find? point ts).getD []

/-- The trait of a point under a key. -/
def get? (ts : Traits) (point : AttachmentPoint) (key : String) : Option Value :=
  Keyed.find? key (ts.ofPoint point)

/-- The traits with one more; its key must be new at the point and not blank. -/
def attach (ts : Traits) (point : AttachmentPoint) (key : String) (value : Value) :
    Except Error Traits :=
  if Text.isBlank key then .error (.invalidName .metadata key)
  else if (ts.get? point key).isSome then
    .error (.alreadyExists .metadata s!"{point.display}: {key}")
  else .ok (Keyed.put point (ts.ofPoint point ++ [(key, value)]) ts)

/-- All points with a trait under a key, and its values. -/
def pointsWith (ts : Traits) (key : String) : List (AttachmentPoint × Value) :=
  ts.filterMap fun entry => (Keyed.find? key entry.2).map fun value => (entry.1, value)

/-- The keys with an agreed meaning. -/
def wellKnown : List String :=
  ["pii", "redact", "api.visible", "rbac.read", "rbac.write", "index", "serialize.name"]

/-- The key has an agreed meaning. -/
def isWellKnown (key : String) : Bool := wellKnown.contains key

end Traits

end ProvenShapes
