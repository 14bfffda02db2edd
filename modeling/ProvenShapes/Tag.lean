/-
**Tags.**

A tag is a name for a pattern.  Whether a value carries a tag is decided anew each time, by evaluating
the pattern; nothing remembers that it did.

Main definitions:

* `Tag`, `Tags` — a tag, and the tags declared so far;
* `Tags.declare`, `Tags.get` — declaring a tag and finding it;
* `Tag.failingClause` — the first clause of the pattern that a value does not satisfy;
* `Tag.require` — an error unless a value carries the tag.
-/

import ProvenShapes.Evaluation.Basic

set_option autoImplicit false

namespace ProvenShapes

/-- A name for a pattern. -/
structure Tag where
  id : String
  pattern : PatternId
deriving DecidableEq, Repr

/-- The tags declared so far, in their order. -/
abbrev Tags := List Tag

namespace Tags

/-- The tag with a name. -/
def find? (ts : Tags) (id : String) : Option Tag := List.find? (fun t => t.id == id) ts

/-- The tag with a name; there must be one. -/
def get (ts : Tags) (id : String) : Except Error Tag :=
  match ts.find? id with
  | some t => .ok t
  | none => .error (.unknownTag id)

/-- The tags with one more; its name must be new and not blank, and its pattern registered. -/
def declare (ts : Tags) (r : Registry) (id : String) (pattern : PatternId) : Except Error Tags :=
  if Text.isBlank id then .error (.invalidName .tag id)
  else if (ts.find? id).isSome then .error (.alreadyExists .tag id)
  else
    match r.resolve pattern with
    | .ok _ => .ok (ts ++ [⟨id, pattern⟩])
    | .error e => .error e

end Tags

namespace Tag

/-- The first clause of the tag's pattern that a value does not satisfy. -/
def failingClause (t : Tag) (e : Evaluator) (v : Value) : Counted (Option Clause) :=
  match e.registry.resolve t.pattern with
  | .ok s => e.firstFailure s.toList v
  | .error err => .fail err

/-- An error unless a value carries the tag. -/
def require (t : Tag) (e : Evaluator) (v : Value) : Counted Unit := do
  match ← t.failingClause e v with
  | none => pure ()
  | some c => .fail (.missingTag t.id c)

end Tag

end ProvenShapes
