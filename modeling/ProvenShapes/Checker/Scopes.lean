/-
**Scopes and bindings.**

A binding is a name with a declared pattern and the clauses that are proven of its present value.
Bindings live in nested scopes; an inner binding shadows an outer one of the same name, and the
outermost scope is never left.

Main definitions:

* `Binding`, `Bindings`, `Scopes` — bindings, the bindings of one scope, nested scopes;
* `Scopes.find?` — the innermost binding of a name;
* `Scopes.declare`, `Scopes.update` — a new binding in the innermost scope, a change of the
  innermost binding of a name;
* `Scopes.enter`, `Scopes.leave` — nesting.
-/

import ProvenShapes.Clause.Set
import ProvenShapes.Keyed

set_option autoImplicit false

namespace ProvenShapes

/-- A declared pattern and the clauses proven of the present value. -/
structure Binding where
  declared : PatternId
  provenance : ClauseSet

/-- The bindings of one scope, sorted by name. -/
abbrev Bindings := List (String × Binding)

/-- Nested scopes: the inner ones, innermost first, and the outermost. -/
structure Scopes where
  inner : List Bindings
  root : Bindings

namespace Scopes

/-- The outermost scope without bindings. -/
def empty : Scopes := ⟨[], []⟩

instance : Inhabited Scopes := ⟨empty⟩

/-- The scopes, innermost first. -/
def all (s : Scopes) : List Bindings := s.inner ++ [s.root]

/-- How many scopes are nested. -/
def depth (s : Scopes) : Nat := s.inner.length + 1

/-- The innermost scope. -/
def innermost (s : Scopes) : Bindings := s.inner.head?.getD s.root

/-- The innermost binding of a name. -/
def find? (s : Scopes) (name : String) : Option Binding := s.all.findSome? (Keyed.find? name)

/-- The name has a binding in the innermost scope. -/
def declaredHere (s : Scopes) (name : String) : Bool := Keyed.contains name s.innermost

/-- A binding of a name in the innermost scope. -/
def declare (s : Scopes) (name : String) (b : Binding) : Scopes :=
  match s.inner with
  | [] => { s with root := Keyed.put name b s.root }
  | scope :: rest => { s with inner := Keyed.put name b scope :: rest }

/-- The first of a list of scopes that has the name, with its binding replaced. -/
def updateFirst (name : String) (b : Binding) : List Bindings → Option (List Bindings)
  | [] => none
  | scope :: rest =>
      if Keyed.contains name scope then some (Keyed.put name b scope :: rest)
      else (updateFirst name b rest).map (scope :: ·)

/-- The innermost binding of a name replaced, if there is one. -/
def update (s : Scopes) (name : String) (b : Binding) : Scopes :=
  match updateFirst name b s.inner with
  | some inner => { s with inner }
  | none => if Keyed.contains name s.root then { s with root := Keyed.put name b s.root } else s

/-- One more scope inside. -/
def enter (s : Scopes) : Scopes := { s with inner := [] :: s.inner }

/-- Without the innermost scope, unless it is the outermost. -/
def leave (s : Scopes) : Scopes := { s with inner := s.inner.tail }

end Scopes

end ProvenShapes
