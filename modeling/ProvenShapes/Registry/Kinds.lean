/-
**The kinds that clauses pin.**

A kind is pinned at a path of field names: at the empty path by a kind clause itself, and behind
references by the clauses of the pattern referred to, where a field clause adds its name to the path.

Main definitions:

* `Registry.kindPaths` — the paths and kinds that a clause pins, in the order in which they are met;
* `Registry.carriesKind` — the clause pins a kind somewhere;
* `KindPaths` — for every path, sorted, the sorted kinds that are pinned there;
* `Registry.effectiveKinds` — the paths and kinds that a set of clauses pins.
-/

import ProvenShapes.Names
import ProvenShapes.Registry.Basic

set_option autoImplicit false

namespace ProvenShapes

/-- The kinds pinned at each path; paths and kinds are sorted. -/
abbrev KindPaths := List (List String × List String)

namespace Registry

/-- The paths and kinds that a clause pins. -/
def kindPaths (r : Registry) (c : Clause) : List (List String × String) :=
  match c with
  | .kindOf kind => [([], kind)]
  | .typeIs (.pattern id) =>
      match _ : r.resolve? id with
      | some s => s.toList.attach.flatMap fun ⟨d, _⟩ => r.kindPaths d
      | none => []
  | .field name id =>
      match _ : r.resolve? id with
      | some s => s.toList.attach.flatMap fun ⟨d, _⟩ =>
          (r.kindPaths d).map fun pinned => (name :: pinned.1, pinned.2)
      | none => []
  | _ => []
termination_by c.rank
decreasing_by
  all_goals exact rank_lt rfl (by assumption) (by assumption)

/-- The clause pins a kind somewhere; evaluating a value can never prove such a clause. -/
def carriesKind (r : Registry) (c : Clause) : Bool :=
  match c with
  | .kindOf _ => true
  | .typeIs (.pattern id) | .field _ id =>
      match _ : r.resolve? id with
      | some s => s.toList.attach.any fun ⟨d, _⟩ => r.carriesKind d
      | none => false
  | _ => false
termination_by c.rank
decreasing_by
  all_goals exact rank_lt rfl (by assumption) (by assumption)

/-- The pinned kinds with one more. -/
def pin (kinds : KindPaths) (path : List String) (kind : String) : KindPaths :=
  Names.insertAt path kind kinds

/-- The paths and kinds that a set of clauses pins. -/
def effectiveKinds (r : Registry) (s : ClauseSet) : KindPaths :=
  (s.toList.flatMap r.kindPaths).foldl (fun kinds pinned => pin kinds pinned.1 pinned.2) []

end Registry

end ProvenShapes
