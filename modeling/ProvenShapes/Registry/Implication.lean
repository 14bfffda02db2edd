/-
**Implication and subsumption.**

A clause implies another when every value with the first has the second, as far as the clauses
themselves show it: equal clauses, a type inside a type, an interval inside an interval, and behind
references the patterns referred to.  One set of clauses is subsumed by another when each clause it
requires is implied by a single clause of the other.  Co-mutation clauses are never required of a
value, and a kind is implied only by itself.

Main definitions:

* `Registry.implies` — **implication of clauses**;
* `Registry.setImplies` — some clause of a set implies a clause;
* `Registry.missing` — the required clauses that a set does not imply;
* `Registry.subsumes` — a set implies all that another requires;
* `Registry.subsumedBy`, `Registry.interchangeable` — the relations between registered patterns.
-/

import ProvenShapes.Interval
import ProvenShapes.Registry.Kinds

set_option autoImplicit false

namespace ProvenShapes.Registry

/-- Every value with the first clause has the second. -/
def implies (r : Registry) (a b : Clause) : Bool :=
  a == b ||
    match a, b with
    | .typeIs (.primitive s), .typeIs (.primitive t) => s.subtypeOf t
    | .typeIs (.pattern p), .typeIs (.pattern q) =>
        p == q ||
          match _ : r.resolve? p, _ : r.resolve? q with
          | some s, some t =>
              t.toList.attach.all fun ⟨c, _⟩ =>
                !c.isValuePredicate || s.toList.attach.any fun ⟨d, _⟩ => r.implies d c
          | _, _ => false
    | .typeIs (.pattern p), c =>
        match _ : r.resolve? p with
        | some s => s.toList.attach.any fun ⟨d, _⟩ => r.implies d c
        | none => false
    | .length o₁ b₁, .length o₂ b₂ => (Interval.ofLength o₁ b₁).isWithin (.ofLength o₂ b₂)
    | .value o₁ b₁, .value o₂ b₂ => (Interval.ofValue o₁ b₁).isWithin (.ofValue o₂ b₂)
    | .required true, .required false => true
    | .changesWith ms, .changesWith ns => ns.all ms.contains
    | .field m p, .field n q =>
        m == n &&
          (p == q ||
            match _ : r.resolve? p, _ : r.resolve? q with
            | some s, some t =>
                t.toList.attach.all fun ⟨c, _⟩ =>
                  !c.isValuePredicate || s.toList.attach.any fun ⟨d, _⟩ => r.implies d c
            | _, _ => false)
    | _, _ => false
termination_by a.rank + b.rank
decreasing_by
  · apply Nat.add_lt_add <;> exact rank_lt rfl (by assumption) (by assumption)
  · apply Nat.add_lt_add_right
    exact rank_lt rfl (by assumption) (by assumption)
  · apply Nat.add_lt_add <;> exact rank_lt rfl (by assumption) (by assumption)

/-- Some clause of the set implies the clause. -/
def setImplies (r : Registry) (s : ClauseSet) (c : Clause) : Bool :=
  s.toList.any fun d => r.implies d c

/-- The clauses required of a value that the proven ones do not imply. -/
def missing (r : Registry) (proven required : ClauseSet) : List Clause :=
  required.toList.filter fun c => c.isValuePredicate && !r.setImplies proven c

/-- The proven clauses imply all that is required of a value. -/
def subsumes (r : Registry) (proven required : ClauseSet) : Bool :=
  required.toList.all fun c => !c.isValuePredicate || r.setImplies proven c

/-- Every value of the first pattern is shown to be one of the second. -/
def subsumedBy (r : Registry) (a b : PatternId) : Except Error Bool := do
  return r.subsumes (← r.resolve a) (← r.resolve b)

/-- The patterns have equal clauses and pin no kind, so that each may stand for the other. -/
def interchangeable (r : Registry) (a b : PatternId) : Except Error Bool := do
  let s ← r.resolve a
  let t ← r.resolve b
  return s == t && (r.effectiveKinds s).isEmpty

end ProvenShapes.Registry
