/-
**Contradictions.**

Two clauses on one subject are in conflict when no value can have both: types without a common
value, disjoint intervals, two kinds, and behind references patterns whose clauses are in conflict
when put together.  A set of clauses is contradictory when two of its clauses are in conflict, or
when two kinds are pinned at one path.

Main definitions:

* `Registry.primitiveOf?` — the primitive type that a type reference pins values to;
* `pairs` — the pairs of a list, each member with each later one;
* `Registry.conflict` — two clauses are in conflict, given the verdict on references;
* `Registry.kindClash?` — the first path at which two kinds are pinned;
* `Registry.contradiction?` — **the first contradiction of a set**;
* `Registry.checkSatisfiable` — an error if there is one.
-/

import ProvenShapes.Interval
import ProvenShapes.Registry.Kinds

set_option autoImplicit false

namespace ProvenShapes

/-- The pairs of a list, each member with each later one. -/
def pairs {α : Type} : List α → List (α × α)
  | [] => []
  | a :: rest => rest.map (fun b => (a, b)) ++ pairs rest

theorem mem_of_mem_pairs {α : Type} {l : List α} {p : α × α} (h : p ∈ pairs l) :
    p.1 ∈ l ∧ p.2 ∈ l := by
  induction l with
  | nil => simp [pairs] at h
  | cons a rest ih =>
      rcases List.mem_append.1 h with h | h
      · obtain ⟨b, hb, rfl⟩ := List.mem_map.1 h
        exact ⟨by simp, by simp [hb]⟩
      · exact ⟨by simp [(ih h).1], by simp [(ih h).2]⟩

namespace Registry

/-- The primitive type that a type clause pins values to: behind a reference it is that of the first
type clause which pins one. -/
def primitiveOf? (r : Registry) (c : Clause) : Option Primitive :=
  match c with
  | .typeIs (.primitive t) => some t
  | .typeIs (.pattern id) =>
      match _ : r.resolve? id with
      | some s => s.toList.attach.findSome? fun ⟨d, _⟩ => r.primitiveOf? d
      | none => none
  | _ => none
termination_by c.rank
decreasing_by exact rank_lt rfl (by assumption) (by assumption)

/-- Two clauses on one subject are in conflict; `nested` tells whether the patterns that both refer
to are in conflict. -/
def conflict (r : Registry) (a b : Clause)
    (nested : ∀ p q, a.reference? = some p → b.reference? = some q → Bool) : Bool :=
  match a, b with
  | .typeIs s, .typeIs t =>
      let apart :=
        match r.primitiveOf? (.typeIs s), r.primitiveOf? (.typeIs t) with
        | some x, some y => !x.overlaps y
        | _, _ => false
      apart ||
        match s, t with
        | .pattern p, .pattern q => nested p q rfl rfl
        | _, _ => false
  | .length o₁ b₁, .length o₂ b₂ => !(Interval.ofLength o₁ b₁).intersects (.ofLength o₂ b₂)
  | .value o₁ b₁, .value o₂ b₂ => !(Interval.ofValue o₁ b₁).intersects (.ofValue o₂ b₂)
  | .kindOf k, .kindOf l => k != l
  | .field _ p, .field _ q => nested p q rfl rfl
  | _, _ => false

/-- The first path at which two kinds are pinned, with the first two of them. -/
def kindClash? (kinds : KindPaths) : Option (Clause × Clause) :=
  kinds.findSome? fun entry =>
    match entry.2 with
    | k :: l :: _ => some (.kindOf k, .kindOf l)
    | _ => none

/-- The first two clauses of a set, in canonical order, that are in conflict, or else the first two
kinds that are pinned at one path. -/
def contradiction? (r : Registry) (s : ClauseSet) : Option (Clause × Clause) :=
  let found := (pairs s.toList).attach.find? fun ⟨(a, b), _⟩ =>
    a.subject == b.subject &&
      r.conflict a b fun p q _ _ =>
        match _ : r.resolve? p, _ : r.resolve? q with
        | some s, some t => (r.contradiction? (s.union t)).isSome
        | _, _ => false
  match found with
  | some pair => some pair.val
  | none => kindClash? (r.effectiveKinds s)
termination_by s.rank
decreasing_by
  have members := mem_of_mem_pairs (by assumption)
  exact Nat.lt_of_lt_of_le (rank_union_lt (by assumption) (by assumption) (by assumption)
    (by assumption)) (Nat.max_le.2 ⟨rank_le_rankOf members.1, rank_le_rankOf members.2⟩)

/-- An error that names the first contradiction of a set. -/
def checkSatisfiable (r : Registry) (label : String) (s : ClauseSet) : Except Error Unit :=
  match r.contradiction? s with
  | some (first, second) => .error (.contradictory label first second)
  | none => .ok ()

end Registry

end ProvenShapes
