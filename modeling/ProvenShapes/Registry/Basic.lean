/-
**The registry of patterns.**

A pattern is a canonical set of clauses, with a name or without one.  Patterns are kept in the order
of their registration and are referred to by their place in it; the names are kept beside them, in
the same order, each with the handle of its pattern.  A pattern refers only to patterns before it.
All this is part of the registry's type, and it is what makes every walk along references end.

Main definitions:

* `Pattern` — a handle and a set of clauses, with an optional name;
* `Registry` — patterns each of which refers only to earlier ones, and their names;
* `Registry.resolve?`, `Registry.resolve` — the clauses of a handle;
* `Registry.lookup` — the handle of a name;
* `ClauseSet.rank` — how far up the patterns a set of clauses reaches.

Main results:

* `Registry.mem_names_iff` — the names are those of the patterns;
* `Registry.rank_lt` — following a reference leads to clauses that reach less far.
-/

import ProvenShapes.Clause.Set
import ProvenShapes.Error
import ProvenShapes.Keyed

set_option autoImplicit false

namespace ProvenShapes

/-- A registered set of clauses; a pattern that was written in place has no name. -/
structure Pattern where
  id : PatternId
  name : Option String
  clauses : ClauseSet

namespace Pattern

/-- The name of a pattern with its handle, if it has one. -/
def entry? (p : Pattern) : Option (String × PatternId) := p.name.map fun name => (name, p.id)

/-- The text of a pattern: its name, or its handle if it has none. -/
def display (p : Pattern) : String := p.name.getD p.id.display

end Pattern

/-- The patterns registered so far, each of which refers only to patterns before it, and the handles
of their names. -/
structure Registry where
  patterns : List Pattern
  names : List (String × PatternId)
  placed : ∀ (i : Nat) (p : Pattern), patterns[i]? = some p → p.id = ⟨i⟩
  named : names = patterns.filterMap Pattern.entry?
  acyclic : ∀ (i : Nat) (p : Pattern), patterns[i]? = some p → ∀ c ∈ p.clauses.toList, c.rank ≤ i

/-- How far up the patterns the clauses of a list reach. -/
def rankOf (clauses : List Clause) : Nat := clauses.foldr (fun c n => max c.rank n) 0

/-- How far up the patterns a set of clauses reaches. -/
def ClauseSet.rank (s : ClauseSet) : Nat := rankOf s.toList

theorem rank_le_rankOf {c : Clause} {l : List Clause} (h : c ∈ l) : c.rank ≤ rankOf l := by
  induction l with
  | nil => simp at h
  | cons d rest ih =>
      simp only [rankOf, List.foldr_cons]
      rcases List.mem_cons.1 h with rfl | h
      · exact Nat.le_max_left _ _
      · exact Nat.le_trans (ih h) (Nat.le_max_right _ _)

theorem rankOf_le {l : List Clause} {n : Nat} (h : ∀ c ∈ l, c.rank ≤ n) : rankOf l ≤ n := by
  induction l with
  | nil => simp [rankOf]
  | cons d rest ih =>
      simp only [rankOf, List.foldr_cons]
      exact Nat.max_le.2 ⟨h d (by simp), ih fun c hc => h c (by simp [hc])⟩

theorem Clause.rank_eq_of_reference? {c : Clause} {id : PatternId}
    (h : c.reference? = some id) : c.rank = id.index + 1 := by
  simp [Clause.rank, h]

namespace Registry

/-- The registry without patterns. -/
def empty : Registry := ⟨[], [], by simp, rfl, by simp⟩

instance : Inhabited Registry := ⟨empty⟩

/-- How many patterns there are. -/
def size (r : Registry) : Nat := r.patterns.length

/-- The pattern of a handle. -/
def get? (r : Registry) (id : PatternId) : Option Pattern := r.patterns[id.index]?

/-- The clauses of a handle, if it is known. -/
def resolve? (r : Registry) (id : PatternId) : Option ClauseSet := (r.get? id).map Pattern.clauses

/-- The clauses of a handle. -/
def resolve (r : Registry) (id : PatternId) : Except Error ClauseSet :=
  match r.resolve? id with
  | some s => .ok s
  | none => .error (.unknownPattern id.display)

/-- The handle of a name, if it is known. -/
def lookup? (r : Registry) (name : String) : Option PatternId :=
  Keyed.find? name r.names

/-- The handle of a name. -/
def lookup (r : Registry) (name : String) : Except Error PatternId :=
  match r.lookup? name with
  | some id => .ok id
  | none => .error (.unknownPattern name)

/-- The text of the pattern of a handle. -/
def display (r : Registry) (id : PatternId) : String := (r.get? id).elim id.display Pattern.display

/-- The names are those of the patterns, each with the handle of its pattern. -/
theorem mem_names_iff {r : Registry} {name : String} {id : PatternId} :
    (name, id) ∈ r.names ↔ ∃ p, r.get? id = some p ∧ p.name = some name := by
  simp only [r.named, List.mem_filterMap, Pattern.entry?, Option.map_eq_some_iff, Prod.mk.injEq]
  constructor
  · rintro ⟨p, mem, n, named, rfl, rfl⟩
    obtain ⟨i, there⟩ := List.mem_iff_getElem?.1 mem
    refine ⟨p, ?_, named⟩
    rw [get?, r.placed i p there]
    exact there
  · rintro ⟨p, there, named⟩
    exact ⟨p, List.mem_of_getElem? there, name, named, rfl, r.placed _ p there⟩

/-! ### References lead down -/

theorem rank_le {r : Registry} {id : PatternId} {s : ClauseSet} (h : r.resolve? id = some s)
    {c : Clause} (hc : c ∈ s.toList) : c.rank ≤ id.index := by
  obtain ⟨p, hp, rfl⟩ := Option.map_eq_some_iff.1 h
  exact r.acyclic _ _ hp c hc

/-- A clause of a pattern that another clause refers to reaches less far than that clause. -/
theorem rank_lt {r : Registry} {c d : Clause} {id : PatternId} {s : ClauseSet}
    (href : c.reference? = some id) (h : r.resolve? id = some s) (hd : d ∈ s.toList) :
    d.rank < c.rank := by
  rw [Clause.rank_eq_of_reference? href]
  exact Nat.lt_succ_of_le (rank_le h hd)

/-- The union of two patterns that clauses refer to reaches less far than one of these clauses. -/
theorem rank_union_lt {r : Registry} {a b : Clause} {p q : PatternId} {s t : ClauseSet}
    (hp : a.reference? = some p) (hq : b.reference? = some q) (hs : r.resolve? p = some s)
    (ht : r.resolve? q = some t) : (s.union t).rank < max a.rank b.rank := by
  rw [Clause.rank_eq_of_reference? hp, Clause.rank_eq_of_reference? hq]
  have : (s.union t).rank ≤ max p.index q.index := by
    refine rankOf_le fun c hc => ?_
    rcases ClauseSet.mem_union hc with hc | hc
    · exact Nat.le_trans (rank_le hs hc) (Nat.le_max_left _ _)
    · exact Nat.le_trans (rank_le ht hc) (Nat.le_max_right _ _)
  omega

end Registry

end ProvenShapes
