/-
**Canonical sets of clauses.**

A set of clauses is a strictly ascending list: no clause occurs twice, up to equality of numeric
bounds, and a set has one list.  Adding a clause that is present changes nothing.

Main definitions:

* `ClauseSet` — strictly ascending lists of clauses;
* `ClauseSet.insert`, `ClauseSet.extend`, `ClauseSet.ofList` — adding clauses;
* `ClauseSet.union` — the union, which keeps the left set's own clauses;
* `ClauseSet.display` — the text of a set.

Main results:

* `ClauseSet.mem_insert`, `ClauseSet.mem_extend`, `ClauseSet.mem_union` — where the clauses of
  these sets come from.
-/

import ProvenShapes.Clause.Basic

set_option autoImplicit false

namespace ProvenShapes

/-- A strictly ascending list of clauses. -/
structure ClauseSet where
  toList : List Clause
  ascending : toList.Pairwise fun a b => compare a b = .lt

namespace ClauseSet

/-- The empty set. -/
def empty : ClauseSet := ⟨[], .nil⟩

instance : Inhabited ClauseSet := ⟨empty⟩

instance : EmptyCollection ClauseSet := ⟨empty⟩

instance : Membership Clause ClauseSet := ⟨fun s c => c ∈ s.toList⟩

/-! ### Adding clauses -/

/-- A clause put into its place in an ascending list, unless an equal one stands there. -/
def insertList (c : Clause) : List Clause → List Clause
  | [] => [c]
  | d :: rest =>
      match compare c d with
      | .lt => c :: d :: rest
      | .eq => d :: rest
      | .gt => d :: insertList c rest

theorem mem_insertList {c d : Clause} {l : List Clause} (h : d ∈ insertList c l) :
    d = c ∨ d ∈ l := by
  induction l with
  | nil => exact .inl (by simpa [insertList] using h)
  | cons e rest ih =>
      unfold insertList at h
      split at h
      · simpa using h
      · exact .inr h
      · rcases List.mem_cons.1 h with rfl | h
        · exact .inr (by simp)
        · exact (ih h).imp_right fun h => by simp [h]

theorem ascending_insertList {c : Clause} {l : List Clause}
    (h : l.Pairwise fun a b => compare a b = .lt) :
    (insertList c l).Pairwise fun a b => compare a b = .lt := by
  induction l with
  | nil => simp [insertList]
  | cons d rest ih =>
      have ⟨first, tail⟩ := List.pairwise_cons.1 h
      unfold insertList
      split
      · next lt =>
          refine List.pairwise_cons.2 ⟨fun e he => ?_, h⟩
          rcases List.mem_cons.1 he with rfl | he
          · exact lt
          · exact Std.TransCmp.lt_trans lt (first e he)
      · exact h
      · next gt =>
          refine List.pairwise_cons.2 ⟨fun e he => ?_, ih tail⟩
          rcases mem_insertList he with rfl | he
          · exact Std.OrientedCmp.lt_of_gt gt
          · exact first e he

/-- The set with a clause added; a clause that is present stays as it is. -/
def insert (s : ClauseSet) (c : Clause) : ClauseSet :=
  ⟨insertList c s.toList, ascending_insertList s.ascending⟩

/-- The set with all clauses of a list added. -/
def extend (s : ClauseSet) (clauses : List Clause) : ClauseSet := clauses.foldl insert s

/-- The set of a list of clauses; of equal clauses the last one stays. -/
def ofList (clauses : List Clause) : ClauseSet := empty.extend clauses.reverse

/-! ### Asking -/

/-- How many clauses the set has. -/
def size (s : ClauseSet) : Nat := s.toList.length

/-- The set has no clause. -/
def isEmpty (s : ClauseSet) : Bool := s.toList.isEmpty

/-- The set has a clause equal to this one. -/
def contains (s : ClauseSet) (c : Clause) : Bool := s.toList.any fun d => c == d

/-- Every clause of the first set is in the second. -/
def isSubset (s t : ClauseSet) : Bool := s.toList.all t.contains

/-- Sets are equal when their clauses are, one by one. -/
instance : BEq ClauseSet := ⟨fun s t => s.toList == t.toList⟩

/-- The kind that the set itself carries. -/
def kind? (s : ClauseSet) : Option String :=
  s.toList.findSome? fun c =>
    match c with
    | .kindOf kind => some kind
    | _ => none

/-- The union of two sets; of equal clauses the left one stays, unless the right set has all of the
left one. -/
def union (s t : ClauseSet) : ClauseSet :=
  if t.isSubset s then s
  else if s.isSubset t then t
  else s.extend t.toList

instance : Union ClauseSet := ⟨union⟩

/-- The text of a set. -/
def display (s : ClauseSet) : String :=
  "\x7b" ++ "; ".intercalate (s.toList.map Clause.display) ++ "\x7d"

/-! ### Where clauses come from -/

theorem mem_insert {s : ClauseSet} {c d : Clause} (h : d ∈ (s.insert c).toList) :
    d = c ∨ d ∈ s.toList := mem_insertList h

theorem mem_extend {s : ClauseSet} {l : List Clause} {d : Clause}
    (h : d ∈ (s.extend l).toList) : d ∈ l ∨ d ∈ s.toList := by
  induction l generalizing s with
  | nil => exact .inr h
  | cons c rest ih =>
      rcases ih (s := s.insert c) h with h | h
      · exact .inl (by simp [h])
      · rcases mem_insert h with rfl | h
        · exact .inl (by simp)
        · exact .inr h

theorem mem_union {s t : ClauseSet} {d : Clause} (h : d ∈ (s.union t).toList) :
    d ∈ s.toList ∨ d ∈ t.toList := by
  unfold union at h
  split at h
  · exact .inl h
  · split at h
    · exact .inr h
    · exact (mem_extend h).symm

end ClauseSet

end ProvenShapes
