/-
**Registering patterns.**

A pattern is registered from clauses and bases.  Its clauses may refer only to what is declared; the
clauses of its bases are put together with them into one canonical set, once and for all; and the
set must not be contradictory.  Nothing is registered unless all of this holds.

Main definitions:

* `Registry.checkReferences` — all that the clauses refer to is declared;
* `Registry.canonicalize` — the canonical set of clauses and bases;
* `Registry.inline` — the set of clauses written in place, checked but not registered;
* `Registry.register` — **registration**.

Main results:

* `Registry.rank_le_of_checkReferences`, `Registry.rank_le_of_canonicalize` — checked clauses and
  their canonical set reach no further than the patterns there are.
-/

import ProvenShapes.Constraint
import ProvenShapes.Registry.Contradiction
import ProvenShapes.Text.Blank

set_option autoImplicit false

namespace ProvenShapes.Registry

/-- What clauses may refer to besides patterns: the declared constraints and kinds. -/
structure Scope where
  constraints : Constraints
  kinds : List String

/-! ### References -/

/-- What the clause refers to is declared. -/
def checkReference (r : Registry) (scope : Scope) (c : Clause) : Except Error Unit :=
  match c with
  | .satisfies id =>
      if scope.constraints.contains id then .ok () else .error (.unknownConstraint id)
  | .kindOf kind => if scope.kinds.contains kind then .ok () else .error (.unknownKind kind)
  | .typeIs (.pattern id) | .field _ id =>
      match r.resolve id with
      | .ok _ => .ok ()
      | .error e => .error e
  | _ => .ok ()

/-- What the clauses refer to is declared; the first failure counts. -/
def checkReferences (r : Registry) (scope : Scope) : List Clause → Except Error Unit
  | [] => .ok ()
  | c :: rest =>
      match r.checkReference scope c with
      | .ok _ => r.checkReferences scope rest
      | .error e => .error e

theorem index_lt_of_resolve {r : Registry} {id : PatternId} {s : ClauseSet}
    (h : r.resolve? id = some s) : id.index < r.size := by
  obtain ⟨p, hp, -⟩ := Option.map_eq_some_iff.1 h
  exact (List.getElem?_eq_some_iff.1 hp).1

theorem resolve?_of_resolve {r : Registry} {id : PatternId} {s : ClauseSet}
    (h : r.resolve id = .ok s) : r.resolve? id = some s := by
  unfold resolve at h
  split at h
  · next e => rw [e, Except.ok.inj h]
  · simp at h

theorem rank_le_of_checkReference {r : Registry} {scope : Scope} {c : Clause}
    (h : r.checkReference scope c = .ok ()) : c.rank ≤ r.size := by
  unfold checkReference at h
  split at h
  · simp [Clause.rank, Clause.reference?]
  · simp [Clause.rank, Clause.reference?]
  · split at h
    · next e => exact index_lt_of_resolve (resolve?_of_resolve e)
    · simp at h
  · split at h
    · next e => exact index_lt_of_resolve (resolve?_of_resolve e)
    · simp at h
  · next h₁ h₂ h₃ h₄ =>
      cases c with
      | typeIs type =>
          cases type with
          | primitive _ => simp [Clause.rank, Clause.reference?]
          | pattern id => exact absurd rfl (h₃ id)
      | field name id => exact absurd rfl (h₄ name id)
      | _ => simp [Clause.rank, Clause.reference?]

theorem rank_le_of_checkReferences {r : Registry} {scope : Scope} {clauses : List Clause}
    (h : r.checkReferences scope clauses = .ok ()) : ∀ c ∈ clauses, c.rank ≤ r.size := by
  induction clauses with
  | nil => simp
  | cons d rest ih =>
      unfold checkReferences at h
      split at h
      · next e =>
          intro c hc
          rcases List.mem_cons.1 hc with rfl | hc
          · exact rank_le_of_checkReference e
          · exact ih h c hc
      · simp at h

/-! ### Canonical sets -/

/-- A set united with the clauses of bases, one after the other. -/
def uniteBases (r : Registry) (s : ClauseSet) : List PatternId → Except Error ClauseSet
  | [] => .ok s
  | base :: rest =>
      match r.resolve base with
      | .ok t => r.uniteBases (s.union t) rest
      | .error e => .error e

/-- The canonical set of clauses and bases. -/
def canonicalize (r : Registry) (clauses : List Clause) (bases : List PatternId) :
    Except Error ClauseSet :=
  match r.uniteBases .empty bases with
  | .ok s => .ok (s.extend clauses)
  | .error e => .error e

theorem rank_le_of_uniteBases {r : Registry} {bases : List PatternId} {s t : ClauseSet}
    (hs : ∀ c ∈ s.toList, c.rank ≤ r.size) (h : r.uniteBases s bases = .ok t) :
    ∀ c ∈ t.toList, c.rank ≤ r.size := by
  induction bases generalizing s with
  | nil => exact Except.ok.inj h ▸ hs
  | cons base rest ih =>
      unfold uniteBases at h
      split at h
      · next u e =>
          refine ih (fun c hc => ?_) h
          have known := resolve?_of_resolve e
          rcases ClauseSet.mem_union hc with hc | hc
          · exact hs c hc
          · exact Nat.le_trans (rank_le known hc) (Nat.le_of_lt (index_lt_of_resolve known))
      · simp at h

theorem rank_le_of_canonicalize {r : Registry} {clauses : List Clause} {bases : List PatternId}
    {s : ClauseSet} (hc : ∀ c ∈ clauses, c.rank ≤ r.size)
    (h : r.canonicalize clauses bases = .ok s) : ∀ c ∈ s.toList, c.rank ≤ r.size := by
  unfold canonicalize at h
  split at h
  · next t e =>
      have base := rank_le_of_uniteBases (by simp [ClauseSet.empty]) e
      intro c mem
      rw [← Except.ok.inj h] at mem
      rcases ClauseSet.mem_extend mem with mem | mem
      · exact hc c mem
      · exact base c mem
  · simp at h

/-! ### Registration -/

/-- The label of a pattern without a name. -/
def inlineLabel : String := "<inline>"

/-- The canonical set of clauses written in place. -/
def inline (r : Registry) (scope : Scope) (clauses : List Clause) : Except Error ClauseSet := do
  r.checkReferences scope clauses
  let s ← r.canonicalize clauses []
  r.checkSatisfiable inlineLabel s
  return s

/-- A name for a pattern is neither blank nor taken. -/
def checkName (r : Registry) (name : String) : Except Error Unit :=
  if Text.isBlank name then .error (.invalidName .pattern name)
  else if (r.lookup? name).isSome then .error (.alreadyExists .pattern name)
  else .ok ()

/-- What holds of the patterns of a list and of one more at its end. -/
theorem forall_getElem?_concat {patterns : List Pattern} {p : Pattern} {P : Nat → Pattern → Prop}
    (old : ∀ i q, patterns[i]? = some q → P i q) (new : P patterns.length p) :
    ∀ i q, (patterns ++ [p])[i]? = some q → P i q := by
  intro i q there
  rcases Nat.lt_or_ge i patterns.length with lt | ge
  · exact old i q (by rwa [List.getElem?_append_left lt] at there)
  · rw [List.getElem?_append_right ge, List.getElem?_singleton] at there
    split at there
    · next last =>
        obtain rfl := Option.some.inj there
        obtain rfl : i = patterns.length := by omega
        exact new
    · simp at there

/-- The registry with one more pattern, which refers only to those there are. -/
def push (r : Registry) (name : Option String) (s : ClauseSet)
    (h : ∀ c ∈ s.toList, c.rank ≤ r.size) : Registry where
  patterns := r.patterns ++ [⟨⟨r.size⟩, name, s⟩]
  names := name.elim r.names fun n => r.names ++ [(n, ⟨r.size⟩)]
  placed := forall_getElem?_concat r.placed rfl
  named := by cases name <;> simp [Pattern.entry?, r.named]
  acyclic := forall_getElem?_concat r.acyclic h

/-- Registers a pattern and gives its handle. -/
def register (r : Registry) (scope : Scope) (name : Option String) (clauses : List Clause)
    (bases : List PatternId) : Except Error (Registry × PatternId) :=
  match name.elim (.ok ()) r.checkName with
  | .error e => .error e
  | .ok _ =>
      match checked : r.checkReferences scope clauses with
      | .error e => .error e
      | .ok _ =>
          match united : r.canonicalize clauses bases with
          | .error e => .error e
          | .ok s =>
              match r.checkSatisfiable (name.getD inlineLabel) s with
              | .error e => .error e
              | .ok _ =>
                  let bounded := rank_le_of_canonicalize (rank_le_of_checkReferences checked) united
                  .ok (r.push name s bounded, ⟨r.size⟩)

end ProvenShapes.Registry
