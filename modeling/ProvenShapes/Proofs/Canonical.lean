/-
**Canonical sets do not depend on how they were written.**

A set of clauses is put together from lists of clauses and from the sets of bases, in some order and
with repetitions.  All that is left of this in the end is which clauses the set contains, up to the way
in which numeric bounds are written: sets that contain the same clauses are equal, one clause after the
other.  So the union of sets obeys the laws of set theory.  And what is found in a set by going through
its clauses in their order is found in equal sets at the same place, first of all the contradiction for
which a registration is refused.

Main definitions:

* `Clause.SamePair` — two pairs of clauses are equal;
* `Registry.Lists` — a registration writes a clause, itself or through a base;
* `Registry.Registrable` — a registration in which nothing is unknown and whose name may be taken;
* `Registry.Rearranges` — clauses and bases in another order, with other repetitions, and with bases
  written out;
* `Registry.SameOutcome` — two registrations store equal sets of the clauses written, or fail with
  equal contradictions of them.

Main results:

* `ClauseSet.beq_iff_contains` — **equal sets are those that contain the same clauses**;
* `ClauseSet.union_comm`, `ClauseSet.union_assoc`, `ClauseSet.union_beq_extend` and their siblings —
  the laws of union;
* `Registry.rel_contradiction?` — **equal sets have equal first contradictions**;
* `Registry.Rearranges.lists_iff` — what rearranging keeps;
* `Registry.registrations_are_canonical` — the laws of union, and what they mean for registrations.
-/

import ProvenShapes.Proofs.Closure
import ProvenShapes.Proofs.Contradiction
import ProvenShapes.Proofs.Orders

set_option autoImplicit false

namespace ProvenShapes

/-! ### Equal sets -/

theorem Clause.beq_congr_right {c d e : Clause} (same : (d == e) = true) : (c == d) = (c == e) := by
  rw [Bool.eq_iff_iff]
  constructor
  · intro equal
    exact beq_trans equal same
  · intro equal
    exact beq_trans equal (beq_symm same)

namespace ClauseSet

variable {s t u : ClauseSet} {c : Clause} {l : List Clause}

theorem forall₂_of_beq {l l' : List Clause} (h : (l == l') = true) :
    List.Forall₂ (fun c d => (c == d) = true) l l' := by
  induction l generalizing l' with
  | nil =>
      cases l' with
      | nil => exact .nil
      | cons d rest => simp at h
  | cons c rest ih =>
      cases l' with
      | nil => simp at h
      | cons d rest' =>
          obtain ⟨first, later⟩ := Bool.and_eq_true_iff.1 h
          exact .cons first (ih later)

theorem contains_of_beq (h : (s == t) = true) (c : Clause) : s.contains c = t.contains c := by
  have entries := forall₂_of_beq h
  unfold contains
  generalize s.toList = l at entries ⊢
  generalize t.toList = l' at entries ⊢
  induction entries with
  | nil => rfl
  | cons same _ ih => rw [List.any_cons, List.any_cons, Clause.beq_congr_right same, ih]

/-- Sets are equal just when they contain the same clauses. -/
theorem beq_iff_contains : (s == t) = true ↔ ∀ c, s.contains c = true ↔ t.contains c = true := by
  constructor
  · intro equal c
    rw [contains_of_beq equal]
  · intro same
    exact beq_of_contains_eq fun c => Bool.eq_iff_iff.2 (same c)

theorem contains_empty (c : Clause) : empty.contains c = false := rfl

theorem contains_ofList_iff : (ofList l).contains c = true ↔ ∃ d ∈ l, (c == d) = true := by
  rw [ofList, contains_extend, contains_empty]
  simp

/-! ### The laws of union -/

theorem union_comm (s t : ClauseSet) : (s.union t == t.union s) = true := by
  rw [beq_iff_contains]
  intro c
  rw [contains_union, contains_union, or_comm]

theorem union_assoc (s t u : ClauseSet) :
    ((s.union t).union u == s.union (t.union u)) = true := by
  rw [beq_iff_contains]
  intro c
  simp only [contains_union, or_assoc]

theorem union_self (s : ClauseSet) : (s.union s == s) = true := by
  rw [beq_iff_contains]
  intro c
  rw [contains_union, or_self]

theorem union_empty (s : ClauseSet) : (s.union empty == s) = true := by
  rw [beq_iff_contains]
  intro c
  simp [contains_union, contains_empty]

theorem empty_union (s : ClauseSet) : (empty.union s == s) = true := by
  rw [beq_iff_contains]
  intro c
  simp [contains_union, contains_empty]

/-- The union is the merge of both sets, whichever of them contains the other. -/
theorem union_beq_extend (s t : ClauseSet) : (s.union t == s.extend t.toList) = true := by
  rw [beq_iff_contains]
  intro c
  rw [contains_union, contains_extend, contains_iff (s := t), or_comm]

theorem union_congr {s' t' : ClauseSet} (left : (s == s') = true) (right : (t == t') = true) :
    (s.union t == s'.union t') = true := by
  rw [beq_iff_contains] at left right ⊢
  intro c
  rw [contains_union, contains_union, left, right]

/-- Adding a list is adding its set. -/
theorem extend_beq_union (s : ClauseSet) (l : List Clause) :
    (s.extend l == s.union (ofList l)) = true := by
  rw [beq_iff_contains]
  intro c
  rw [contains_union, contains_extend, contains_ofList_iff, or_comm]

end ClauseSet

/-! ### Equal sets have equal contradictions -/

theorem forall₂_pairs {α : Type} {R : α → α → Prop} {l l' : List α} (h : List.Forall₂ R l l') :
    List.Forall₂ (fun p q => R p.1 q.1 ∧ R p.2 q.2) (pairs l) (pairs l') := by
  induction h with
  | nil => exact .nil
  | cons first rest ih =>
      refine List.rel_append ?_ ih
      rw [List.forall₂_map_left_iff, List.forall₂_map_right_iff]
      exact rest.imp fun a b same => ⟨first, same⟩

/-- Lists that are related member by member have related first members with a property. -/
theorem rel_find? {α : Type} {R : α → α → Prop} {f g : α → Bool} {l l' : List α}
    (h : List.Forall₂ R l l') (same : ∀ a b, R a b → f a = g b) :
    Option.Rel R (l.find? f) (l'.find? g) := by
  induction h with
  | nil => exact .none
  | @cons a b rest rest' related _ ih =>
      rw [List.find?_cons, List.find?_cons, same a b related]
      cases g b with
      | true => exact .some related
      | false => exact ih

/-- Both clauses of a pair equal those of another pair. -/
def Clause.SamePair (p q : Clause × Clause) : Prop := (p.1 == q.1) = true ∧ (p.2 == q.2) = true

namespace Registry

variable {r : Registry} {s t : ClauseSet}

theorem conflicts_value_congr {op op' : Comparison} {x x' y y' : Number} (hx : compare x x' = .eq)
    (hy : compare y y' = .eq) :
    r.conflicts (.value op x, .value op' y) = r.conflicts (.value op x', .value op' y') := by
  have intersect := Interval.intersects_congr (Interval.alike_ofValue op hx)
    (Interval.alike_ofValue op' hy)
  simp only [conflicts, Clause.subject, conflict, intersect]

/-- Clauses that are equal to clauses in conflict are in conflict. -/
theorem conflicts_congr {p q : Clause × Clause} (same : Clause.SamePair p q) :
    r.conflicts p = r.conflicts q := by
  obtain ⟨a, b⟩ := p
  obtain ⟨a', b'⟩ := q
  -- only two comparisons of values can be in conflict without being the same in both pairs
  rcases Clause.eq_or_value_of_beq same.1 with rfl | ⟨op, x, y, rfl, rfl, hx⟩
  · rcases Clause.eq_or_value_of_beq same.2 with rfl | ⟨op, x, y, rfl, rfl, hx⟩
    · rfl
    · cases a with
      | value op' z => exact conflicts_value_congr Std.ReflCmp.compare_self hx
      | _ => rfl
  · rcases Clause.eq_or_value_of_beq same.2 with rfl | ⟨op', x', y', rfl, rfl, hx'⟩
    · cases b with
      | value op' z => exact conflicts_value_congr hx Std.ReflCmp.compare_self
      | _ => rfl
    · exact conflicts_value_congr hx hx'

/-- Equal sets have equal first contradictions, or none. -/
theorem rel_contradiction? (same : (s == t) = true) :
    Option.Rel Clause.SamePair (r.contradiction? s) (r.contradiction? t) := by
  have found := rel_find? (forall₂_pairs (ClauseSet.forall₂_of_beq same)) fun p q =>
    conflicts_congr (r := r)
  have kinds : r.effectiveKinds s = r.effectiveKinds t :=
    effectiveKinds_congr fun path kind => by
      simp only [pins_iff_contains, ClauseSet.contains_of_beq same]
  rw [contradiction?_eq, contradiction?_eq, kinds]
  generalize (pairs s.toList).find? r.conflicts = p at found ⊢
  generalize (pairs t.toList).find? r.conflicts = q at found ⊢
  cases found with
  | some equal => exact .some equal
  | none =>
      cases kindClash? (r.effectiveKinds t) with
      | none => exact .none
      | some pair => exact .some ⟨pair.1.beq_refl, pair.2.beq_refl⟩

/-! ### Registrations -/

variable {scope : Scope} {name name' : Option String} {clauses clauses' : List Clause}
  {bases bases' : List PatternId}

/-- The clause, or one that is equal to it, is among the clauses or in the set of a base. -/
def Lists (r : Registry) (clauses : List Clause) (bases : List PatternId) (c : Clause) : Prop :=
  (∃ d ∈ clauses, (c == d) = true) ∨
    ∃ base ∈ bases, ∃ t, r.resolve? base = some t ∧ t.contains c = true

/-- The name of a registration may be taken, and all that it refers to exists. -/
structure Registrable (r : Registry) (scope : Scope) (name : Option String) (clauses : List Clause)
    (bases : List PatternId) : Prop where
  named : name.elim (.ok ()) r.checkName = .ok ()
  referred : r.checkReferences scope clauses = .ok ()
  based : ∀ base ∈ bases, ∃ t, r.resolve? base = some t

/-- Bases that exist are united into one set, one after the other. -/
theorem exists_uniteBases (based : ∀ base ∈ bases, ∃ t, r.resolve? base = some t) (s : ClauseSet) :
    ∃ u, r.uniteBases s bases = .ok u ∧ ∀ c, u.contains c = true ↔
      s.contains c = true ∨ ∃ base ∈ bases, ∃ t, r.resolve? base = some t ∧ t.contains c = true := by
  induction bases generalizing s with
  | nil => exact ⟨s, rfl, by simp⟩
  | cons base rest ih =>
      obtain ⟨⟨t, known⟩, later⟩ := List.forall_mem_cons.1 based
      obtain ⟨u, united, contents⟩ := ih later (s.union t)
      refine ⟨u, ?_, ?_⟩
      · rw [uniteBases, resolve_of_resolve? known]
        exact united
      · intro c
        rw [contents, ClauseSet.contains_union, or_assoc]
        simp [known]

/-- The canonical set of a registration contains the clauses that are written, and no others. -/
theorem exists_canonicalize (clauses : List Clause)
    (based : ∀ base ∈ bases, ∃ t, r.resolve? base = some t) :
    ∃ s, r.canonicalize clauses bases = .ok s ∧
      ∀ c, s.contains c = true ↔ r.Lists clauses bases c := by
  obtain ⟨u, united, contents⟩ := exists_uniteBases based .empty
  refine ⟨u.extend clauses, ?_, ?_⟩
  · rw [canonicalize, united]
  · intro c
    rw [ClauseSet.contains_extend, contents, ClauseSet.contains_empty, Lists]
    simp

/-- A registration in which nothing else is wrong ends with its canonical set: it is stored, or it has
a contradiction. -/
theorem Registrable.register_cases (h : r.Registrable scope name clauses bases) :
    ∃ s, (∀ c, s.contains c = true ↔ r.Lists clauses bases c) ∧
      ((r.contradiction? s = none ∧
        ∃ r', r.register scope name clauses bases = .ok (r', ⟨r.size⟩) ∧
          r'.resolve? ⟨r.size⟩ = some s) ∨
      ∃ pair, r.contradiction? s = some pair ∧
        r.register scope name clauses bases =
          .error (.contradictory (name.getD inlineLabel) pair.1 pair.2)) := by
  obtain ⟨s, united, contents⟩ := exists_canonicalize clauses h.based
  refine ⟨s, contents, ?_⟩
  cases found : r.contradiction? s with
  | some pair =>
      refine .inr ⟨pair, rfl, ?_⟩
      exact register_eq_contradictory_iff.2 ⟨h.named, h.referred, rfl, s, united, found⟩
  | none =>
      have accepted : r.Accepts scope name clauses bases s := by
        refine ⟨?_, h.referred, united, found⟩
        rintro n rfl
        exact checkName_eq_ok h.named
      refine .inl ⟨rfl, _, accepted.register_eq h.named, ?_⟩
      rw [resolve?_push, if_pos rfl]

/-- Of two registrations that write some clauses, both store the set of these clauses under the same
handle, or the set is contradictory and both fail and name the same two clauses of it, all up to the
equality of clauses. -/
inductive SameOutcome (r : Registry) (written : Clause → Prop) :
    Except Error (Registry × PatternId) → Except Error (Registry × PatternId) → Prop
  | stored {r₁ r₂ : Registry} {id : PatternId} {s t : ClauseSet} (left : r₁.resolve? id = some s)
      (right : r₂.resolve? id = some t) (same : (s == t) = true)
      (contents : ∀ c, s.contains c = true ↔ written c) (free : r.contradiction? s = none) :
      SameOutcome r written (.ok (r₁, id)) (.ok (r₂, id))
  | contradictory {label label' : String} {s : ClauseSet} {p q : Clause × Clause}
      (contents : ∀ c, s.contains c = true ↔ written c) (found : r.contradiction? s = some p)
      (same : Clause.SamePair p q) :
      SameOutcome r written (.error (.contradictory label p.1 p.2))
        (.error (.contradictory label' q.1 q.2))

/-- Registrations that write the same clauses have the same outcome. -/
theorem sameOutcome_of_lists (left : r.Registrable scope name clauses bases)
    (right : r.Registrable scope name' clauses' bases')
    (same : ∀ c, r.Lists clauses bases c ↔ r.Lists clauses' bases' c) :
    SameOutcome r (r.Lists clauses bases) (r.register scope name clauses bases)
      (r.register scope name' clauses' bases') := by
  obtain ⟨s, inS, atS⟩ := left.register_cases
  obtain ⟨t, inT, atT⟩ := right.register_cases
  have equal : (s == t) = true := by
    rw [ClauseSet.beq_iff_contains]
    intro c
    rw [inS, inT, same]
  have found := rel_contradiction? (r := r) equal
  rcases atS with ⟨free, r₁, registered, stored⟩ | ⟨p, clash, refused⟩
  · rcases atT with ⟨-, r₂, registered', stored'⟩ | ⟨q, clash', -⟩
    · rw [registered, registered']
      exact .stored stored stored' equal inS free
    · rw [free, clash'] at found
      cases found
  · rcases atT with ⟨free', -⟩ | ⟨q, clash', refused'⟩
    · rw [clash, free'] at found
      cases found
    · rw [clash, clash'] at found
      rw [refused, refused']
      cases found with
      | some pair => exact .contradictory inS clash pair

/-! ### Registrations that are written in another way -/

/-- Clauses and bases that are written in another way. -/
inductive Rearranges (r : Registry) :
    List Clause → List PatternId → List Clause → List PatternId → Prop
  /-- The clauses stand in another order, are repeated, and have bounds that are written in another
  way. -/
  | clauses {clauses clauses' : List Clause} {bases : List PatternId}
      (same : ∀ c, (∃ d ∈ clauses, (c == d) = true) ↔ ∃ d ∈ clauses', (c == d) = true) :
      Rearranges r clauses bases clauses' bases
  /-- The bases stand in another order and are repeated. -/
  | bases {clauses : List Clause} {bases bases' : List PatternId}
      (same : ∀ base, base ∈ bases ↔ base ∈ bases') : Rearranges r clauses bases clauses bases'
  /-- The clauses of a base are moved into the list. -/
  | writtenOut {clauses : List Clause} {base : PatternId} {bases : List PatternId} {s : ClauseSet}
      (known : r.resolve? base = some s) :
      Rearranges r clauses (base :: bases) (clauses ++ s.toList) bases
  | symm {clauses clauses' : List Clause} {bases bases' : List PatternId}
      (h : Rearranges r clauses bases clauses' bases') : Rearranges r clauses' bases' clauses bases
  | trans {clauses clauses' clauses'' : List Clause} {bases bases' bases'' : List PatternId}
      (first : Rearranges r clauses bases clauses' bases')
      (second : Rearranges r clauses' bases' clauses'' bases'') :
      Rearranges r clauses bases clauses'' bases''

theorem Rearranges.of_perm (left : clauses.Perm clauses') (right : bases.Perm bases') :
    r.Rearranges clauses bases clauses' bases' := by
  have moved : r.Rearranges clauses bases clauses' bases :=
    .clauses fun c => by simp only [left.mem_iff]
  exact moved.trans (.bases fun base => right.mem_iff)

/-- Rearranging keeps the clauses that are written. -/
theorem Rearranges.lists_iff (h : r.Rearranges clauses bases clauses' bases') (c : Clause) :
    r.Lists clauses bases c ↔ r.Lists clauses' bases' c := by
  induction h with
  | clauses same => exact or_congr_left (same c)
  | bases same => simp only [Lists, same]
  | @writtenOut clauses base bases s known =>
      have written : (∃ d ∈ clauses ++ s.toList, (c == d) = true) ↔
          (∃ d ∈ clauses, (c == d) = true) ∨ s.contains c = true := by
        rw [ClauseSet.contains_iff]
        simp only [List.mem_append, or_and_right, exists_or]
      have first : (∃ b ∈ base :: bases, ∃ t, r.resolve? b = some t ∧ t.contains c = true) ↔
          s.contains c = true ∨ ∃ b ∈ bases, ∃ t, r.resolve? b = some t ∧ t.contains c = true := by
        simp [known]
      rw [Lists, Lists, written, first, or_assoc]
  | symm _ ih => exact ih.symm
  | trans _ _ first second => exact first.trans second

/-- **Canonical sets do not depend on how they were written.**  Up to the equality of clauses the union
of sets is commutative, associative and idempotent, has the empty set as its identity, and is the merge
of both sets; adding a list of clauses is the union with the set of the list.  So registrations in the
same registry that differ in how their clauses and bases are written store equal sets of all these
clauses, or fail with a contradiction between equal clauses. -/
theorem registrations_are_canonical :
    ((∀ s t : ClauseSet, (s.union t == t.union s) = true) ∧
      (∀ s t u : ClauseSet, ((s.union t).union u == s.union (t.union u)) = true) ∧
      (∀ s : ClauseSet, (s.union s == s) = true) ∧
      (∀ s : ClauseSet, (s.union .empty == s) = true ∧ (ClauseSet.empty.union s == s) = true) ∧
      (∀ s t : ClauseSet, (s.union t == s.extend t.toList) = true) ∧
      (∀ s s' t t' : ClauseSet, (s == s') = true → (t == t') = true →
        (s.union t == s'.union t') = true) ∧
      (∀ (s : ClauseSet) (l : List Clause), (s.extend l == s.union (.ofList l)) = true)) ∧
    ∀ (r : Registry) (scope : Scope) (name name' : Option String) (clauses clauses' : List Clause)
      (bases bases' : List PatternId),
      r.Registrable scope name clauses bases → r.Registrable scope name' clauses' bases' →
      r.Rearranges clauses bases clauses' bases' →
      SameOutcome r (r.Lists clauses bases) (r.register scope name clauses bases)
        (r.register scope name' clauses' bases') := by
  refine ⟨⟨ClauseSet.union_comm, ClauseSet.union_assoc, ClauseSet.union_self, ?_,
    ClauseSet.union_beq_extend, ?_, ClauseSet.extend_beq_union⟩, ?_⟩
  · intro s
    exact ⟨s.union_empty, s.empty_union⟩
  · intro s s' t t' left right
    exact ClauseSet.union_congr left right
  · intro r scope name name' clauses clauses' bases bases' left right rearranged
    exact sameOutcome_of_lists left right rearranged.lists_iff

/-- Numbers up to five. -/
def fives : Registry := Registry.empty.push (some "Five") (.ofList [.value .le (.int 5)]) (by decide)

/-- Numbers from one to five, with the upper bound from a base that is named twice, and with the base
written out behind a lower bound that is a double; and numbers from seven to five, which are refused in
both ways of writing. -/
theorem registrations_are_canonical_fives :
    let scope : Scope := ⟨[], []⟩
    let number := Clause.typeIs (.primitive .number)
    let atMost := Clause.value .le (.int 5)
    let one := Clause.value .ge (.int 1)
    let one' := Clause.value .ge (.float (.ofInt 1))
    let seven := Clause.value .ge (.int 7)
    (fives.register scope none [number, one] [⟨0⟩, ⟨0⟩]).isOk = true ∧
      SameOutcome fives (fives.Lists [number, one] [⟨0⟩, ⟨0⟩])
        (fives.register scope none [number, one] [⟨0⟩, ⟨0⟩])
        (fives.register scope (some "Few") [one', number, atMost, number] []) ∧
      (fives.register scope none [seven] [⟨0⟩]).isOk = false ∧
      SameOutcome fives (fives.Lists [seven] [⟨0⟩]) (fives.register scope none [seven] [⟨0⟩])
        (fives.register scope (some "None") [atMost, seven] []) := by
  intro scope number atMost one one' seven
  have law := registrations_are_canonical.2 fives scope
  have five : fives.resolve? ⟨0⟩ = some (.ofList [atMost]) := rfl
  have few : fives.Rearranges [number, one] [⟨0⟩, ⟨0⟩] [one', number, atMost, number] [] := by
    have once : fives.Rearranges [number, one] [⟨0⟩, ⟨0⟩] [number, one] [⟨0⟩] :=
      .bases fun base => by simp
    refine (once.trans (.writtenOut five)).trans (.clauses fun c => ?_)
    have double : (c == one) = (c == one') := Clause.beq_congr_right (by decide +kernel)
    show (∃ d ∈ [number, one, atMost], (c == d) = true) ↔ _
    simp only [List.mem_cons, List.not_mem_nil, or_false, exists_eq_or_imp, exists_eq_left, double]
    tauto
  have none : fives.Rearranges [seven] [⟨0⟩] [atMost, seven] [] := by
    refine .trans (.writtenOut five) (.of_perm ?_ .rfl)
    exact List.Perm.swap atMost seven []
  refine ⟨by decide +kernel, ?_, by decide +kernel, ?_⟩
  · refine law _ _ _ _ _ _ ⟨rfl, rfl, ?_⟩ ⟨?_, rfl, by simp⟩ few
    · simp [five]
    · show fives.checkName "Few" = .ok ()
      cbv
  · refine law _ _ _ _ _ _ ⟨rfl, rfl, ?_⟩ ⟨?_, rfl, by simp⟩ none
    · simp [five]
    · show fives.checkName "None" = .ok ()
      cbv

end Registry

end ProvenShapes
