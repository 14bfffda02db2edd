/-
**Equality of clauses, and what sets of clauses contain.**

Clauses are equal when neither is before the other.  Two equal clauses are the same clause, except
that a numeric bound may be written in two ways.  Sets of clauses contain a clause when they have an
equal one, and in these terms the operations on sets are the operations of set theory.

Main results:

* `Clause.eq_or_value_of_beq` — **equal clauses differ at most in how a bound is written**;
* `ClauseSet.contains_extend`, `ClauseSet.mem_ofList` — what sets built from lists contain;
* `ClauseSet.contains_union` — **the union contains what either set contains**.
-/

import ProvenShapes.Clause.Set

set_option autoImplicit false

namespace ProvenShapes

/-! ### Equal clauses -/

theorem Primitive.index_injective {s t : Primitive} (h : s.index = t.index) : s = t := by
  cases s <;> cases t <;> first | rfl | simp [index] at h

theorem Primitive.index_lt (t : Primitive) : t.index < all.length := by cases t <;> decide

theorem Comparison.index_injective {o p : Comparison} (h : o.index = p.index) : o = p := by
  cases o <;> cases p <;> first | rfl | simp [index] at h

/-- Primitive types and patterns have different places among types. -/
theorem TypeRef.eq_of_choice {x y : TypeRef}
    (h : (Clause.typeIs x).key.choice = (Clause.typeIs y).key.choice) : x = y := by
  cases x with
  | primitive s =>
      cases y with
      | primitive t => exact congrArg primitive (Primitive.index_injective h)
      | pattern id =>
          have : s.index = Primitive.all.length + id.index := h
          have := s.index_lt
          omega
  | pattern id =>
      cases y with
      | primitive t =>
          have : Primitive.all.length + id.index = t.index := h
          have := t.index_lt
          omega
      | pattern id' =>
          obtain ⟨i⟩ := id
          obtain ⟨j⟩ := id'
          exact congrArg (fun k => pattern ⟨k⟩) (Nat.add_left_cancel h)

namespace Clause

theorem beq_iff {a b : Clause} : (a == b) = true ↔ Ord.compare a b = .eq :=
  beq_iff_eq (a := Clause.compare a b)

theorem beq_refl (a : Clause) : (a == a) = true := beq_iff.2 Std.ReflCmp.compare_self

theorem beq_symm {a b : Clause} (h : (a == b) = true) : (b == a) = true :=
  beq_iff.2 (Std.OrientedCmp.eq_symm (beq_iff.1 h))

theorem beq_trans {a b c : Clause} (hab : (a == b) = true) (hbc : (b == c) = true) :
    (a == c) = true :=
  beq_iff.2 (Std.TransCmp.eq_trans (beq_iff.1 hab) (beq_iff.1 hbc))

theorem key_of_beq {a b : Clause} (h : (a == b) = true) :
    a.key.sort = b.key.sort ∧ a.key.choice = b.key.choice ∧ a.key.amount = b.key.amount ∧
      Ord.compare a.key.bound b.key.bound = .eq ∧ a.key.names = b.key.names ∧
      a.key.target = b.key.target := by
  have h : Clause.compare a b = .eq := beq_iff.1 h
  simp only [Clause.compare, compareLex_eq_eq, compareOn] at h
  obtain ⟨sort, choice, amount, bound, names, target⟩ := h
  exact ⟨Nat.compare_eq_eq.1 sort, Nat.compare_eq_eq.1 choice, Nat.compare_eq_eq.1 amount, bound,
    Std.LawfulEqCmp.eq_of_compare names, Nat.compare_eq_eq.1 target⟩

/-- The sort of a clause is told by its constructor alone. -/
theorem sort_key (c : Clause) :
    c.key.sort =
      match c with
      | typeIs _ => 0
      | length .. => 1
      | value .. => 2
      | required _ => 3
      | satisfies _ => 4
      | kindOf _ => 5
      | changesWith _ => 6
      | field .. => 7 := by
  cases c with
  | typeIs x => cases x <;> rfl
  | _ => rfl

/-- Equal clauses are the same, up to the way in which a numeric bound is written. -/
theorem eq_or_value_of_beq {a b : Clause} (h : (a == b) = true) :
    a = b ∨ ∃ op x y, a = .value op x ∧ b = .value op y ∧ Ord.compare x y = .eq := by
  obtain ⟨sort, choice, amount, bound, names, target⟩ := key_of_beq h
  rw [sort_key, sort_key] at sort
  cases a with
  | typeIs x =>
      cases b with
      | typeIs y => exact .inl (congrArg typeIs (TypeRef.eq_of_choice choice))
      | _ => simp at sort
  | value op x =>
      cases b with
      | value op' y =>
          obtain rfl := Comparison.index_injective choice
          exact .inr ⟨op, x, y, rfl, rfl, bound⟩
      | _ => simp at sort
  | length op m =>
      cases b with
      | length op' n =>
          obtain rfl := Comparison.index_injective choice
          obtain rfl := UInt64.toNat_inj.1 amount
          exact .inl rfl
      | _ => simp at sort
  | required x =>
      cases b with
      | required y => cases x <;> cases y <;> simp_all [key]
      | _ => simp at sort
  | field name id =>
      cases b with
      | field name' id' =>
          obtain ⟨i⟩ := id
          obtain ⟨j⟩ := id'
          simp_all [key]
      | _ => simp at sort
  | satisfies | kindOf | changesWith =>
      cases b with
      | satisfies | kindOf | changesWith => simp_all [key]
      | _ => simp at sort

/-- Except for numeric bounds, equal clauses are the same. -/
theorem beq_iff_eq_of_not_value {a b : Clause} (h : ∀ op bound, a ≠ .value op bound) :
    (a == b) = true ↔ a = b := by
  constructor
  · intro same
    obtain eq | ⟨op, x, _, eq, _⟩ := eq_or_value_of_beq same
    · exact eq
    · exact absurd eq (h op x)
  · rintro rfl
    exact a.beq_refl

end Clause

namespace ClauseSet

/-! ### What sets contain -/

theorem contains_iff {s : ClauseSet} {c : Clause} :
    s.contains c = true ↔ ∃ d ∈ s.toList, (c == d) = true := by
  simp only [contains, List.any_eq_true]

theorem contains_of_mem {s : ClauseSet} {c : Clause} (h : c ∈ s.toList) : s.contains c = true :=
  contains_iff.2 ⟨c, h, c.beq_refl⟩

/-- Except for numeric bounds, a set contains the clauses that stand in it. -/
theorem contains_iff_mem {s : ClauseSet} {c : Clause} (h : ∀ op bound, c ≠ .value op bound) :
    s.contains c = true ↔ c ∈ s.toList := by
  simp only [contains_iff, Clause.beq_iff_eq_of_not_value h, exists_eq_right']

theorem contains_congr {s : ClauseSet} {c d : Clause} (h : (c == d) = true) :
    s.contains c = true ↔ s.contains d = true := by
  simp only [contains_iff]
  constructor
  · rintro ⟨e, he, eq⟩
    exact ⟨e, he, Clause.beq_trans (Clause.beq_symm h) eq⟩
  · rintro ⟨e, he, eq⟩
    exact ⟨e, he, Clause.beq_trans h eq⟩

theorem isSubset_iff {s t : ClauseSet} :
    s.isSubset t = true ↔ ∀ c ∈ s.toList, t.contains c = true := List.all_eq_true

theorem isSubset_refl (s : ClauseSet) : s.isSubset s = true :=
  isSubset_iff.2 fun _ mem => contains_of_mem mem

theorem contains_of_isSubset {s t : ClauseSet} {c : Clause} (h : s.isSubset t = true)
    (hc : s.contains c = true) : t.contains c = true := by
  obtain ⟨d, hd, eq⟩ := contains_iff.1 hc
  exact (contains_congr eq).2 (isSubset_iff.1 h d hd)

/-- Putting a clause into a list removes none of its clauses. -/
theorem mem_insertList_of_mem {c d : Clause} {l : List Clause} (h : d ∈ l) :
    d ∈ insertList c l := by
  induction l with
  | nil => simp at h
  | cons e rest ih =>
      unfold insertList
      split
      · exact List.mem_cons_of_mem c h
      · exact h
      · rcases List.mem_cons.1 h with rfl | h
        · exact List.mem_cons_self
        · exact List.mem_cons_of_mem e (ih h)

theorem exists_mem_insertList (c : Clause) (l : List Clause) :
    ∃ d ∈ insertList c l, (c == d) = true := by
  induction l with
  | nil => exact ⟨c, List.mem_cons_self, c.beq_refl⟩
  | cons e rest ih =>
      unfold insertList
      split
      · exact ⟨c, List.mem_cons_self, c.beq_refl⟩
      · next eq => exact ⟨e, List.mem_cons_self, Clause.beq_iff.2 eq⟩
      · obtain ⟨d, hd, eq⟩ := ih
        exact ⟨d, List.mem_cons_of_mem e hd, eq⟩

theorem contains_insert {s : ClauseSet} {c d : Clause} :
    (s.insert c).contains d = true ↔ (d == c) = true ∨ s.contains d = true := by
  constructor
  · intro h
    obtain ⟨e, he, eq⟩ := contains_iff.1 h
    rcases mem_insert he with rfl | he
    · exact .inl eq
    · exact .inr (contains_iff.2 ⟨e, he, eq⟩)
  · rintro (eq | h)
    · obtain ⟨e, he, eq'⟩ := exists_mem_insertList c s.toList
      exact contains_iff.2 ⟨e, he, Clause.beq_trans eq eq'⟩
    · obtain ⟨e, he, eq⟩ := contains_iff.1 h
      exact contains_iff.2 ⟨e, mem_insertList_of_mem he, eq⟩

theorem contains_extend {s : ClauseSet} {l : List Clause} {d : Clause} :
    (s.extend l).contains d = true ↔ (∃ c ∈ l, (d == c) = true) ∨ s.contains d = true := by
  induction l generalizing s with
  | nil => simp [extend]
  | cons c rest ih =>
      have step : s.extend (c :: rest) = (s.insert c).extend rest := rfl
      rw [step, ih, contains_insert]
      simp only [List.mem_cons, exists_eq_or_imp]
      constructor
      · rintro (h | h | h)
        · exact .inl (.inr h)
        · exact .inl (.inl h)
        · exact .inr h
      · rintro ((h | h) | h)
        · exact .inr (.inl h)
        · exact .inl h
        · exact .inr (.inr h)

theorem mem_ofList {l : List Clause} {c : Clause} (h : c ∈ (ofList l).toList) : c ∈ l := by
  rcases mem_extend h with h | h
  · exact List.mem_reverse.1 h
  · simp [empty] at h

theorem contains_ofList {l : List Clause} {c : Clause} (h : c ∈ l) :
    (ofList l).contains c = true :=
  contains_extend.2 (.inl ⟨c, List.mem_reverse.2 h, c.beq_refl⟩)

/-- Nothing is added to a set by what it contains. -/
theorem union_eq_left {s t : ClauseSet} (h : t.isSubset s = true) : s.union t = s := if_pos h

/-- The union contains what either set contains. -/
theorem contains_union {s t : ClauseSet} {c : Clause} :
    (s.union t).contains c = true ↔ s.contains c = true ∨ t.contains c = true := by
  unfold union
  split
  · next sub => exact ⟨.inl, fun h => h.elim id (contains_of_isSubset sub)⟩
  · split
    · next sub => exact ⟨.inr, fun h => h.elim (contains_of_isSubset sub) id⟩
    · rw [contains_extend, or_comm, ← contains_iff]

end ClauseSet

end ProvenShapes
