/-
**Implication as a derivation.**

Implication of clauses is decided by a recursion through the patterns that clauses refer to.  Here it
is put beside an inductive relation whose rules say one by one why a clause implies another: equal
clauses, a type inside a type, an interval inside an interval, an obligation that includes another,
and behind references the patterns referred to.  The two agree, so whatever implication carries along
can be shown by induction on derivations.

Main definitions:

* `Registry.Entails` — the rules of implication.

Main results:

* `Registry.implies_iff_entails` — **implication is decided**;
* `Registry.subsumes_iff` — a set subsumes another when each clause required of a value is entailed
  by one of its own;
* `Registry.subsumedBy_eq_ok_iff` — whether one pattern is subsumed by another is a question about
  registered patterns, and it is answered on their sets.
-/

import ProvenShapes.Proofs.Clause
import ProvenShapes.Registry.Implication

set_option autoImplicit false

namespace ProvenShapes.Registry

/-- Why a clause implies another.  Behind references, each clause that a pattern requires of a value
has a clause chosen for it that entails it. -/
inductive Entails (r : Registry) : Clause → Clause → Prop
  | same {a b : Clause} (h : (a == b) = true) : Entails r a b
  | subtype {s t : Primitive} (h : s.subtypeOf t = true) :
      Entails r (.typeIs (.primitive s)) (.typeIs (.primitive t))
  | reference {p q : PatternId} {s t : ClauseSet} (chosen : Clause → Clause)
      (hs : r.resolve? p = some s) (ht : r.resolve? q = some t)
      (mem : ∀ c ∈ t.toList, c.isValuePredicate = true → chosen c ∈ s.toList)
      (each : ∀ c ∈ t.toList, c.isValuePredicate = true → Entails r (chosen c) c) :
      Entails r (.typeIs (.pattern p)) (.typeIs (.pattern q))
  | behind {p : PatternId} {s : ClauseSet} {d b : Clause} (hs : r.resolve? p = some s)
      (hd : d ∈ s.toList) (plain : ∀ q, b ≠ .typeIs (.pattern q)) (h : Entails r d b) :
      Entails r (.typeIs (.pattern p)) b
  | length {o₁ o₂ : Comparison} {b₁ b₂ : UInt64}
      (h : (Interval.ofLength o₁ b₁).isWithin (.ofLength o₂ b₂) = true) :
      Entails r (.length o₁ b₁) (.length o₂ b₂)
  | value {o₁ o₂ : Comparison} {b₁ b₂ : Number}
      (h : (Interval.ofValue o₁ b₁).isWithin (.ofValue o₂ b₂) = true) :
      Entails r (.value o₁ b₁) (.value o₂ b₂)
  | presence : Entails r (.required true) (.required false)
  | coMutation {ms ns : List String} (h : ∀ n ∈ ns, n ∈ ms) :
      Entails r (.changesWith ms) (.changesWith ns)
  | field {name : String} {p q : PatternId} {s t : ClauseSet} (chosen : Clause → Clause)
      (hs : r.resolve? p = some s) (ht : r.resolve? q = some t)
      (mem : ∀ c ∈ t.toList, c.isValuePredicate = true → chosen c ∈ s.toList)
      (each : ∀ c ∈ t.toList, c.isValuePredicate = true → Entails r (chosen c) c) :
      Entails r (.field name p) (.field name q)

variable {r : Registry}

/-! ### The recursion opened once -/

theorem setImplies_iff {s : ClauseSet} {c : Clause} :
    r.setImplies s c = true ↔ ∃ d ∈ s.toList, r.implies d c = true := by
  simp only [setImplies, List.any_eq_true]

theorem subsumes_iff_implies {s t : ClauseSet} :
    r.subsumes s t = true ↔
      ∀ c ∈ t.toList, c.isValuePredicate = true → ∃ d ∈ s.toList, r.implies d c = true := by
  simp only [subsumes, List.all_eq_true, ← setImplies_iff]
  refine forall_congr' fun c => forall_congr' fun _ => ?_
  cases c.isValuePredicate <;> simp

theorem subsumes_eq_attach {s t : ClauseSet} :
    r.subsumes s t = t.toList.attach.all fun c =>
      !c.val.isValuePredicate || s.toList.attach.any fun d => r.implies d.val c.val := by
  simp [subsumes, setImplies]

theorem not_subsumes_of_unresolved {p q : PatternId}
    (unknown : ∀ s t, r.resolve? p = some s → r.resolve? q = some t → False) :
    ¬ ∃ s t, r.resolve? p = some s ∧ r.resolve? q = some t ∧ r.subsumes s t = true :=
  fun ⟨s, t, hs, ht, _⟩ => unknown s t hs ht

theorem implies_reference_iff {p q : PatternId} :
    r.implies (.typeIs (.pattern p)) (.typeIs (.pattern q)) = true ↔
      p = q ∨ ∃ s t, r.resolve? p = some s ∧ r.resolve? q = some t ∧ r.subsumes s t = true := by
  have same := Clause.beq_iff_eq_of_not_value (a := .typeIs (.pattern p))
    (b := .typeIs (.pattern q)) (by simp)
  unfold implies
  simp only [Bool.or_eq_true, beq_iff_eq, same, Clause.typeIs.injEq, TypeRef.pattern.injEq]
  split
  · next s t hs ht => simp [hs, ht, subsumes_eq_attach]
  · next unknown =>
      simp only [not_subsumes_of_unresolved unknown, Bool.false_eq_true, or_false, or_self]

theorem implies_field_iff {m n : String} {p q : PatternId} :
    r.implies (.field m p) (.field n q) = true ↔
      m = n ∧ (p = q ∨
        ∃ s t, r.resolve? p = some s ∧ r.resolve? q = some t ∧ r.subsumes s t = true) := by
  have same := Clause.beq_iff_eq_of_not_value (a := .field m p) (b := .field n q) (by simp)
  unfold implies
  simp only [Bool.or_eq_true, Bool.and_eq_true, beq_iff_eq, same, Clause.field.injEq]
  split
  · next s t hs ht =>
      simp only [hs, ht, subsumes_eq_attach]
      simp [and_or_left]
  · next unknown =>
      simp only [not_subsumes_of_unresolved unknown, Bool.false_eq_true, or_false, or_self]

theorem implies_behind_iff {p : PatternId} {b : Clause} (plain : ∀ q, b ≠ .typeIs (.pattern q)) :
    r.implies (.typeIs (.pattern p)) b = true ↔
      ∃ s, r.resolve? p = some s ∧ ∃ d ∈ s.toList, r.implies d b = true := by
  have same := Clause.beq_iff_eq_of_not_value (a := .typeIs (.pattern p)) (b := b) (by simp)
  simp only [← setImplies_iff]
  unfold implies
  simp only [Bool.or_eq_true, same, Ne.symm (plain p), false_or]
  split
  · next s hs => simp [hs, setImplies]
  · next unknown => simp [unknown]

/-! ### Agreement -/

/-- Subsumption chooses, for each clause required of a value, a clause that implies it. -/
theorem exists_chosen {s t : ClauseSet} (h : r.subsumes s t = true) :
    ∃ chosen : Clause → Clause, ∀ c, c ∈ t.toList → c.isValuePredicate = true →
      chosen c ∈ s.toList ∧ r.implies (chosen c) c = true := by
  have pick : ∀ c, ∃ d, c ∈ t.toList → c.isValuePredicate = true →
      d ∈ s.toList ∧ r.implies d c = true := by
    intro c
    by_cases needed : c ∈ t.toList ∧ c.isValuePredicate = true
    · obtain ⟨d, hd, imp⟩ := subsumes_iff_implies.1 h c needed.1 needed.2
      exact ⟨d, fun _ _ => ⟨hd, imp⟩⟩
    · exact ⟨c, fun mem vp => absurd ⟨mem, vp⟩ needed⟩
  exact Classical.skolem.1 pick

theorem entails_of_implies {a b : Clause} (h : r.implies a b = true) : r.Entails a b := by
  -- both clauses of a nested question reach less far, or one of them does and the other stays
  induction total : a.rank + b.rank using Nat.strongRecOn generalizing a b with
  | _ total ih =>
      subst total
      cases same : a == b with
      | true => exact .same same
      | false =>
        have opened := h
        unfold implies at opened
        rw [same, Bool.false_or] at opened
        cases a with
        | typeIs x =>
            cases x with
            | primitive s =>
                cases b with
                | typeIs y =>
                    cases y with
                    | primitive t => exact .subtype opened
                    | pattern q => simp at opened
                | _ => simp at opened
            | pattern p =>
                by_cases plain : ∀ q, b ≠ .typeIs (.pattern q)
                · obtain ⟨s, hs, d, hd, imp⟩ := (implies_behind_iff plain).1 h
                  refine .behind hs hd plain (ih _ ?_ imp rfl)
                  exact Nat.add_lt_add_right (rank_lt rfl hs hd) _
                · obtain ⟨q, rfl⟩ : ∃ q, b = .typeIs (.pattern q) := by simpa using plain
                  obtain rfl | ⟨s, t, hs, ht, sub⟩ := implies_reference_iff.1 h
                  · exact .same (Clause.beq_refl _)
                  · obtain ⟨chosen, each⟩ := exists_chosen sub
                    refine .reference chosen hs ht (fun c hc vp => (each c hc vp).1)
                      fun c hc vp => ih _ ?_ (each c hc vp).2 rfl
                    exact Nat.add_lt_add (rank_lt rfl hs (each c hc vp).1) (rank_lt rfl ht hc)
        | length o₁ b₁ =>
            cases b with
            | length o₂ b₂ => exact .length opened
            | _ => simp at opened
        | value o₁ b₁ =>
            cases b with
            | value o₂ b₂ => exact .value opened
            | _ => simp at opened
        | required x =>
            cases b with
            | required y =>
                cases x <;> cases y
                all_goals first | exact .presence | simp at opened
            | _ => simp at opened
        | changesWith ms =>
            cases b with
            | changesWith ns => exact .coMutation (by simpa using opened)
            | _ => simp at opened
        | field m p =>
            cases b with
            | field n q =>
                obtain ⟨rfl, rfl | ⟨s, t, hs, ht, sub⟩⟩ := implies_field_iff.1 h
                · exact .same (Clause.beq_refl _)
                · obtain ⟨chosen, each⟩ := exists_chosen sub
                  refine .field chosen hs ht (fun c hc vp => (each c hc vp).1)
                    fun c hc vp => ih _ ?_ (each c hc vp).2 rfl
                  exact Nat.add_lt_add (rank_lt rfl hs (each c hc vp).1) (rank_lt rfl ht hc)
            | _ => simp at opened
        | satisfies | kindOf => simp at opened

theorem implies_of_entails {a b : Clause} (h : r.Entails a b) : r.implies a b = true := by
  induction h with
  | same h =>
      unfold implies
      rw [h, Bool.true_or]
  | subtype h =>
      unfold implies
      exact Bool.or_eq_true_iff.2 (.inr h)
  | reference chosen hs ht mem each ih =>
      have sub := subsumes_iff_implies.2 fun c hc vp => ⟨chosen c, mem c hc vp, ih c hc vp⟩
      exact implies_reference_iff.2 (.inr ⟨_, _, hs, ht, sub⟩)
  | behind hs hd plain h ih => exact (implies_behind_iff plain).2 ⟨_, hs, _, hd, ih⟩
  | length h =>
      unfold implies
      exact Bool.or_eq_true_iff.2 (.inr h)
  | value h =>
      unfold implies
      exact Bool.or_eq_true_iff.2 (.inr h)
  | presence =>
      unfold implies
      exact Bool.or_eq_true_iff.2 (.inr rfl)
  | coMutation h =>
      unfold implies
      refine Bool.or_eq_true_iff.2 (.inr (List.all_eq_true.2 fun n hn => ?_))
      exact List.contains_iff_mem.2 (h n hn)
  | field chosen hs ht mem each ih =>
      have sub := subsumes_iff_implies.2 fun c hc vp => ⟨chosen c, mem c hc vp, ih c hc vp⟩
      exact implies_field_iff.2 ⟨rfl, .inr ⟨_, _, hs, ht, sub⟩⟩

/-- Implication is decided by its recursion. -/
theorem implies_iff_entails {a b : Clause} : r.implies a b = true ↔ r.Entails a b :=
  ⟨entails_of_implies, implies_of_entails⟩

/-- One set subsumes another when each clause required of a value is entailed by one of its own. -/
theorem subsumes_iff {s t : ClauseSet} :
    r.subsumes s t = true ↔
      ∀ c ∈ t.toList, c.isValuePredicate = true → ∃ d ∈ s.toList, r.Entails d c := by
  simp only [subsumes_iff_implies, implies_iff_entails]

/-- A set subsumes what it contains. -/
theorem subsumes_of_contains {s t : ClauseSet} (h : ∀ c ∈ t.toList, s.contains c = true) :
    r.subsumes s t = true := by
  refine subsumes_iff.2 fun c mem _ => ?_
  obtain ⟨d, there, same⟩ := ClauseSet.contains_iff.1 (h c mem)
  exact ⟨d, there, .same (Clause.beq_symm same)⟩

/-- The question whether one pattern is subsumed by another has an answer when both are registered. -/
theorem subsumedBy_eq_ok_iff {p q : PatternId} {answer : Bool} :
    r.subsumedBy p q = .ok answer ↔
      ∃ s t, r.resolve? p = some s ∧ r.resolve? q = some t ∧ r.subsumes s t = answer := by
  unfold subsumedBy resolve
  cases r.resolve? p with
  | none => simp [bind, Except.bind]
  | some s =>
      cases r.resolve? q with
      | none => simp [bind, Except.bind]
      | some t => simp [bind, Except.bind, pure, Except.pure]

end ProvenShapes.Registry
