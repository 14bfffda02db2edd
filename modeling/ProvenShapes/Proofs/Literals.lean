/-
**Literals are judged as they are validated.**

An assignment of a literal is not a validation.  It evaluates the clauses that the binding declares,
records those that come out true, and then asks implication for the rest; so a clause that comes out
false might still be granted, because another one implies it.  Where implication is sound for
evaluation this never happens.  Then an assignment and a validation agree, and the clauses that an
assignment reports as unproven are those that evaluate to false, in the order in which the pattern
lists them.  Kinds are left out, since no literal has one although evaluation never denies it.

Main definitions:

* `Evaluator.refutes` — evaluating the clause ends with false.

Main results:

* `Checker.missing_literal` — **what a literal leaves unproven is what evaluation refutes**;
* `Checker.assign_literal` — what becomes of an assignment once the literal is evaluated;
* `Checker.literal_assignment_agrees_with_validation` — **a literal can be assigned exactly if it is
  valid, and otherwise the clauses that it refutes are named**.
-/

import ProvenShapes.Proofs.Closure
import ProvenShapes.Proofs.Errors
import ProvenShapes.Proofs.Preorder

set_option autoImplicit false

namespace ProvenShapes

namespace Evaluator

/-- Evaluating the clause on the value ends with false, and not with an error. -/
def refutes (e : Evaluator) (v : Value) (c : Clause) : Bool :=
  match (e.holds c v 0).result with
  | .ok holds => !holds
  | .error _ => false

variable {e : Evaluator} {v : Value} {c : Clause}

theorem refutes_eq_true_iff : e.refutes v c = true ↔ (e.holds c v 0).result = .ok false := by
  unfold refutes
  split
  · next holds evaluated => simp [evaluated]
  · next err failed => simp [failed]

theorem Holds.refutes_eq_false (h : e.Holds c v 0) : e.refutes v c = false := by
  rw [Holds] at h
  simp [refutes, h]

end Evaluator

/-- No clause of a set that pins no kind carries one. -/
theorem Registry.carriesKind_eq_false {r : Registry} {s : ClauseSet} {c : Clause}
    (kindless : ∀ path, r.kindsAt s path = []) (mem : c ∈ s.toList) : r.carriesKind c = false := by
  by_contra carries
  obtain ⟨path, kind, pinned⟩ := exists_mem_kindPaths_of_carriesKind (by simpa using carries)
  have listed : kind ∈ r.kindsAt s path := mem_kindsAt.2 ⟨c, mem, pinned⟩
  simp [kindless] at listed

namespace Checker

variable {k : Checker} {name : String} {b : Binding} {v : Value} {s known : ClauseSet} {c : Clause}

/-! ### Evaluating the clauses of a pattern -/

theorem literalProves_eq_holds (needed : c.isValuePredicate = true)
    (plain : k.catalog.registry.carriesKind c = false) :
    k.literalProves v c = (k.catalog.evaluator.holds c v 0).result := by
  simp [literalProves, needed, plain]

theorem failsOnly_literalProofs (k : Checker) (v : Value) (clauses : List Clause) :
    FailsOnly Error.OfEvaluation (k.literalProofs v clauses) := by
  induction clauses with
  | nil => exact failsOnly_ok []
  | cons c rest ih =>
      refine FailsOnly.bind ?_ fun proves _ => ?_
      · unfold literalProves
        split
        · exact k.catalog.evaluator.failsOnly_holds c v 0
        · exact failsOnly_ok false
      · cases proves with
        | false => exact ih
        | true => exact ih.bind fun others _ => failsOnly_ok (c :: others)

theorem failsOnly_sourceProvenance (k : Checker) (v : Value) (required : ClauseSet) :
    FailsOnly Error.OfEvaluation (k.sourceProvenance (.literal v) required) := by
  simp only [sourceProvenance]
  split
  · exact (k.failsOnly_literalProofs v required.toList).bind fun proven _ => failsOnly_ok _
  · exact failsOnly_ok _

/-- A literal on which every clause of a pattern without kinds can be evaluated is known by some
clauses. -/
theorem exists_known_of_evaluated (kindless : ∀ path, k.catalog.registry.kindsAt s path = [])
    (evaluates : ∀ c ∈ s.toList, ∃ verdict,
      (k.catalog.evaluator.holds c v 0).result = .ok verdict) :
    ∃ known, k.sourceProvenance (.literal v) s = .ok known := by
  obtain ⟨proven, found⟩ : ∃ proven, k.literalProofs v s.toList = .ok proven := by
    refine exists_literalProofs_of_evaluated fun c mem => ?_
    by_cases needed : c.isValuePredicate = true
    · rw [literalProves_eq_holds needed (Registry.carriesKind_eq_false kindless mem)]
      exact evaluates c mem
    · exact ⟨false, by simp [literalProves, needed]⟩
  cases evaluated : k.catalog.options.literalProofs with
  | false => exact ⟨_, by simp only [sourceProvenance, evaluated]; rfl⟩
  | true => exact ⟨_, by simp only [sourceProvenance, evaluated, found]; rfl⟩

/-- What is known of a literal implies each clause of the pattern that evaluation does not refute. -/
theorem setImplies_or_refutes (evaluated : k.catalog.options.literalProofs = true)
    (kindless : ∀ path, k.catalog.registry.kindsAt s path = [])
    (h : k.sourceProvenance (.literal v) s = .ok known) (mem : c ∈ s.toList)
    (needed : c.isValuePredicate = true) :
    k.catalog.registry.setImplies known c = true ∨ k.catalog.evaluator.refutes v c = true := by
  simp only [sourceProvenance, evaluated, if_true] at h
  obtain ⟨proven, found, done⟩ := bind_eq_ok_iff.1 h
  obtain rfl := Except.ok.inj done
  rcases mem_or_denied_of_literalProofs found c mem with listed | denied
  · left
    obtain ⟨d, there, same⟩ := ClauseSet.contains_iff.1
      (ClauseSet.contains_ofList (List.mem_append_right _ listed))
    refine Registry.setImplies_iff.2 ⟨d, there, ?_⟩
    exact Registry.implies_iff_entails.2 (.same (Clause.beq_symm same))
  · right
    have plain := Registry.carriesKind_eq_false kindless mem
    rwa [literalProves_eq_holds needed plain, ← Evaluator.refutes_eq_true_iff] at denied

/-- What a literal leaves unproven of a pattern without kinds is what evaluation refutes. -/
theorem missing_literal (evaluated : k.catalog.options.literalProofs = true)
    (regular : k.catalog.registry.Regular) (bounded : v.Bounded)
    (nanFree : ∀ c ∈ s.toList, c.NaNFree)
    (kindless : ∀ path, k.catalog.registry.kindsAt s path = [])
    (h : k.sourceProvenance (.literal v) s = .ok known) :
    k.catalog.registry.missing known s = s.toList.filter (k.catalog.evaluator.refutes v) := by
  refine List.filter_congr fun c mem => ?_
  by_cases needed : c.isValuePredicate = true
  · by_cases implied : k.catalog.registry.setImplies known c = true
    · -- implication is sound, so nothing that is implied comes out false
      obtain ⟨d, there, implies⟩ := Registry.setImplies_iff.1 implied
      have entails := Registry.entails_of_implies implies
      have holds := (holds_literal h d there).of_entails regular entails bounded (nanFree c mem)
      simp [implied, holds.refutes_eq_false]
    · have refuted := (setImplies_or_refutes evaluated kindless h mem needed).resolve_left implied
      simp [needed, implied, refuted]
  · have holds : k.catalog.evaluator.Holds c v 0 :=
      Evaluator.holds_of_not_isValuePredicate needed
    simp [needed, holds.refutes_eq_false]

/-! ### Assigning a literal -/

theorem assign_of_failed {source : Source} {err : Error} (bound : k.binding name = .ok b)
    (declared : k.catalog.registry.resolve? b.declared = some s)
    (h : k.sourceProvenance source s = .error err) : k.assign name source = (k, .error err) := by
  simp only [assign, bound, Registry.resolve_of_resolve? declared, h]

/-- A literal that can be assigned is valid. -/
theorem validate_of_assign {outcome : Outcome} (regular : k.catalog.registry.Regular)
    (bounded : v.Bounded) (bound : k.binding name = .ok b)
    (h : (k.assign name (.literal v)).2 = .ok outcome) :
    k.catalog.validate b.declared v = .ok () := by
  obtain ⟨b', s, known, bound', resolved, source, sub, -⟩ := assign_eq_ok_iff.1 (Prod.ext rfl h)
  obtain rfl := Except.ok.inj (bound.symm.trans bound')
  have declared := Registry.resolve?_of_resolve resolved
  refine Catalog.validate_eq_ok_iff.2 ⟨s, declared, ?_⟩
  exact Evaluator.holds_of_subsumes regular (regular.nanFree declared) bounded sub
    (holds_literal source)

section

variable (evaluated : k.catalog.options.literalProofs = true)
  (regular : k.catalog.registry.Regular) (bounded : v.Bounded) (bound : k.binding name = .ok b)
  (declared : k.catalog.registry.resolve? b.declared = some s)
  (kindless : ∀ path, k.catalog.registry.kindsAt s path = [])

include evaluated regular bounded bound declared kindless

/-- A literal of which something is known is assigned if evaluation refutes nothing; otherwise the
refuted clauses are reported. -/
theorem assign_literal (h : k.sourceProvenance (.literal v) s = .ok known) :
    k.assign name (.literal v) =
      if s.toList.filter (k.catalog.evaluator.refutes v) = [] then
        (k.setProvenance name b (known.union s), .ok .static)
      else
        (k, .error (.unproven name (s.toList.filter (k.catalog.evaluator.refutes v)))) := by
  rw [← missing_literal evaluated regular bounded (regular.nanFree declared) kindless h]
  simp only [assign, bound, Registry.resolve_of_resolve? declared, h]
  cases k.catalog.registry.missing known s with
  | nil => rfl
  | cons c rest => rfl

/-- A literal that is valid can be assigned. -/
theorem exists_assign_of_validate (valid : k.catalog.validate b.declared v = .ok ()) :
    ∃ outcome, (k.assign name (.literal v)).2 = .ok outcome := by
  obtain ⟨s', declared', holds⟩ := Catalog.validate_eq_ok_iff.1 valid
  obtain rfl := Option.some.inj (declared.symm.trans declared')
  obtain ⟨known, source⟩ := exists_known_of_evaluated kindless fun c mem => ⟨true, holds c mem⟩
  have none : s.toList.filter (k.catalog.evaluator.refutes v) = [] := by
    refine List.filter_eq_nil_iff.2 fun c mem => ?_
    simp [(holds c mem).refutes_eq_false]
  rw [assign_literal evaluated regular bounded bound declared kindless source, if_pos none]
  exact ⟨_, rfl⟩

/-- A literal that is not valid, although every clause can be evaluated on it, is refused with the
clauses that it refutes. -/
theorem assign_eq_unproven
    (evaluates : ∀ c ∈ s.toList, ∃ verdict,
      (k.catalog.evaluator.holds c v 0).result = .ok verdict)
    (invalid : k.catalog.validate b.declared v ≠ .ok ()) :
    k.assign name (.literal v) =
      (k, .error (.unproven name (s.toList.filter (k.catalog.evaluator.refutes v)))) := by
  obtain ⟨known, source⟩ := exists_known_of_evaluated kindless evaluates
  rw [assign_literal evaluated regular bounded bound declared kindless source]
  split
  · next none =>
      -- what is evaluated and not refuted holds
      refine absurd (Catalog.validate_eq_ok_iff.2 ⟨s, declared, fun c mem => ?_⟩) invalid
      obtain ⟨verdict, result⟩ := evaluates c mem
      cases verdict with
      | true => exact result
      | false =>
          have refuted := Evaluator.refutes_eq_true_iff.2 result
          exact absurd refuted (List.filter_eq_nil_iff.1 none c mem)
  · rfl

/-- The clauses that an assignment of a literal reports as unproven are those that it refutes. -/
theorem unproven_eq {target : String} {missing : List Clause}
    (failed : (k.assign name (.literal v)).2 = .error (.unproven target missing)) :
    target = name ∧ missing = s.toList.filter (k.catalog.evaluator.refutes v) := by
  cases source : k.sourceProvenance (.literal v) s with
  | error err =>
      -- evaluation fails in its own ways, none of which is a missing proof
      rw [assign_of_failed bound declared source] at failed
      have sort := k.failsOnly_sourceProvenance v s err source
      rw [Except.error.inj failed] at sort
      cases sort
  | ok known =>
      rw [assign_literal evaluated regular bounded bound declared kindless source] at failed
      split at failed
      · simp at failed
      · obtain ⟨rfl, rfl⟩ := Error.unproven.inj (Except.error.inj failed)
        exact ⟨rfl, rfl⟩

end

/-- **A literal can be assigned exactly if it is valid.**  Let the declared pattern pin no kind.  An
assignment of a literal succeeds just when the literal is valid for the pattern.  If it is not, and
no clause fails to be evaluated, the clauses reported as unproven are those that evaluate to false,
in the order of the pattern; nor are any others ever reported. -/
theorem literal_assignment_agrees_with_validation
    (evaluated : k.catalog.options.literalProofs = true) (regular : k.catalog.registry.Regular)
    (bounded : v.Bounded) (bound : k.binding name = .ok b)
    (declared : k.catalog.registry.resolve? b.declared = some s)
    (kindless : ∀ path, k.catalog.registry.kindsAt s path = []) :
    ((∃ outcome, (k.assign name (.literal v)).2 = .ok outcome) ↔
      k.catalog.validate b.declared v = .ok ()) ∧
    ((∀ c ∈ s.toList, ∃ verdict, (k.catalog.evaluator.holds c v 0).result = .ok verdict) →
      k.catalog.validate b.declared v ≠ .ok () →
      k.assign name (.literal v) =
        (k, .error (.unproven name (s.toList.filter (k.catalog.evaluator.refutes v))))) ∧
    (∀ target missing, (k.assign name (.literal v)).2 = .error (.unproven target missing) →
      target = name ∧ missing = s.toList.filter (k.catalog.evaluator.refutes v)) := by
  refine ⟨⟨?_, ?_⟩, ?_, ?_⟩
  · rintro ⟨outcome, assigned⟩
    exact validate_of_assign regular bounded bound assigned
  · exact exists_assign_of_validate evaluated regular bounded bound declared kindless
  · exact assign_eq_unproven evaluated regular bounded bound declared kindless
  · intro target missing failed
    exact unproven_eq evaluated regular bounded bound declared kindless failed

/-- Ada can be made the login.  Grace, whose name is too long for it, cannot, and the report names
the field. -/
theorem literal_assignment_agrees_with_validation_login :
    (∃ outcome, (accounts.assign "login" (.literal Catalog.ada)).2 = .ok outcome) ∧
      accounts.assign "login" (.literal grace) =
        (accounts, .error (.unproven "login" [.field "name" ⟨0⟩])) := by
  let s : ClauseSet := .ofList [.typeIs (.primitive .object), .field "name" ⟨0⟩]
  have bound : accounts.binding "login" = .ok ⟨⟨2⟩, .empty⟩ := rfl
  have declared : accounts.catalog.registry.resolve? ⟨2⟩ = some s := rfl
  have none : accounts.catalog.registry.effectiveKinds s = [] := by decide +kernel
  have kindless : ∀ path, accounts.catalog.registry.kindsAt s path = [] := by
    intro path
    simp [Registry.kindsAt, none, Keyed.find?]
  have judged := fun v (bounded : v.Bounded) => literal_assignment_agrees_with_validation
    (k := accounts) (v := v) rfl Catalog.contacts_regular bounded bound declared kindless
  constructor
  · have valid : ∀ c ∈ s.toList, accounts.catalog.evaluator.Holds c Catalog.ada 0 := by
      decide +kernel
    exact (judged _ Catalog.ada_bounded).1.2 (Catalog.validate_eq_ok_iff.2 ⟨s, declared, valid⟩)
  · have evaluates : ∀ c ∈ s.toList,
        (accounts.catalog.evaluator.holds c grace 0).result.isOk = true := by decide +kernel
    have long : ¬∀ c ∈ s.toList, accounts.catalog.evaluator.Holds c grace 0 := by decide +kernel
    have refuted : s.toList.filter (accounts.catalog.evaluator.refutes grace) =
        [.field "name" ⟨0⟩] := by decide +kernel
    rw [← refuted]
    refine (judged grace grace_bounded).2.1 (fun c mem => isOk_iff.1 (evaluates c mem)) ?_
    intro valid
    obtain ⟨s', declared', holds⟩ := Catalog.validate_eq_ok_iff.1 valid
    obtain rfl := Option.some.inj (declared.symm.trans declared')
    exact long holds

end Checker

end ProvenShapes
