/-
**What evaluation fails with.**

A class of errors is a condition on them, and a result keeps to a class if it is no error outside of
it.  Every way of putting counted results together keeps to a class of errors if its parts do.  With
this, evaluating clauses is seen to fail in three ways only: a pattern or a constraint is unknown, or
a constraint is at fault; validation adds that the value is invalid.

Main definitions:

* `FailsOnly` — a result, or an error of a class;
* `Error.OfEvaluation`, `Error.OfValidation` — the errors of evaluation, and of validation.

Main results:

* `Counted.failsOnly_allTrue`, `Evaluator.failsOnly_validate` and their siblings — how classes of
  errors go through evaluation;
* `Catalog.failsOnly_validate` — **what validation fails with**.
-/

import ProvenShapes.Catalog.Basic
import ProvenShapes.Proofs.Walks

set_option autoImplicit false

namespace ProvenShapes

/-- A result, or an error of a class. -/
def FailsOnly {α : Type} (kind : Error → Prop) (x : Except Error α) : Prop :=
  ∀ e, x = .error e → kind e

section FailsOnly

variable {α β : Type} {kind : Error → Prop} {x : Except Error α}

theorem failsOnly_ok (a : α) : FailsOnly kind (.ok a : Except Error α) := by
  intro e h
  simp at h

theorem failsOnly_error {e : Error} (h : kind e) : FailsOnly kind (.error e : Except Error α) := by
  intro e' same
  rwa [← Except.error.inj same]

theorem FailsOnly.imp {other : Error → Prop} (h : FailsOnly kind x)
    (within : ∀ e, kind e → other e) : FailsOnly other x :=
  fun e failed => within e (h e failed)

theorem FailsOnly.bind {f : α → Except Error β} (h : FailsOnly kind x)
    (next : ∀ a, x = .ok a → FailsOnly kind (f a)) : FailsOnly kind (x >>= f) := by
  cases x with
  | ok a => exact next a rfl
  | error e => exact failsOnly_error (h e rfl)

namespace Counted

theorem failsOnly_bind {y : Counted α} {f : α → Counted β} (h : FailsOnly kind y.result)
    (next : ∀ a, FailsOnly kind (f a).result) : FailsOnly kind (y >>= f).result := by
  rw [result_bind]
  exact h.bind fun a _ => next a

theorem failsOnly_map {y : Counted α} {f : α → β} (h : FailsOnly kind y.result) :
    FailsOnly kind (f <$> y).result := by
  rw [map_eq_pure_bind]
  exact failsOnly_bind h fun a => failsOnly_ok (f a)

theorem failsOnly_firstFalse? {f : α → Counted Bool} {l : List α}
    (h : ∀ a ∈ l, FailsOnly kind (f a).result) : FailsOnly kind (firstFalse? f l).result := by
  induction l with
  | nil => exact failsOnly_ok none
  | cons a rest ih =>
      obtain ⟨first, later⟩ := List.forall_mem_cons.1 h
      refine failsOnly_bind first fun b => ?_
      cases b with
      | true => exact ih later
      | false => exact failsOnly_ok (some a)

theorem failsOnly_allTrue {f : α → Counted Bool} {l : List α}
    (h : ∀ a ∈ l, FailsOnly kind (f a).result) : FailsOnly kind (allTrue f l).result := by
  rw [allTrue_eq]
  exact failsOnly_map (failsOnly_firstFalse? h)

theorem failsOnly_guarded {limit depth : Nat} {y : Counted Bool} (h : FailsOnly kind y.result) :
    FailsOnly kind (if limit < depth then pure false else do tick; y).result := by
  split
  · exact failsOnly_ok false
  · exact failsOnly_bind (failsOnly_ok ()) fun _ => h

end Counted

end FailsOnly

/-! ### Evaluation -/

namespace Evaluator

variable {e : Evaluator} {v : Value} {clauses : List Clause} {kind : Error → Prop}

theorem failsOnly_satisfies {id : String}
    (unknown : e.constraints.contains id = false → kind (.unknownConstraint id))
    (fault : ∀ message, kind (.constraintFault id message)) :
    FailsOnly kind (e.satisfies id v) := by
  unfold satisfies
  split
  · next absent => exact failsOnly_error (unknown (by simp [Constraints.contains, absent]))
  · next constraint found =>
      have named : constraint.id = id := by simpa using List.find?_some found
      intro err failed
      split at failed
      · simp at failed
      · next inside =>
          unfold Constraint.evaluate at failed inside
          split at failed
          · split at failed
            · split at failed <;> simp at failed
            · split at failed
              · simp at failed
              · next broken _ =>
                  rw [← Except.error.inj failed, named]
                  exact fault broken.message
          · next outside =>
              rw [if_neg outside] at inside
              exact absurd rfl (inside _ _ _)

/-- What a clause asks fails with an error of a class, if what it refers to is known or the lack of it
is such an error, and if the clauses behind it keep to the class. -/
theorem failsOnly_ask {inner : Clause → Value → Counted Bool} {c : Clause}
    (pattern : ∀ id, c.reference? = some id → e.registry.resolve? id = none →
      kind (.unknownPattern id.display))
    (constraint : ∀ id, c = .satisfies id → e.constraints.contains id = false →
      kind (.unknownConstraint id))
    (fault : ∀ id message, kind (.constraintFault id message))
    (behind : ∀ d, e.registry.Behind c d → ∀ w, FailsOnly kind (inner d w).result) :
    FailsOnly kind (e.ask inner c v).result := by
  cases c with
  | typeIs type =>
      cases type with
      | primitive t => exact failsOnly_ok _
      | pattern id =>
          rw [ask]
          split
          · next unknown => exact failsOnly_error (pattern id rfl unknown)
          · next s known =>
              refine Counted.failsOnly_allTrue fun d hd => ?_
              exact behind d ⟨id, s, rfl, known, hd⟩ v
  | field name id =>
      cases v with
      | object fields =>
          rw [ask]
          split
          · next unknown => exact failsOnly_error (pattern id rfl unknown)
          · next s known =>
              split
              · next w found =>
                  refine Counted.failsOnly_allTrue fun d hd => ?_
                  exact behind d ⟨id, s, rfl, known, hd⟩ w
              · exact failsOnly_ok _
      | null | bool | number | string | array | undefined => exact failsOnly_ok _
  | satisfies id => exact failsOnly_satisfies (constraint id rfl) (fault id)
  | length | value | required | kindOf | changesWith => exact failsOnly_ok _

/-- Evaluation keeps to a class of errors that has the faults of constraints, and what is unknown to
the clauses that are met. -/
theorem failsOnly_holds_of (Met : Clause → Prop)
    (closed : ∀ c d, Met c → e.registry.Behind c d → Met d)
    (pattern : ∀ c id, Met c → c.reference? = some id → e.registry.resolve? id = none →
      kind (.unknownPattern id.display))
    (constraint : ∀ id, Met (.satisfies id) → e.constraints.contains id = false →
      kind (.unknownConstraint id))
    (fault : ∀ id message, kind (.constraintFault id message)) {c : Clause} (met : Met c)
    (depth : Nat) : FailsOnly kind (e.holds c v depth).result := by
  -- references lead to clauses that reach less far
  induction hrank : c.rank using Nat.strongRecOn generalizing c v depth with
  | _ rank ih =>
      subst hrank
      rw [holds_eq_ask]
      split
      · refine Counted.failsOnly_guarded (failsOnly_ask ?_ ?_ fault ?_)
        · intro id refers unknown
          exact pattern c id met refers unknown
        · rintro id rfl absent
          exact constraint id met absent
        · intro d behind w
          exact ih _ behind.rank_lt (closed c d met behind) _ rfl
      · exact failsOnly_ok true

theorem failsOnly_failures (h : ∀ c ∈ clauses, FailsOnly kind (e.holds c v 0).result) :
    FailsOnly kind (e.failures v clauses).result := by
  induction clauses with
  | nil => exact failsOnly_ok []
  | cons c rest ih =>
      obtain ⟨first, later⟩ := List.forall_mem_cons.1 h
      refine Counted.failsOnly_bind first fun b => ?_
      cases b with
      | true => exact ih later
      | false => exact Counted.failsOnly_bind (ih later) fun others => failsOnly_ok (c :: others)

theorem failsOnly_report (invalid : ∀ c n, kind (.invalidData c v n)) (failed : List Clause) :
    FailsOnly kind (report v failed) := by
  cases failed with
  | nil => exact failsOnly_ok ()
  | cons c rest => exact failsOnly_error (invalid c _)

theorem failsOnly_validate (h : ∀ c ∈ clauses, FailsOnly kind (e.holds c v 0).result)
    (invalid : ∀ c n, kind (.invalidData c v n)) :
    FailsOnly kind (e.validate clauses v).result := by
  have found : FailsOnly kind (e.found v clauses).result := by
    unfold found
    split
    · exact Counted.failsOnly_map (Counted.failsOnly_firstFalse? h)
    · exact failsOnly_failures h
  rw [validate_eq]
  exact Counted.failsOnly_bind found (failsOnly_report invalid)

end Evaluator

/-- The errors of evaluation: something referred to is unknown, or a constraint is at fault. -/
inductive Error.OfEvaluation : Error → Prop
  | pattern (name : String) : OfEvaluation (.unknownPattern name)
  | constraint (id : String) : OfEvaluation (.unknownConstraint id)
  | fault (id message : String) : OfEvaluation (.constraintFault id message)

/-- The errors of validation: those of evaluation, or the value is invalid. -/
inductive Error.OfValidation : Error → Prop
  | evaluation {e : Error} (h : OfEvaluation e) : OfValidation e
  | invalid (clause : Clause) (v : Value) (failures : Nat) :
      OfValidation (.invalidData clause v failures)

theorem Error.not_ofEvaluation_invalidData {c : Clause} {v : Value} {n : Nat} :
    ¬OfEvaluation (.invalidData c v n) := by
  intro h
  cases h

theorem Evaluator.failsOnly_holds (e : Evaluator) (clause : Clause) (v : Value) (depth : Nat) :
    FailsOnly Error.OfEvaluation (e.holds clause v depth).result := by
  refine failsOnly_holds_of (fun _ => True) ?_ ?_ ?_ ?_ trivial depth
  · exact fun _ _ _ _ => trivial
  · exact fun _ id _ _ _ => .pattern id.display
  · exact fun id _ _ => .constraint id
  · exact fun id message => .fault id message

/-- Validation fails because something referred to is unknown, a constraint is at fault, or the value
is invalid. -/
theorem Catalog.failsOnly_validate (c : Catalog) (id : PatternId) (v : Value) :
    FailsOnly Error.OfValidation (c.validate id v) := by
  refine FailsOnly.bind ?_ fun s _ => ?_
  · unfold Registry.resolve
    split
    · exact failsOnly_ok _
    · exact failsOnly_error (.evaluation (.pattern _))
  · refine Evaluator.failsOnly_validate (fun clause _ => ?_) fun clause n => .invalid clause v n
    exact (c.evaluator.failsOnly_holds clause v 0).imp fun _ h => .evaluation h

end ProvenShapes
