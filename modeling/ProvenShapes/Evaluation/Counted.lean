/-
**Counted results.**

Evaluating clauses is counted: every clause that is looked at counts once, and the count stands
whether the evaluation ends with a result or with an error.

Main definitions:

* `Counted` — a result or an error, and how many evaluations led to it;
* `Counted.tick` — one evaluation;
* `Counted.allTrue` — a conjunction that stops at the first member that is false;
* `Counted.firstFalse?` — the member at which it stops.

Main results:

* `Counted.allTrue_eq` — the conjunction is true if there is no such member.
-/

import ProvenShapes.Error

set_option autoImplicit false

namespace ProvenShapes

/-- A result or an error, with the number of evaluations that led to it. -/
structure Counted (α : Type) where
  result : Except Error α
  evaluations : Nat

namespace Counted

variable {α β : Type}

/-- One step after another: the counts add up, and an error ends the steps. -/
def andThen (x : Counted α) (f : α → Counted β) : Counted β :=
  match x.result with
  | .ok a =>
      let y := f a
      ⟨y.result, x.evaluations + y.evaluations⟩
  | .error e => ⟨.error e, x.evaluations⟩

instance : Monad Counted where
  pure a := ⟨.ok a, 0⟩
  bind := andThen

instance : LawfulMonad Counted := by
  refine LawfulMonad.mk' Counted ?_ ?_ ?_
  · rintro α ⟨_ | _, n⟩ <;> rfl
  · intro α β a f
    exact congrArg (Counted.mk _) (Nat.zero_add _)
  · rintro α β γ ⟨e | a, n⟩ f g
    · rfl
    · show (⟨(f a).result, n + (f a).evaluations⟩ : Counted β).andThen g =
        ⟨((f a).andThen g).result, n + ((f a).andThen g).evaluations⟩
      rcases f a with ⟨_ | _, m⟩
      · rfl
      · exact congrArg (Counted.mk _) (Nat.add_assoc ..)

/-- An error without evaluations. -/
def fail (e : Error) : Counted α := ⟨.error e, 0⟩

/-- A result or an error without evaluations. -/
def lift (x : Except Error α) : Counted α := ⟨x, 0⟩

/-- One evaluation. -/
def tick : Counted Unit := ⟨.ok (), 1⟩

/-- All members of a list satisfy a condition; the first that does not is the last one looked at. -/
def allTrue (f : α → Counted Bool) : List α → Counted Bool
  | [] => pure true
  | a :: rest => do if ← f a then allTrue f rest else pure false

/-- The first member of a list that does not satisfy a condition. -/
def firstFalse? (f : α → Counted Bool) : List α → Counted (Option α)
  | [] => pure none
  | a :: rest => do if ← f a then firstFalse? f rest else pure (some a)

@[simp] theorem result_pure (a : α) : (pure a : Counted α).result = .ok a := rfl

@[simp] theorem result_bind (x : Counted α) (f : α → Counted β) :
    (x >>= f).result = x.result.bind fun a => (f a).result := by
  show (x.andThen f).result = _
  unfold andThen Except.bind
  split <;> simp_all

@[simp] theorem result_map (f : α → β) (x : Counted α) : (f <$> x).result = x.result.map f := by
  rw [map_eq_pure_bind, result_bind]
  cases x.result <;> rfl

/-- All members satisfy a condition if the search for one that does not ends without any. -/
theorem allTrue_eq {f : α → Counted Bool} {l : List α} :
    allTrue f l = Option.isNone <$> firstFalse? f l := by
  induction l with
  | nil => rfl
  | cons a rest ih =>
      simp only [allTrue, firstFalse?, map_bind]
      refine congrArg _ (funext fun b => ?_)
      cases b with
      | true => exact ih
      | false => rfl

end Counted

end ProvenShapes
