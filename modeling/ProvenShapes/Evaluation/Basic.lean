/-
**Evaluating clauses on values.**

A clause holds of a value or not; the absent value is a value too.  Kinds are granted and never
evaluated, and co-mutation concerns commits, so both kinds of clause hold of every value without
being counted.  References are followed down to the nesting limit, and behind the limit nothing
holds.

Main definitions:

* `Evaluator` — what clauses are evaluated against: patterns, constraints, options;
* `Evaluator.holds` — **a clause holds of a value**;
* `Evaluator.firstFailure` — the first clause of a list that does not hold;
* `Evaluator.tally` — the loop of a validation;
* `Evaluator.validate` — an error that names the first clause which does not hold.
-/

import ProvenShapes.Constraint
import ProvenShapes.Evaluation.Counted
import ProvenShapes.Options
import ProvenShapes.Registry.Basic

set_option autoImplicit false

namespace ProvenShapes

/-- What clauses are evaluated against. -/
structure Evaluator where
  registry : Registry
  constraints : Constraints
  options : Options

namespace Evaluator

/-- A named constraint holds of a value: outside its domain it does not, and its own faults are
errors. -/
def satisfies (e : Evaluator) (id : String) (v : Value) : Except Error Bool :=
  match e.constraints.find? id with
  | none => .error (.unknownConstraint id)
  | some c =>
      match c.evaluate v with
      | .error (.outsideDomain ..) => .ok false
      | outcome => outcome

/-- The length of a value compares to a bound. -/
def lengthCompares (op : Comparison) (bound : UInt64) (v : Value) : Bool :=
  match v.length? with
  | some n => op.apply n bound.toNat
  | none => false

/-- A value is a number that compares to a bound; not-a-number compares to nothing. -/
def valueCompares (op : Comparison) (bound : Number) (v : Value) : Bool :=
  match v with
  | .number n => !n.isNaN && !bound.isNaN && op.apply n bound
  | _ => false

/-- A value has a primitive type. -/
def hasType (t : Primitive) (v : Value) : Bool :=
  match v.primitive? with
  | some actual => actual.subtypeOf t
  | none => false

/-- A clause holds of a value; `depth` references were followed to get there. -/
def holds (e : Evaluator) (c : Clause) (v : Value) (depth : Nat) : Counted Bool :=
  match c with
  | .kindOf _ | .changesWith _ => pure true
  | c =>
      if e.options.maxNesting < depth then pure false
      else do
        Counted.tick
        match c with
        | .typeIs (.primitive t) => pure (hasType t v)
        | .typeIs (.pattern id) =>
            match _ : e.registry.resolve? id with
            | none => .fail (.unknownPattern id.display)
            | some s => Counted.allTrue (fun ⟨d, _⟩ => e.holds d v (depth + 1)) s.toList.attach
        | .length op bound => pure (lengthCompares op bound v)
        | .value op bound => pure (valueCompares op bound v)
        | .required always => pure (!always || !v.isUndefined)
        | .satisfies id => .lift (e.satisfies id v)
        | .field name id =>
            match v with
            | .object fields =>
                match _ : e.registry.resolve? id with
                | none => .fail (.unknownPattern id.display)
                | some s =>
                    match Keyed.find? name fields with
                    | some w =>
                        Counted.allTrue (fun ⟨d, _⟩ => e.holds d w (depth + 1)) s.toList.attach
                    | none => pure (!s.contains (.required true))
            | _ => pure false
        | .kindOf _ | .changesWith _ => pure true
termination_by c.rank
decreasing_by
  all_goals exact Registry.rank_lt rfl (by assumption) (by assumption)

/-- The first clause of a list that does not hold of a value. -/
def firstFailure (e : Evaluator) (clauses : List Clause) (v : Value) : Counted (Option Clause) :=
  Counted.firstFalse? (fun c => e.holds c v 0) clauses

/-- What a validation met so far. -/
structure Tally where
  /-- The first clause that does not hold. -/
  first : Option Clause
  /-- The number of clauses that do not hold. -/
  failures : Nat

/-- Goes on with the clauses of a list, up to the first that does not hold if validation stops
there. -/
def tally (e : Evaluator) (v : Value) (met : Tally) : List Clause → Counted Tally
  | [] => pure met
  | c :: rest => do
      if ← e.holds c v 0 then e.tally v met rest
      else
        let met := ⟨met.first.or (some c), met.failures + 1⟩
        if e.options.shortCircuit then pure met else e.tally v met rest

/-- An error if some clause of a list does not hold of a value.  It names the first of them, and
unless validation stops there it counts them all. -/
def validate (e : Evaluator) (clauses : List Clause) (v : Value) : Counted Unit := do
  let met ← e.tally v ⟨none, 0⟩ clauses
  match met.first with
  | none => pure ()
  | some c => .fail (.invalidData c v met.failures)

end Evaluator

end ProvenShapes
