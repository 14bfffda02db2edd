/-
**Conversions.**

A conversion establishes clauses of a binding by validation.  It is planned first: of the clauses that
must hold, those that what is known implies are not evaluated, and the rest is the residue that
validation checks.  Kinds are granted by the plan, unless something else is already known to have a
different kind.

Main definitions:

* `Conversion` — the clauses that a conversion asks for;
* `Plan` — the residue, and what is proven once it holds;
* `Checker.planConversion`, `Checker.planNarrowing` — plans for a value that is assigned, and for
  the value that a binding has;
* `Checker.execute` — **the residue validated and the clauses recorded**;
* `Checker.convert`, `Checker.narrow` — planned and executed at once;
* `Checker.requireTag` — a tag required of a binding.
-/

import ProvenShapes.Checker.Basic
import ProvenShapes.Registry.Contradiction

set_option autoImplicit false

namespace ProvenShapes

/-- What a conversion asks for: a pattern, or clauses written in place. -/
inductive Conversion where
  | constrainedBy (pattern : PatternId)
  | constrainedWith (clauses : List Clause)

/-- Whether the binding receives a new value or its own value is checked. -/
inductive Plan.Mode where
  | assign
  | narrow
deriving DecidableEq, Repr

/-- The residue that validation checks, and what is proven once it holds. -/
structure Plan where
  binding : String
  mode : Plan.Mode
  residual : List Clause
  proven : ClauseSet

/-- Nothing is left to validate. -/
def Plan.isStatic (p : Plan) : Bool := p.residual.isEmpty

/-- Whether a tag was proven or checked. -/
inductive TagCheck where
  | static
  | runtime
deriving DecidableEq, Repr

/-- The clause grants a kind. -/
def Clause.isKind : Clause → Bool
  | kindOf _ => true
  | _ => false

namespace Checker

/-! ### Planning -/

/-- The clauses that a conversion asks for. -/
def conversionClauses (k : Checker) : Conversion → Except Error ClauseSet
  | .constrainedBy pattern => k.catalog.registry.resolve pattern
  | .constrainedWith clauses => k.catalog.registry.inline k.catalog.scope clauses

/-- No path has a kind other than the required one. -/
def checkKinds (binding : String) (held : KindPaths) : KindPaths → Except Error Unit
  | [] => .ok ()
  | (path, want) :: rest =>
      match Keyed.find? path held with
      | some present =>
          if present == want then checkKinds binding held rest
          else .error (.unproven binding (want.map .kindOf))
      | none => checkKinds binding held rest

/-- The plan that establishes the required clauses when some are known. -/
def plan (k : Checker) (binding : String) (mode : Plan.Mode) (known required : ClauseSet) :
    Except Error Plan := do
  let r := k.catalog.registry
  r.checkSatisfiable binding required
  checkKinds binding (r.effectiveKinds known) (r.effectiveKinds required)
  return {
    binding := binding
    mode := mode
    residual := (r.missing known required).filter fun c => !c.isKind
    proven := known.union required }

/-- The plan for assigning a source to a binding with a conversion. -/
def planConversion (k : Checker) (target : String) (source : Source) (conversion : Conversion) :
    Except Error Plan := do
  let b ← k.binding target
  let declared ← k.catalog.registry.resolve b.declared
  let required := declared.union (← k.conversionClauses conversion)
  let known ← k.sourceProvenance source required
  k.plan target .assign known required

/-- The plan for establishing further clauses of the value that a binding has. -/
def planNarrowing (k : Checker) (name : String) (conversion : Conversion) : Except Error Plan := do
  let b ← k.binding name
  let declared ← k.catalog.registry.resolve b.declared
  let required := declared.union (← k.conversionClauses conversion)
  k.plan name .narrow b.provenance required

/-! ### Executing -/

/-- The clauses proven of a binding once a plan is carried out. -/
def provenAfter (p : Plan) (b : Binding) : ClauseSet :=
  match p.mode with
  | .assign => p.proven
  | .narrow => b.provenance.union p.proven

/-- Validates the residue of a plan and records what it proves. -/
def execute (k : Checker) (p : Plan) (v : Value) : Step Outcome :=
  match k.binding p.binding with
  | .error e => (k, .error e)
  | .ok b =>
      let checked := k.catalog.evaluator.validate p.residual v
      let counted := { k with evaluations := k.evaluations + checked.evaluations }
      match checked.result with
      | .error e => (counted, .error e)
      | .ok _ =>
          (counted.setProvenance p.binding b (provenAfter p b),
            .ok (if p.isStatic then .static else .validated checked.evaluations))

/-- Assigns a source, whose value is given, to a binding with a conversion. -/
def convert (k : Checker) (target : String) (source : Source) (conversion : Conversion)
    (v : Value) : Step Outcome :=
  match k.planConversion target source conversion with
  | .ok p => k.execute p v
  | .error e => (k, .error e)

/-- Establishes further clauses of the value that a binding has. -/
def narrow (k : Checker) (name : String) (conversion : Conversion) (v : Value) : Step Outcome :=
  match k.planNarrowing name conversion with
  | .ok p => k.execute p v
  | .error e => (k, .error e)

/-! ### Tags -/

/-- Requires a tag of a binding whose value is given: it is proven, or else checked.  Tags are not
recorded. -/
def requireTag (k : Checker) (name tag : String) (v : Value) : Step TagCheck :=
  match k.catalog.tags.get tag with
  | .error e => (k, .error e)
  | .ok t =>
      match k.proves name t.pattern with
      | .error e => (k, .error e)
      | .ok true => (k, .ok .static)
      | .ok false =>
          let checked := t.require k.catalog.evaluator v
          ({ k with evaluations := k.evaluations + checked.evaluations },
            checked.result.map fun _ => .runtime)

end Checker

end ProvenShapes
