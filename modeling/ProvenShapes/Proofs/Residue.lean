/-
**The residue.**

A plan evaluates only the clauses that what is known does not imply.  Where what is known holds of the
value, the clauses left out hold as well, without an error; and since the order of the others is kept,
the verdict is that of evaluating everything: success, the same failing clause with the same count
of failures, or the same error of a constraint.

Main definitions:

* `Conversion.NaNFree` — no bound asked for is not-a-number.

Main results:

* `Checker.validate_residual` — the residue of a plan has the verdict of all that is required;
* `Checker.requireTag_verdict` — a proven tag is one that the value carries;
* `Checker.residual_checks_agree_with_full_checks` — **checking the residue agrees with checking
  everything**.
-/

import ProvenShapes.Proofs.Operations
import ProvenShapes.Proofs.Subsumption

set_option autoImplicit false

namespace ProvenShapes

/-- No clause written in place has a bound that is not-a-number. -/
def Conversion.NaNFree : Conversion → Prop
  | .constrainedBy _ => True
  | .constrainedWith clauses => ∀ c ∈ clauses, c.NaNFree

/-- Only clauses that are written in place are new in their set. -/
theorem Registry.mem_of_inline {r : Registry} {scope : Scope} {clauses : List Clause} {s : ClauseSet}
    (h : r.inline scope clauses = .ok s) : ∀ c ∈ s.toList, c ∈ clauses := by
  simp only [inline, bind_eq_ok_iff] at h
  obtain ⟨_, -, t, canonical, _, -, done⟩ := h
  obtain rfl := Except.ok.inj done
  obtain rfl := Except.ok.inj canonical
  intro c mem
  exact (ClauseSet.mem_extend mem).resolve_right (by simp [ClauseSet.empty])

namespace Checker

variable {k : Checker} {name target : String} {source : Source} {conversion : Conversion}
  {b : Binding} {p : Plan} {v : Value}

theorem nanFree_required {all : ClauseSet} (regular : k.catalog.registry.Regular)
    (nanFree : conversion.NaNFree) (h : k.required name conversion = .ok all) :
    ∀ c ∈ all.toList, c.NaNFree := by
  obtain ⟨b, declared, asked, -, resolved, converts, rfl⟩ := required_eq_ok_iff.1 h
  intro c mem
  rcases ClauseSet.mem_union mem with mem | mem
  · exact regular.nanFree (Registry.resolve?_of_resolve resolved) c mem
  · cases conversion with
    | constrainedBy pattern => exact regular.nanFree (Registry.resolve?_of_resolve converts) c mem
    | constrainedWith clauses => exact nanFree c (Registry.mem_of_inline converts c mem)

/-- The residue of a plan has the verdict of all that is required, if what is known holds. -/
theorem validate_residual {mode : Plan.Mode} {known all : ClauseSet}
    (regular : k.catalog.registry.Regular) (nanFree : ∀ c ∈ all.toList, c.NaNFree)
    (bounded : v.Bounded) (holds : ∀ c ∈ known.toList, k.catalog.evaluator.Holds c v 0)
    (planned : k.plan name mode known all = .ok p) :
    (k.catalog.evaluator.validate p.residual v).result =
      (k.catalog.evaluator.validate all.toList v).result := by
  obtain ⟨-, -, rfl⟩ := plan_eq_ok_iff.1 planned
  simp only [Registry.missing, List.filter_filter]
  refine Evaluator.result_validate_filter fun c mem dropped => ?_
  rw [Bool.and_eq_false_iff, Bool.and_eq_false_iff, Bool.not_eq_false', Bool.not_eq_false']
    at dropped
  -- a clause is left out because it is a kind, or because values need not have it, or because it is
  -- implied; in each case it holds
  rcases dropped with kind | noPredicate | implied
  · cases c with
    | kindOf id => exact Evaluator.holds_kindOf id
    | _ => simp [Clause.isKind] at kind
  · exact Evaluator.holds_of_not_isValuePredicate (by simp [noPredicate])
  · obtain ⟨d, hd, implies⟩ := Registry.setImplies_iff.1 implied
    exact (holds d hd).of_entails regular (Registry.entails_of_implies implies) bounded
      (nanFree c mem)

/-- Executing a plan right after it was made has the verdict of all that is required. -/
theorem execute_plan_verdict {mode : Plan.Mode} {known all : ClauseSet}
    (regular : k.catalog.registry.Regular) (nanFree : ∀ c ∈ all.toList, c.NaNFree)
    (bounded : v.Bounded) (bound : k.binding name = .ok b)
    (holds : ∀ c ∈ known.toList, k.catalog.evaluator.Holds c v 0)
    (planned : k.plan name mode known all = .ok p) :
    (k.execute p v).2.map (fun _ => ()) = (k.catalog.evaluator.validate all.toList v).result := by
  have target : k.binding p.binding = .ok b := by
    obtain ⟨-, -, rfl⟩ := plan_eq_ok_iff.1 planned
    exact bound
  calc (k.execute p v).2.map (fun _ => ())
      = (k.catalog.evaluator.validate p.residual v).result := execute_verdict target
    _ = (k.catalog.evaluator.validate all.toList v).result :=
        validate_residual regular nanFree bounded holds planned

/-- A plan that is made and executed has the verdict of all that is required. -/
theorem carryOut_verdict {mode : Plan.Mode} {all known : ClauseSet}
    (regular : k.catalog.registry.Regular) (nanFree : conversion.NaNFree) (bounded : v.Bounded)
    (required : k.required name conversion = .ok all)
    (source_known : k.sourceProvenance source all = .ok known)
    (holds : ∀ c ∈ known.toList, k.catalog.evaluator.Holds c v 0)
    (planned : (k.planFor name mode source conversion).isOk = true) :
    (k.carryOut (k.planFor name mode source conversion) v).2.map (fun _ => ()) =
      (k.catalog.evaluator.validate all.toList v).result := by
  obtain ⟨p, plan⟩ := isOk_iff.1 planned
  obtain ⟨all', known', required', source_known', made⟩ := planFor_eq_ok_iff.1 plan
  obtain rfl := Except.ok.inj (required.symm.trans required')
  obtain rfl := Except.ok.inj (source_known.symm.trans source_known')
  obtain ⟨b, _, _, bound, -⟩ := required_eq_ok_iff.1 required
  have nanFree := nanFree_required regular nanFree required
  rw [plan]
  exact execute_plan_verdict regular nanFree bounded bound holds made

theorem require_of_subsumes {t : Tag} {s : ClauseSet} (regular : k.catalog.registry.Regular)
    (bounded : v.Bounded) (holds : ∀ c ∈ b.provenance.toList, k.catalog.evaluator.Holds c v 0)
    (resolved : k.catalog.registry.resolve t.pattern = .ok s)
    (subsumes : k.catalog.registry.subsumes b.provenance s = true) :
    (t.require k.catalog.evaluator v).result = .ok () := by
  have nanFree := regular.nanFree (Registry.resolve?_of_resolve resolved)
  have all := Evaluator.holds_of_subsumes regular nanFree bounded subsumes holds
  have none : (k.catalog.evaluator.firstFailure s.toList v).result = .ok none :=
    Counted.result_firstFalse?.2 all
  have resolved : k.catalog.evaluator.registry.resolve t.pattern = .ok s := resolved
  simp [Tag.require, Tag.failingClause, resolved, none, Except.bind]

/-- Requiring a tag of a binding has the verdict of requiring it of the value. -/
theorem requireTag_verdict {tag : String} (regular : k.catalog.registry.Regular)
    (bounded : v.Bounded) (bound : k.binding name = .ok b)
    (holds : ∀ c ∈ b.provenance.toList, k.catalog.evaluator.Holds c v 0) :
    (k.requireTag name tag v).2.map (fun _ => ()) = k.catalog.requireTag v tag := by
  unfold requireTag Catalog.requireTag
  cases k.catalog.tags.get tag with
  | error e => rfl
  | ok t =>
      show Except.map _ (Prod.snd _) = (t.require k.catalog.evaluator v).result
      dsimp only
      cases resolved : k.catalog.registry.resolve t.pattern with
      | error e =>
          have unproven : k.proves name t.pattern = .error e := by
            simp [proves, provenance_of_binding bound, resolved, bind, Except.bind]
          have resolved : k.catalog.evaluator.registry.resolve t.pattern = .error e := resolved
          rw [unproven]
          simp [Tag.require, Tag.failingClause, resolved, Counted.fail, Except.bind, Except.map]
      | ok s =>
          have proven :
              k.proves name t.pattern = .ok (k.catalog.registry.subsumes b.provenance s) := by
            simp [proves, provenance_of_binding bound, resolved, bind, Except.bind, pure,
              Except.pure]
          -- a tag that is proven is not evaluated, so that its clauses hold has to come from soundness
          cases subsumes : k.catalog.registry.subsumes b.provenance s with
          | true =>
              rw [proven, subsumes]
              exact (require_of_subsumes regular bounded holds resolved subsumes).symm
          | false =>
              rw [proven, subsumes]
              dsimp only
              cases (t.require k.catalog.evaluator v).result <;> rfl

/-- **Checking the residue agrees with checking everything.**  Where the clauses known hold of the
value, narrowing a binding and converting a source give the verdict of validating all that is
required, and requiring a tag of a binding gives the verdict of requiring it of the value; in each
case with the same error. -/
theorem residual_checks_agree_with_full_checks (k : Checker) (v : Value)
    (regular : k.catalog.registry.Regular) (bounded : v.Bounded) :
    (∀ name conversion b all, conversion.NaNFree → k.binding name = .ok b →
      (∀ c ∈ b.provenance.toList, k.catalog.evaluator.Holds c v 0) →
      k.required name conversion = .ok all → (k.planNarrowing name conversion).isOk = true →
      (k.narrow name conversion v).2.map (fun _ => ()) =
        (k.catalog.evaluator.validate all.toList v).result) ∧
    (∀ target source conversion all known, conversion.NaNFree →
      k.required target conversion = .ok all → k.sourceProvenance source all = .ok known →
      (∀ c ∈ known.toList, k.catalog.evaluator.Holds c v 0) →
      (k.planConversion target source conversion).isOk = true →
      (k.convert target source conversion v).2.map (fun _ => ()) =
        (k.catalog.evaluator.validate all.toList v).result) ∧
    (∀ name tag b, k.binding name = .ok b →
      (∀ c ∈ b.provenance.toList, k.catalog.evaluator.Holds c v 0) →
      (k.requireTag name tag v).2.map (fun _ => ()) = k.catalog.requireTag v tag) := by
  refine ⟨?_, ?_, ?_⟩
  · intro name conversion b all nanFree bound holds required planned
    rw [planNarrowing_eq] at planned
    rw [narrow_eq]
    exact carryOut_verdict regular nanFree bounded required (provenance_of_binding bound) holds planned
  · intro target source conversion all known nanFree required source_known holds planned
    rw [planConversion_eq] at planned
    rw [convert_eq]
    exact carryOut_verdict regular nanFree bounded required source_known holds planned
  · intro name tag b bound holds
    exact requireTag_verdict regular bounded bound holds

/-- A binding that is known to be a card. -/
def visitor : Checker :=
  let card : ClauseSet := .ofList [.typeIs (.primitive .object), .field "name" ⟨1⟩]
  { start Catalog.contacts with scopes := ⟨[], [("user", ⟨⟨3⟩, card⟩)]⟩ }

/-- An object with a name that is short enough for a card and too long for a login. -/
def grace : Value := .object [("name", .string "Grace Hopper")]

theorem grace_bounded : grace.Bounded := by
  rw [grace, Value.bounded_object_iff]
  refine ⟨by decide, fun entry mem => ?_⟩
  obtain rfl := List.mem_singleton.1 mem
  exact Value.bounded_string_iff.2 (by decide)

/-- A card whose name is too long for a login is refused as one by the only clause that is left to be
checked, as it is when all clauses are. -/
theorem residual_checks_agree_with_full_checks_visitor :
    let login := Conversion.constrainedBy ⟨2⟩
    let all := ClauseSet.union (.ofList [.typeIs (.primitive .object), .field "name" ⟨1⟩])
      (.ofList [.typeIs (.primitive .object), .field "name" ⟨0⟩])
    (∀ b, visitor.binding "user" = .ok b →
        ∀ c ∈ b.provenance.toList, visitor.catalog.evaluator.Holds c grace 0) ∧
      (visitor.planNarrowing "user" login).isOk = true ∧
      (visitor.narrow "user" login grace).2.map (fun _ => ()) =
        (visitor.catalog.evaluator.validate all.toList grace).result ∧
      ¬ ∀ c ∈ all.toList, visitor.catalog.evaluator.Holds c grace 0 := by
  intro login all
  have holds : ∀ b, visitor.binding "user" = .ok b →
      ∀ c ∈ b.provenance.toList, visitor.catalog.evaluator.Holds c grace 0 := by
    rintro b bound
    obtain rfl := Except.ok.inj bound
    decide +kernel
  have planned : (visitor.planNarrowing "user" login).isOk = true := by decide +kernel
  refine ⟨holds, planned, ?_, by decide +kernel⟩
  exact (residual_checks_agree_with_full_checks visitor grace Catalog.contacts_regular
    grace_bounded).1 "user" login _ all trivial rfl (holds _ rfl) rfl planned

end Checker

end ProvenShapes
