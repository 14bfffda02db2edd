/-
**What the operations of a checker do.**

One lemma for each operation says when it succeeds and what it does to the scopes, so that nothing
that follows needs to open the operation again.  Planning is put in terms of the clauses that a
conversion requires of a binding; a narrowing is planned as a conversion is, with the binding itself
for its source.  All operations are gathered in one type, of which a run is a list.

Main definitions:

* `Checker.required` — the clauses that a conversion to a binding has to establish;
* `Checker.planFor`, `Checker.carryOut` — planning in either mode, and executing what was planned;
* `Operation`, `Checker.perform` — the operations, and carrying one out;
* `Checker.performAll` — a sequence of operations, those that fail included;
* `Call` — operations, planning, and the execution of plans.

Main results:

* `Checker.declareWith_cases`, `Checker.assign_cases` — declaring and assigning fail without a trace,
  or write one binding;
* `Checker.assign_eq_ok_iff`, `Checker.planFor_eq_ok_iff`, `Checker.plan_eq_ok_iff` — when assigning
  and planning succeed, and with what;
* `Checker.planConversion_eq`, `Checker.planNarrowing_eq` — both ways of planning are one;
* `Checker.exists_literalProofs`, `Checker.execute_cases`, `Checker.carryOut_cases` — what is known of
  a literal, and what executing a plan does;
* `Checker.perform_cases` — **what carrying out an operation does**.
-/

import Mathlib.Data.List.Induction
import ProvenShapes.Checker.Plan
import ProvenShapes.Proofs.Entailment
import ProvenShapes.Proofs.Places

set_option autoImplicit false

namespace ProvenShapes

theorem bind_eq_ok_iff {ε α β : Type} {x : Except ε α} {f : α → Except ε β} {b : β} :
    (x >>= f) = .ok b ↔ ∃ a, x = .ok a ∧ f a = .ok b := by
  cases x <;> simp [bind, Except.bind]

theorem isOk_iff {ε α : Type} {x : Except ε α} : x.isOk = true ↔ ∃ a, x = .ok a := by
  cases x <;> simp [Except.isOk, Except.toBool]

theorem toOption_eq_some_iff {ε α : Type} {x : Except ε α} {a : α} :
    x.toOption = some a ↔ x = .ok a := by
  cases x <;> simp [Except.toOption]

namespace Registry

theorem missing_eq_nil_iff {r : Registry} {proven required : ClauseSet} :
    r.missing proven required = [] ↔ r.subsumes proven required = true := by
  simp [missing, subsumes, List.filter_eq_nil_iff, Decidable.imp_iff_not_or]

theorem checkSatisfiable_eq_ok_iff {r : Registry} {label : String} {s : ClauseSet} :
    r.checkSatisfiable label s = .ok () ↔ r.contradiction? s = none := by
  unfold checkSatisfiable
  split <;> simp_all

end Registry

namespace Checker

variable {k k' : Checker} {name target : String} {b : Binding} {source : Source}
  {conversion : Conversion} {p : Plan} {v : Value}

/-! ### Bindings -/

theorem binding_eq_ok_iff :
    k.binding name = .ok b ↔ ∃ q, k.scopes.place? name = some q ∧ k.scopes.at? q = some b := by
  rw [← Scopes.find?_eq_some_iff, binding]
  split <;> simp_all

theorem provenance_of_binding (h : k.binding name = .ok b) :
    k.provenance name = .ok b.provenance := by
  simp [provenance, h, bind, Except.bind, pure, Except.pure]

theorem provenance_eq_ok_iff {s : ClauseSet} :
    k.provenance name = .ok s ↔ ∃ b, k.binding name = .ok b ∧ b.provenance = s := by
  rw [provenance, bind_eq_ok_iff]
  simp [pure, Except.pure]

theorem binding_of_scopes (same : k'.scopes = k.scopes) : k'.binding name = k.binding name := by
  rw [binding, binding, same]

theorem proves_eq_ok_true_iff (bound : k.binding name = .ok b) (pattern : PatternId) :
    k.proves name pattern = .ok true ↔
      ∃ s, k.catalog.registry.resolve pattern = .ok s ∧
        k.catalog.registry.subsumes b.provenance s = true := by
  simp [proves, bind_eq_ok_iff, provenance_of_binding bound, pure, Except.pure]

/-- A declaration fails and leaves the checker alone, or makes one binding of a registered pattern. -/
theorem declareWith_cases (k : Checker) (name : String) (pattern : PatternId) (proven : ClauseSet) :
    (∃ e, k.declareWith name pattern proven = (k, .error e)) ∨
      (∃ s, k.catalog.registry.resolve pattern = .ok s) ∧
        k.declareWith name pattern proven =
          ({ k with scopes := k.scopes.declare name ⟨pattern, proven⟩ }, .ok ()) := by
  unfold declareWith
  split
  · exact .inl ⟨_, rfl⟩
  · split
    · exact .inl ⟨_, rfl⟩
    · cases resolved : k.catalog.registry.resolve pattern with
      | error e => exact .inl ⟨e, rfl⟩
      | ok s => exact .inr ⟨⟨s, rfl⟩, rfl⟩

/-- A clause is proven of a literal when it is required of values, carries no kind, and evaluates to
true. -/
theorem literalProves_eq_true_iff {c : Clause} :
    k.literalProves v c = .ok true ↔
      c.isValuePredicate = true ∧ k.catalog.registry.carriesKind c = false ∧
        (k.catalog.evaluator.holds c v 0).result = .ok true := by
  unfold literalProves
  split
  · next proper =>
      rw [Bool.and_eq_true, Bool.not_eq_true'] at proper
      simp [proper]
  · next improper =>
      rw [Bool.and_eq_true, Bool.not_eq_true'] at improper
      grind

theorem literalProves_of_mem_literalProofs {clauses proven : List Clause}
    (h : k.literalProofs v clauses = .ok proven) : ∀ c ∈ proven, k.literalProves v c = .ok true := by
  induction clauses generalizing proven with
  | nil =>
      obtain rfl := Except.ok.inj h
      simp
  | cons d rest ih =>
      rw [literalProofs, bind_eq_ok_iff] at h
      obtain ⟨proves, evaluated, h⟩ := h
      cases proves with
      | false => exact ih h
      | true =>
          obtain ⟨others, later, done⟩ := bind_eq_ok_iff.1 h
          obtain rfl := Except.ok.inj done
          exact List.forall_mem_cons.2 ⟨evaluated, ih later⟩

/-- Of clauses that were gone through without an error, each was found or denied. -/
theorem mem_or_denied_of_literalProofs {clauses proven : List Clause}
    (h : k.literalProofs v clauses = .ok proven) :
    ∀ c ∈ clauses, c ∈ proven ∨ k.literalProves v c = .ok false := by
  induction clauses generalizing proven with
  | nil => simp
  | cons d rest ih =>
      rw [literalProofs, bind_eq_ok_iff] at h
      obtain ⟨proves, evaluated, h⟩ := h
      intro c mem
      cases proves with
      | false =>
          rcases List.mem_cons.1 mem with rfl | mem
          · exact .inr evaluated
          · exact ih h c mem
      | true =>
          obtain ⟨others, later, done⟩ := bind_eq_ok_iff.1 h
          obtain rfl := Except.ok.inj done
          rcases List.mem_cons.1 mem with rfl | mem
          · exact .inl List.mem_cons_self
          · exact (ih later c mem).imp_left (List.mem_cons_of_mem d)

/-- Clauses none of which fails to be evaluated are gone through without an error. -/
theorem exists_literalProofs_of_evaluated {clauses : List Clause}
    (h : ∀ c ∈ clauses, ∃ verdict, k.literalProves v c = .ok verdict) :
    ∃ proven, k.literalProofs v clauses = .ok proven := by
  induction clauses with
  | nil => exact ⟨[], rfl⟩
  | cons c rest ih =>
      obtain ⟨⟨verdict, evaluated⟩, later⟩ := List.forall_mem_cons.1 h
      obtain ⟨proven, found⟩ := ih later
      cases verdict with
      | false => exact ⟨proven, by simp [literalProofs, evaluated, found, bind, Except.bind]⟩
      | true =>
          refine ⟨c :: proven, ?_⟩
          simp [literalProofs, evaluated, found, bind, Except.bind, pure, Except.pure]

/-- A literal is known by its type, and by clauses that are proven of it. -/
theorem exists_literalProofs {required known : ClauseSet}
    (h : k.sourceProvenance (.literal v) required = .ok known) :
    ∃ proven, known = .ofList ((v.primitive?.toList.map fun t => .typeIs (.primitive t)) ++ proven) ∧
      ∀ c ∈ proven, k.literalProves v c = .ok true := by
  simp only [sourceProvenance] at h
  split at h
  · obtain ⟨proven, evaluated, done⟩ := bind_eq_ok_iff.1 h
    exact ⟨proven, (Except.ok.inj done).symm, literalProves_of_mem_literalProofs evaluated⟩
  · exact ⟨[], (Except.ok.inj h).symm, by simp⟩

/-- An assignment fails and leaves the checker alone, or what is known of the source implies all that
is declared, and both are recorded. -/
theorem assign_cases (k : Checker) (target : String) (source : Source) :
    (∃ e, k.assign target source = (k, .error e)) ∨
      ∃ b required known, k.binding target = .ok b ∧
        k.catalog.registry.resolve b.declared = .ok required ∧
        k.sourceProvenance source required = .ok known ∧
        k.catalog.registry.subsumes known required = true ∧
        k.assign target source = (k.setProvenance target b (known.union required), .ok .static) := by
  unfold assign
  cases bound : k.binding target with
  | error e => exact .inl ⟨e, rfl⟩
  | ok b =>
      cases declared : k.catalog.registry.resolve b.declared with
      | error e => exact .inl ⟨e, by simp only [declared]⟩
      | ok required =>
          cases asked : k.sourceProvenance source required with
          | error e => exact .inl ⟨e, by simp only [declared, asked]⟩
          | ok known =>
              simp only [declared, asked, ← Registry.missing_eq_nil_iff]
              split
              · next empty => exact .inr ⟨b, required, known, rfl, declared, asked, empty, rfl⟩
              · exact .inl ⟨_, rfl⟩

/-- An assignment succeeds when what is known of the source implies all that is declared, and records
both. -/
theorem assign_eq_ok_iff {outcome : Outcome} :
    k.assign target source = (k', .ok outcome) ↔
      ∃ b required known, k.binding target = .ok b ∧
        k.catalog.registry.resolve b.declared = .ok required ∧
        k.sourceProvenance source required = .ok known ∧
        k.catalog.registry.subsumes known required = true ∧
        k' = k.setProvenance target b (known.union required) ∧ outcome = .static := by
  constructor
  · intro done
    obtain ⟨e, failed⟩ | ⟨b, required, known, bound, declared, asked, subsumes, assigned⟩ :=
      k.assign_cases target source
    · simp [failed] at done
    · obtain ⟨rfl, same⟩ := Prod.mk.inj (assigned.symm.trans done)
      exact ⟨b, required, known, bound, declared, asked, subsumes, rfl, (Except.ok.inj same).symm⟩
  · rintro ⟨b, required, known, bound, declared, asked, subsumes, rfl, rfl⟩
    have empty := Registry.missing_eq_nil_iff.2 subsumes
    simp only [assign, bound, declared, asked, empty]

/-! ### Planning -/

/-- The clauses that a conversion to a binding has to establish: those of its declared pattern, and
those that the conversion asks for. -/
def required (k : Checker) (name : String) (conversion : Conversion) : Except Error ClauseSet := do
  let b ← k.binding name
  let declared ← k.catalog.registry.resolve b.declared
  return declared.union (← k.conversionClauses conversion)

theorem required_eq_ok_iff {required : ClauseSet} :
    k.required name conversion = .ok required ↔
      ∃ b declared asked, k.binding name = .ok b ∧
        k.catalog.registry.resolve b.declared = .ok declared ∧
        k.conversionClauses conversion = .ok asked ∧ required = declared.union asked := by
  simp only [Checker.required, bind_eq_ok_iff]
  constructor
  · rintro ⟨b, bound, declared, known, asked, converts, h⟩
    exact ⟨b, declared, asked, bound, known, converts, (Except.ok.inj h).symm⟩
  · rintro ⟨b, declared, asked, bound, known, converts, rfl⟩
    exact ⟨b, bound, declared, known, asked, converts, rfl⟩

/-- Planning in either mode: what is required is compared with what is known of a source. -/
def planFor (k : Checker) (name : String) (mode : Plan.Mode) (source : Source)
    (conversion : Conversion) : Except Error Plan := do
  let required ← k.required name conversion
  let known ← k.sourceProvenance source required
  k.plan name mode known required

theorem planConversion_eq :
    k.planConversion target source conversion = k.planFor target .assign source conversion := by
  simp only [planConversion, planFor, required, bind_assoc, pure_bind]

/-- A narrowing has the binding itself for its source. -/
theorem planNarrowing_eq :
    k.planNarrowing name conversion = k.planFor name .narrow (.binding name) conversion := by
  simp only [planNarrowing, planFor, required, sourceProvenance, provenance, bind_assoc, pure_bind]
  cases k.binding name <;> rfl

theorem planFor_eq_ok_iff {mode : Plan.Mode} :
    k.planFor name mode source conversion = .ok p ↔
      ∃ required known, k.required name conversion = .ok required ∧
        k.sourceProvenance source required = .ok known ∧
        k.plan name mode known required = .ok p := by
  simp only [planFor, bind_eq_ok_iff]
  grind

theorem planConversion_eq_ok_iff :
    k.planConversion target source conversion = .ok p ↔
      ∃ required known, k.required target conversion = .ok required ∧
        k.sourceProvenance source required = .ok known ∧
        k.plan target .assign known required = .ok p := by
  rw [planConversion_eq, planFor_eq_ok_iff]

theorem planNarrowing_eq_ok_iff :
    k.planNarrowing name conversion = .ok p ↔
      ∃ b required, k.binding name = .ok b ∧ k.required name conversion = .ok required ∧
        k.plan name .narrow b.provenance required = .ok p := by
  simp only [planNarrowing_eq, planFor_eq_ok_iff, sourceProvenance, provenance_eq_ok_iff]
  grind

/-- A plan exists when the required clauses have no contradiction and no kind that differs from one
that is held.  It leaves those to be checked that are not implied, kinds apart. -/
theorem plan_eq_ok_iff {mode : Plan.Mode} {known required : ClauseSet} :
    k.plan name mode known required = .ok p ↔
      k.catalog.registry.contradiction? required = none ∧
        checkKinds name (k.catalog.registry.effectiveKinds known)
          (k.catalog.registry.effectiveKinds required) = .ok () ∧
        p = ⟨name, mode,
          (k.catalog.registry.missing known required).filter fun c => !c.isKind,
          known.union required⟩ := by
  simp only [plan, bind_eq_ok_iff]
  constructor
  · rintro ⟨_, satisfiable, _, kinds, h⟩
    exact ⟨Registry.checkSatisfiable_eq_ok_iff.1 satisfiable, kinds, (Except.ok.inj h).symm⟩
  · rintro ⟨satisfiable, kinds, rfl⟩
    exact ⟨(), Registry.checkSatisfiable_eq_ok_iff.2 satisfiable, (), kinds, rfl⟩

/-! ### Executing -/

theorem at?_setProvenance {q q' : Place} {s : ClauseSet} (h : k.scopes.place? name = some q) :
    (k.setProvenance name b s).scopes.at? q' =
      if q' = q then some { b with provenance := s } else k.scopes.at? q' :=
  Scopes.at?_update h

/-- The binding that was written is the one that the name means afterwards. -/
theorem binding_setProvenance {s : ClauseSet} (h : k.binding name = .ok b) :
    (k.setProvenance name b s).binding name = .ok { b with provenance := s } := by
  obtain ⟨q, place, -⟩ := binding_eq_ok_iff.1 h
  refine binding_eq_ok_iff.2 ⟨q, ?_, ?_⟩
  · rw [setProvenance, Scopes.place?_update place, place]
  · rw [at?_setProvenance place, if_pos rfl]

/-- Executing a plan either fails, with the scopes as they were, or the residue is valid and the
binding has what the plan proves. -/
theorem execute_cases (k : Checker) (p : Plan) (v : Value) :
    (∃ e, (k.execute p v).2 = .error e ∧ (k.execute p v).1.scopes = k.scopes) ∨
      ∃ b outcome, (k.execute p v).2 = .ok outcome ∧ k.binding p.binding = .ok b ∧
        (k.catalog.evaluator.validate p.residual v).result = .ok () ∧
        (k.execute p v).1.scopes = (k.setProvenance p.binding b (provenAfter p b)).scopes := by
  unfold execute
  cases bound : k.binding p.binding with
  | error e => exact .inl ⟨e, rfl, rfl⟩
  | ok b =>
      cases valid : (k.catalog.evaluator.validate p.residual v).result with
      | error e => exact .inl ⟨e, by simp [valid], by simp [valid]⟩
      | ok u => exact .inr ⟨b, _, by simp only [valid]; rfl, rfl, rfl, by simp only [valid]; rfl⟩

/-- Executes a plan, if it was made. -/
def carryOut (k : Checker) (made : Except Error Plan) (v : Value) : Step Outcome :=
  match made with
  | .ok p => k.execute p v
  | .error e => (k, .error e)

theorem convert_eq :
    k.convert target source conversion v =
      k.carryOut (k.planFor target .assign source conversion) v := by
  rw [← planConversion_eq]
  rfl

theorem narrow_eq :
    k.narrow name conversion v =
      k.carryOut (k.planFor name .narrow (.binding name) conversion) v := by
  rw [← planNarrowing_eq]
  rfl

/-- The same for a plan that is executed once it is made. -/
theorem carryOut_cases (k : Checker) (made : Except Error Plan) (v : Value) :
    (∃ e, (k.carryOut made v).2 = .error e ∧ (k.carryOut made v).1.scopes = k.scopes) ∨
      ∃ p b outcome, (k.carryOut made v).2 = .ok outcome ∧ made = .ok p ∧
        k.binding p.binding = .ok b ∧
        (k.catalog.evaluator.validate p.residual v).result = .ok () ∧
        (k.carryOut made v).1.scopes =
          (k.setProvenance p.binding b (provenAfter p b)).scopes := by
  cases made with
  | error e => exact .inl ⟨e, rfl, rfl⟩
  | ok p =>
      obtain failed | ⟨b, outcome, done, bound, valid, scopes⟩ := k.execute_cases p v
      · exact .inl failed
      · exact .inr ⟨p, b, outcome, done, rfl, bound, valid, scopes⟩

/-- The verdict of executing a plan for a binding that exists is the verdict on its residue. -/
theorem execute_verdict (h : k.binding p.binding = .ok b) :
    (k.execute p v).2.map (fun _ => ()) = (k.catalog.evaluator.validate p.residual v).result := by
  unfold execute
  rw [h]
  cases valid : (k.catalog.evaluator.validate p.residual v).result <;> simp [valid, Except.map]

theorem catalog_execute : (k.execute p v).1.catalog = k.catalog := by
  unfold execute
  split
  · rfl
  · dsimp only
    split <;> rfl

theorem catalog_carryOut {made : Except Error Plan} :
    (k.carryOut made v).1.catalog = k.catalog := by
  cases made with
  | error e => rfl
  | ok p => exact catalog_execute

theorem requireTag_frame {tag : String} :
    (k.requireTag name tag v).1.catalog = k.catalog ∧
      (k.requireTag name tag v).1.scopes = k.scopes := by
  unfold requireTag
  split
  · exact ⟨rfl, rfl⟩
  · split <;> exact ⟨rfl, rfl⟩

end Checker

/-! ### All operations -/

/-- An operation of a checker; with a value where one is checked. -/
inductive Operation where
  | declare (name : String) (pattern : PatternId)
  | declareExternal (name : String) (pattern : PatternId) (t : Primitive)
  | assign (target : String) (source : Source)
  | convert (target : String) (source : Source) (conversion : Conversion) (v : Value)
  | narrow (name : String) (conversion : Conversion) (v : Value)
  | requireTag (name tag : String) (v : Value)
  | pushScope
  | popScope

namespace Checker

/-- Carries out an operation. -/
def perform (k : Checker) : Operation → Step Unit
  | .declare name pattern => k.declare name pattern
  | .declareExternal name pattern t => k.declareExternal name pattern t
  | .assign target source => (k.assign target source).map id (Except.map fun _ => ())
  | .convert target source conversion v =>
      (k.convert target source conversion v).map id (Except.map fun _ => ())
  | .narrow name conversion v => (k.narrow name conversion v).map id (Except.map fun _ => ())
  | .requireTag name tag v => (k.requireTag name tag v).map id (Except.map fun _ => ())
  | .pushScope => (k.pushScope, .ok ())
  | .popScope => (k.popScope, .ok ())

/-- The scopes after an operation that succeeds. -/
inductive Changes (k : Checker) : Operation → Scopes → Prop
  | declare {name : String} {pattern : PatternId} :
      Changes k (.declare name pattern) (k.scopes.declare name ⟨pattern, .empty⟩)
  | declareExternal {name : String} {pattern : PatternId} {t : Primitive} :
      Changes k (.declareExternal name pattern t) (k.scopes.declare name ⟨pattern, typeOnly t⟩)
  | assign {target : String} {source : Source} {b : Binding} {required known : ClauseSet}
      (bound : k.binding target = .ok b)
      (declared : k.catalog.registry.resolve b.declared = .ok required)
      (source_known : k.sourceProvenance source required = .ok known)
      (subsumes : k.catalog.registry.subsumes known required = true) :
      Changes k (.assign target source) (k.setProvenance target b (known.union required)).scopes
  | convert {target : String} {source : Source} {conversion : Conversion} {v : Value} {p : Plan}
      {b : Binding} (planned : k.planConversion target source conversion = .ok p)
      (bound : k.binding target = .ok b)
      (valid : (k.catalog.evaluator.validate p.residual v).result = .ok ()) :
      Changes k (.convert target source conversion v) (k.setProvenance target b p.proven).scopes
  | narrow {name : String} {conversion : Conversion} {v : Value} {p : Plan} {b : Binding}
      (planned : k.planNarrowing name conversion = .ok p) (bound : k.binding name = .ok b)
      (valid : (k.catalog.evaluator.validate p.residual v).result = .ok ()) :
      Changes k (.narrow name conversion v)
        (k.setProvenance name b (b.provenance.union p.proven)).scopes
  | requireTag {name tag : String} {v : Value} : Changes k (.requireTag name tag v) k.scopes
  | pushScope : Changes k .pushScope k.scopes.enter
  | popScope : Changes k .popScope k.scopes.leave

variable {k : Checker} {op : Operation}

theorem catalog_declareWith {name : String} {pattern : PatternId} {proven : ClauseSet} :
    (k.declareWith name pattern proven).1.catalog = k.catalog := by
  obtain ⟨e, failed⟩ | ⟨-, done⟩ := k.declareWith_cases name pattern proven
  · rw [failed]
  · rw [done]

theorem catalog_assign {target : String} {source : Source} :
    (k.assign target source).1.catalog = k.catalog := by
  obtain ⟨e, failed⟩ | ⟨b, required, known, -, -, -, -, done⟩ := k.assign_cases target source
  · rw [failed]
  · rw [done]
    rfl

theorem catalog_perform : (k.perform op).1.catalog = k.catalog := by
  cases op with
  | declare name pattern => exact catalog_declareWith
  | declareExternal name pattern t => exact catalog_declareWith
  | assign target source => exact catalog_assign
  | convert target source conversion v => exact catalog_carryOut
  | narrow name conversion v => exact catalog_carryOut
  | requireTag name tag v => exact requireTag_frame.1
  | pushScope => rfl
  | popScope => rfl

/-- **An operation either fails, with the scopes as they were, or changes them as it should.** -/
theorem perform_cases (k : Checker) (op : Operation) :
    (∃ e, (k.perform op).2 = .error e ∧ (k.perform op).1.scopes = k.scopes) ∨
      (k.perform op).2 = .ok () ∧ k.Changes op (k.perform op).1.scopes := by
  cases op with
  | declare name pattern =>
      obtain ⟨e, failed⟩ | ⟨-, done⟩ := k.declareWith_cases name pattern .empty
      · exact .inl ⟨e, by rw [perform, declare, failed], by rw [perform, declare, failed]⟩
      · rw [perform, declare, done]
        exact .inr ⟨rfl, .declare⟩
  | declareExternal name pattern t =>
      obtain ⟨e, failed⟩ | ⟨-, done⟩ := k.declareWith_cases name pattern (typeOnly t)
      · exact .inl ⟨e, by rw [perform, declareExternal, failed],
          by rw [perform, declareExternal, failed]⟩
      · rw [perform, declareExternal, done]
        exact .inr ⟨rfl, .declareExternal⟩
  | assign target source =>
      obtain ⟨e, failed⟩ | ⟨b, required, known, bound, declared, asked, subsumes, done⟩ :=
        k.assign_cases target source
      · exact .inl ⟨e, by rw [perform, failed]; rfl, by rw [perform, failed]; rfl⟩
      · rw [perform, done]
        exact .inr ⟨rfl, .assign bound declared asked subsumes⟩
  | convert target source conversion v =>
      obtain ⟨e, failed, same⟩ | ⟨p, b, outcome, done, planned, bound, valid, scopes⟩ :=
        k.carryOut_cases (k.planConversion target source conversion) v
      · exact .inl ⟨e, congrArg (Except.map fun _ => ()) failed, same⟩
      · refine .inr ⟨congrArg (Except.map fun _ => ()) done, ?_⟩
        -- the plan names its binding and its mode, so what is written after it can be read off
        obtain ⟨_, _, -, -, made⟩ := planConversion_eq_ok_iff.1 planned
        obtain ⟨-, -, rfl⟩ := plan_eq_ok_iff.1 made
        show k.Changes _ (k.carryOut _ v).1.scopes
        rw [scopes]
        exact .convert planned bound valid
  | narrow name conversion v =>
      obtain ⟨e, failed, same⟩ | ⟨p, b, outcome, done, planned, bound, valid, scopes⟩ :=
        k.carryOut_cases (k.planNarrowing name conversion) v
      · exact .inl ⟨e, congrArg (Except.map fun _ => ()) failed, same⟩
      · refine .inr ⟨congrArg (Except.map fun _ => ()) done, ?_⟩
        obtain ⟨_, _, -, -, made⟩ := planNarrowing_eq_ok_iff.1 planned
        obtain ⟨-, -, rfl⟩ := plan_eq_ok_iff.1 made
        show k.Changes _ (k.carryOut _ v).1.scopes
        rw [scopes]
        exact .narrow planned bound valid
  | requireTag name tag v =>
      have same : (k.perform (.requireTag name tag v)).1.scopes = k.scopes := requireTag_frame.2
      cases result : (k.perform (.requireTag name tag v)).2 with
      | error e => exact .inl ⟨e, rfl, same⟩
      | ok u => exact .inr ⟨rfl, same ▸ .requireTag⟩
  | pushScope => exact .inr ⟨rfl, .pushScope⟩
  | popScope => exact .inr ⟨rfl, .popScope⟩

/-! ### Sequences of operations -/

/-- The checker after some operations, those that fail included. -/
def performAll (k : Checker) (ops : List Operation) : Checker :=
  ops.foldl (fun k op => (k.perform op).1) k

theorem performAll_concat (k : Checker) (ops : List Operation) (op : Operation) :
    k.performAll (ops ++ [op]) = ((k.performAll ops).perform op).1 := by
  simp [performAll]

theorem catalog_performAll (k : Checker) (ops : List Operation) :
    (k.performAll ops).catalog = k.catalog := by
  induction ops using List.reverseRecOn with
  | nil => rfl
  | append_singleton ops op ih => rw [performAll_concat, catalog_perform, ih]

end Checker

/-- A call of a checker: an operation, planning, or the execution of a plan, to which the call refers
in some way. -/
inductive Call (ref : Type) where
  | operate (op : Operation)
  | planConversion (target : String) (source : Source) (conversion : Conversion)
  | planNarrowing (name : String) (conversion : Conversion)
  | execute (p : ref) (v : Value)

end ProvenShapes
