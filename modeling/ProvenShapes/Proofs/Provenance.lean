/-
**Provenance is sound.**

What a checker has recorded of a binding is meant to be true of the value that the binding has.  The
checker never sees most of these values; here they are put beside it, in a memory that holds one
value for each place.  A run pairs the operations of a checker with what they do to the memory: a
declaration brings in a value, an assignment copies that of its source, and a check is made with the
value that the memory holds.

Main definitions:

* `Memory` — a value for each place;
* `Source.Yields` — a value that a source may stand for;
* `Operation.Effect` — what an operation that succeeds does to the memory;
* `Run` — a run of operations from the start, those that fail included;
* `Scopes.Sound` — every clause recorded of a binding holds of its value.

Main results:

* `Checker.holds_sourceProvenance` — what is known of a source holds of its value;
* `Scopes.Sound.step` — an operation that succeeds keeps soundness;
* `Run.provenance_holds` — **after every run, every clause recorded of every binding holds of its
  value**.
-/

import ProvenShapes.Proofs.Residue

set_option autoImplicit false

namespace ProvenShapes

/-! ### Values beside a checker -/

/-- The value that each place has, none of them too long to be counted. -/
structure Memory where
  value : Place → Value
  bounded : ∀ p, (value p).Bounded

/-- The memory with another value at a place. -/
def Memory.write (m : Memory) (p : Place) (v : Value) (h : v.Bounded) : Memory where
  value q := if q = p then v else m.value q
  bounded q := by
    split
    · exact h
    · exact m.bounded q

/-- The value that a source stands for: that of a binding, the literal itself, or any value of the
type that is known. -/
inductive Source.Yields (s : Scopes) (m : Memory) : Source → Value → Prop
  | binding {name : String} {p : Place} (place : s.place? name = some p) :
      Yields s m (.binding name) (m.value p)
  | literal (v : Value) : Yields s m (.literal v) v
  | untyped {t : Primitive} {v : Value} (type : Evaluator.hasType t v = true) :
      Yields s m (.untyped t) v

/-- What an operation that succeeds does to the memory.  A conversion is given the value of its
source, and a check of a binding the value of that binding. -/
inductive Operation.Effect (s : Scopes) (m : Memory) : Operation → Memory → Prop
  | declare {name : String} {pattern : PatternId} {v : Value} (bounded : v.Bounded) :
      Effect s m (.declare name pattern) (m.write (s.here name) v bounded)
  | declareExternal {name : String} {pattern : PatternId} {t : Primitive} {v : Value}
      (bounded : v.Bounded) (type : Evaluator.hasType t v = true) :
      Effect s m (.declareExternal name pattern t) (m.write (s.here name) v bounded)
  | assign {target : String} {source : Source} {p : Place} {v : Value} (bounded : v.Bounded)
      (place : s.place? target = some p) (yields : source.Yields s m v) :
      Effect s m (.assign target source) (m.write p v bounded)
  | convert {target : String} {source : Source} {conversion : Conversion} {p : Place} {v : Value}
      (bounded : v.Bounded) (place : s.place? target = some p) (yields : source.Yields s m v) :
      Effect s m (.convert target source conversion v) (m.write p v bounded)
  | narrow {name : String} {conversion : Conversion} {p : Place} (place : s.place? name = some p) :
      Effect s m (.narrow name conversion (m.value p)) m
  | requireTag {name tag : String} {p : Place} (place : s.place? name = some p) :
      Effect s m (.requireTag name tag (m.value p)) m
  | pushScope : Effect s m .pushScope m
  | popScope : Effect s m .popScope m

/-- No bound that an operation writes in place is not-a-number. -/
def Operation.NaNFree : Operation → Prop
  | .convert _ _ conversion _ | .narrow _ conversion _ => conversion.NaNFree
  | _ => True

/-- The checkers and memories that a list of operations leads to, from a checker without bindings.
An operation that fails leaves the memory as it was. -/
inductive Run (c : Catalog) : List Operation → Checker → Memory → Prop
  | start (m : Memory) : Run c [] (.start c) m
  | succeed {ops : List Operation} {op : Operation} {k : Checker} {m m' : Memory}
      (run : Run c ops k m) (done : (k.perform op).2.isOk = true)
      (effect : op.Effect k.scopes m m') : Run c (ops ++ [op]) (k.perform op).1 m'
  | fail {ops : List Operation} {op : Operation} {k : Checker} {m : Memory}
      (run : Run c ops k m) (failed : (k.perform op).2.isOk = false) :
      Run c (ops ++ [op]) (k.perform op).1 m

/-! ### Soundness -/

/-- Every clause recorded of a binding holds of its value. -/
def Scopes.Sound (e : Evaluator) (m : Memory) (s : Scopes) : Prop :=
  ∀ p b, s.at? p = some b → ∀ c ∈ b.provenance.toList, e.Holds c (m.value p) 0

/-- Soundness is kept when one place gets a value and clauses that hold of it. -/
theorem Scopes.Sound.write {e : Evaluator} {m m' : Memory} {s s' : Scopes} {p : Place} {b : Binding}
    {v : Value} (sound : s.Sound e m) (bindings : ∀ q, s'.at? q = if q = p then some b else s.at? q)
    (values : ∀ q, m'.value q = if q = p then v else m.value q)
    (holds : ∀ c ∈ b.provenance.toList, e.Holds c v 0) : s'.Sound e m' := by
  intro q b' found
  rw [bindings] at found
  rw [values]
  by_cases here : q = p
  · rw [if_pos here] at found ⊢
    obtain rfl := Option.some.inj found
    exact holds
  · rw [if_neg here] at found ⊢
    exact sound q b' found

namespace Checker

variable {k : Checker} {m : Memory} {v : Value}

theorem holds_typeOnly {e : Evaluator} {t : Primitive} (type : Evaluator.hasType t v = true) :
    ∀ c ∈ (typeOnly t).toList, e.Holds c v 0 := by
  intro c mem
  obtain rfl := List.mem_singleton.1 mem
  exact Evaluator.holds_type_iff.2 ⟨Nat.zero_le _, type⟩

/-- What is known of a literal holds of it. -/
theorem holds_literal {required known : ClauseSet}
    (h : k.sourceProvenance (.literal v) required = .ok known) :
    ∀ c ∈ known.toList, k.catalog.evaluator.Holds c v 0 := by
  obtain ⟨proven, rfl, proves⟩ := exists_literalProofs h
  intro c mem
  rcases List.mem_append.1 (ClauseSet.mem_ofList mem) with mem | mem
  · obtain ⟨t, type, rfl⟩ := List.mem_map.1 mem
    have type : v.primitive? = some t := by simpa using type
    refine Evaluator.holds_type_iff.2 ⟨Nat.zero_le _, ?_⟩
    simp [Evaluator.hasType, type, Primitive.subtypeOf]
  · exact (literalProves_eq_true_iff.1 (proves c mem)).2.2

/-- What is known of a source holds of the value that the source stands for. -/
theorem holds_sourceProvenance {source : Source} {required known : ClauseSet}
    (sound : k.scopes.Sound k.catalog.evaluator m) (yields : source.Yields k.scopes m v)
    (h : k.sourceProvenance source required = .ok known) :
    ∀ c ∈ known.toList, k.catalog.evaluator.Holds c v 0 := by
  cases yields with
  | binding place =>
      obtain ⟨b, bound, rfl⟩ := provenance_eq_ok_iff.1 h
      obtain ⟨q, place', found⟩ := binding_eq_ok_iff.1 bound
      obtain rfl := Option.some.inj (place.symm.trans place')
      exact sound _ b found
  | untyped type =>
      obtain rfl := Except.ok.inj h
      exact holds_typeOnly type
  | literal => exact holds_literal h

/-- What a plan proves holds of every value that passes its residue and of which holds what is
known. -/
theorem holds_proven {name : String} {mode : Plan.Mode} {known all : ClauseSet} {p : Plan}
    (regular : k.catalog.registry.Regular) (nanFree : ∀ c ∈ all.toList, c.NaNFree)
    (bounded : v.Bounded) (holds : ∀ c ∈ known.toList, k.catalog.evaluator.Holds c v 0)
    (planned : k.plan name mode known all = .ok p)
    (valid : (k.catalog.evaluator.validate p.residual v).result = .ok ()) :
    ∀ c ∈ p.proven.toList, k.catalog.evaluator.Holds c v 0 := by
  -- only the residue was evaluated, which says of all required clauses that they hold
  rw [validate_residual regular nanFree bounded holds planned,
    Evaluator.validate_eq_ok_iff] at valid
  obtain ⟨-, -, rfl⟩ := plan_eq_ok_iff.1 planned
  intro c mem
  exact (ClauseSet.mem_union mem).elim (holds c) (valid c)

end Checker

/-- An operation that succeeds keeps soundness. -/
theorem Scopes.Sound.step {k : Checker} {m m' : Memory} {op : Operation} {s : Scopes}
    (regular : k.catalog.registry.Regular) (nanFree : op.NaNFree)
    (sound : k.scopes.Sound k.catalog.evaluator m) (change : k.Changes op s)
    (effect : op.Effect k.scopes m m') : s.Sound k.catalog.evaluator m' := by
  cases change with
  | declare =>
      cases effect with
      | declare bounded =>
          exact sound.write (fun _ => at?_declare) (fun _ => rfl) (by simp [ClauseSet.empty])
  | declareExternal =>
      cases effect with
      | declareExternal bounded type =>
          exact sound.write (fun _ => at?_declare) (fun _ => rfl) (Checker.holds_typeOnly type)
  | assign bound declared source_known subsumes =>
      cases effect with
      | assign bounded place yields =>
          have known := Checker.holds_sourceProvenance sound yields source_known
          have nanFree := regular.nanFree (Registry.resolve?_of_resolve declared)
          have required := Evaluator.holds_of_subsumes regular nanFree bounded subsumes known
          refine sound.write (fun _ => Checker.at?_setProvenance place) (fun _ => rfl) ?_
          intro c mem
          exact (ClauseSet.mem_union mem).elim (known c) (required c)
  | convert planned bound valid =>
      cases effect with
      | convert bounded place yields =>
          obtain ⟨all, known, required, source_known, made⟩ :=
            Checker.planConversion_eq_ok_iff.1 planned
          have known := Checker.holds_sourceProvenance sound yields source_known
          have nanFree := Checker.nanFree_required regular nanFree required
          refine sound.write (fun _ => Checker.at?_setProvenance place) (fun _ => rfl) ?_
          exact Checker.holds_proven regular nanFree bounded known made valid
  | narrow planned bound valid =>
      cases effect with
      | @narrow _ _ p place =>
          obtain ⟨b', all, bound', required, made⟩ := Checker.planNarrowing_eq_ok_iff.1 planned
          obtain rfl := Except.ok.inj (bound.symm.trans bound')
          obtain ⟨q, place', found⟩ := Checker.binding_eq_ok_iff.1 bound
          obtain rfl := Option.some.inj (place.symm.trans place')
          have known := sound p _ found
          have nanFree := Checker.nanFree_required regular nanFree required
          have proven := Checker.holds_proven regular nanFree (m.bounded p) known made valid
          -- the value stays where it is, which is writing it there once more
          have values : ∀ q, m.value q = if q = p then m.value p else m.value q := by
            intro q
            split
            · next here => rw [here]
            · rfl
          refine sound.write (fun _ => Checker.at?_setProvenance place) values fun c mem => ?_
          exact (ClauseSet.mem_union mem).elim (known c) (proven c)
  | requireTag =>
      cases effect with
      | requireTag place => exact sound
  | pushScope =>
      cases effect with
      | pushScope => exact fun p b found => sound p b (by rwa [at?_enter] at found)
  | popScope =>
      cases effect with
      | popScope => exact fun p b found => sound p b (at?_of_leave found)

namespace Run

variable {c : Catalog} {ops : List Operation} {k : Checker} {m : Memory}

theorem catalog_eq (run : Run c ops k m) : k.catalog = c := by
  induction run with
  | start m => rfl
  | succeed run done effect ih => rw [Checker.catalog_perform, ih]
  | fail run failed ih => rw [Checker.catalog_perform, ih]

theorem sound (run : Run c ops k m) (regular : c.registry.Regular)
    (nanFree : ∀ op ∈ ops, op.NaNFree) : k.scopes.Sound c.evaluator m := by
  induction run with
  | start m => simp [Scopes.Sound, Checker.start]
  | @succeed ops op k m m' run done effect ih =>
      have sound := ih fun op mem => nanFree op (List.mem_append_left _ mem)
      obtain rfl := run.catalog_eq
      obtain ⟨e, failed, -⟩ | ⟨-, change⟩ := k.perform_cases op
      · simp [isOk_iff, failed] at done
      · exact sound.step regular (nanFree op (by simp)) change effect
  | @fail ops op k m run failed ih =>
      have sound := ih fun op mem => nanFree op (List.mem_append_left _ mem)
      obtain ⟨e, -, same⟩ | ⟨done, -⟩ := k.perform_cases op
      · rwa [same]
      · rw [isOk_iff.2 ⟨_, done⟩] at failed
        contradiction

/-- **Provenance is sound**: after every run, every clause recorded of every binding, in whichever
scope it is, holds of the value that the binding has. -/
theorem provenance_holds (run : Run c ops k m) (regular : c.registry.Regular)
    (nanFree : ∀ op ∈ ops, op.NaNFree) :
    ∀ p b, k.scopes.at? p = some b →
      ∀ clause ∈ b.provenance.toList, k.catalog.evaluator.Holds clause (m.value p) 0 := by
  rw [run.catalog_eq]
  exact run.sound regular nanFree

/-- A card comes in from outside and is checked, a copy is made in an inner scope, and the card is
refused as a login. -/
def visit : List Operation :=
  [.declareExternal "user" ⟨3⟩ .object, .narrow "user" (.constrainedBy ⟨3⟩) Checker.grace,
    .pushScope, .declare "copy" ⟨3⟩, .assign "copy" (.binding "user"),
    .narrow "user" (.constrainedBy ⟨2⟩) Checker.grace]

/-- The copy is known to have a name, and it does. -/
theorem provenance_holds_visit :
    ∃ k m b, Run Catalog.contacts visit k m ∧ k.scopes.at? ⟨1, "copy"⟩ = some b ∧
      b.provenance.contains (.field "name" ⟨1⟩) = true ∧
      ∀ clause ∈ b.provenance.toList,
        k.catalog.evaluator.Holds clause (m.value ⟨1, "copy"⟩) 0 := by
  let m : Memory := ⟨fun _ => Checker.grace, fun _ => Checker.grace_bounded⟩
  have r₀ := Run.start (c := Catalog.contacts) m
  have r₁ : Run _ (visit.take 1) _ _ :=
    r₀.succeed (by decide +kernel) (.declareExternal Checker.grace_bounded rfl)
  have r₂ : Run _ (visit.take 2) _ _ :=
    r₁.succeed (by decide +kernel) (.narrow (p := ⟨0, "user"⟩) (by decide +kernel))
  have r₃ : Run _ (visit.take 3) _ _ := r₂.succeed rfl .pushScope
  have r₄ : Run _ (visit.take 4) _ _ :=
    r₃.succeed (by decide +kernel) (.declare Checker.grace_bounded)
  have r₅ : Run _ (visit.take 5) _ _ :=
    r₄.succeed (by decide +kernel) (.assign (p := ⟨1, "copy"⟩) Checker.grace_bounded
      (by decide +kernel) (.binding (p := ⟨0, "user"⟩) (by decide +kernel)))
  have r₆ : Run _ visit _ _ := r₅.fail (by decide +kernel)
  have nanFree : ∀ op ∈ visit, op.NaNFree := by
    simp [visit, Operation.NaNFree, Conversion.NaNFree]
  refine ⟨_, _, Option.get _ (by decide +kernel), r₆, (Option.some_get _).symm,
    by decide +kernel, ?_⟩
  exact r₆.provenance_holds Catalog.contacts_regular nanFree _ _ (Option.some_get _).symm

end Run

end ProvenShapes
