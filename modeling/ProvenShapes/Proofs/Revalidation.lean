/-
**Validation is not repeated.**

A conversion that succeeds records all that it required of a binding.  Then the binding is settled: to
narrow it by the same conversion needs no value to be looked at, whatever value is given, and there is
nothing left to record.  Three facts make it so.  What is required is contained in what is recorded.
It has no contradiction, because a plan was made for it.  And its kinds are those that are recorded:
they were compared with the kinds held before, and adding them to these adds no others.

Main definitions:

* `Checker.Settled` — all that a conversion requires of a binding is recorded, without a conflict;
* `Checker.narrowAll` — narrowing a binding again and again;
* `Checker.Remembers` — a conversion is known to have succeeded, and narrowing by it does nothing.

Main results:

* `Checker.settled_of_execute` — **a plan that was executed settles its binding**;
* `Checker.Settled.planNarrowing_eq`, `Checker.Settled.narrow_eq` — narrowing a settled binding;
* `Checker.Settled.narrow` — it stays settled;
* `Checker.validation_is_remembered` — what is known after a conversion or a narrowing.
-/

import ProvenShapes.Proofs.Descent

set_option autoImplicit false

namespace ProvenShapes

/-- Kinds that agree with those of a set still agree when this set is added. -/
theorem Registry.agree_union {r : Registry} {s t : ClauseSet} (one : r.OneKind t)
    (agree : ∀ path k l, r.Pins s path k → r.Pins t path l → k = l) :
    ∀ path k l, r.Pins (s.union t) path k → r.Pins t path l → k = l := by
  intro path k l held wanted
  rcases pins_union.1 held with before | added
  · exact agree path k l before wanted
  · exact one path k l added wanted

/-- Where there is nothing to check, nothing is evaluated. -/
theorem Evaluator.validate_nil (e : Evaluator) (v : Value) : e.validate [] v = pure () := rfl

namespace Checker

variable {k k' : Checker} {name : String} {conversion : Conversion} {b b' : Binding}
  {all known : ClauseSet} {p : Plan} {v w : Value}

/-- What a conversion requires depends on the declared pattern and the catalog. -/
theorem required_congr (catalog : k'.catalog = k.catalog) (bound : k.binding name = .ok b)
    (bound' : k'.binding name = .ok b') (declared : b'.declared = b.declared) :
    k'.required name conversion = k.required name conversion := by
  have asked : k'.conversionClauses conversion = k.conversionClauses conversion := by
    cases conversion <;> simp only [conversionClauses, catalog]
  rw [Checker.required, Checker.required, bound, bound', asked, catalog]
  show (k.catalog.registry.resolve b'.declared >>= _) = (k.catalog.registry.resolve b.declared >>= _)
  rw [declared]

/-! ### Settled bindings -/

/-- A conversion requires some clauses of a binding, which have no contradiction.  They are recorded
of it, and no kind is recorded that differs from one of theirs. -/
structure Settled (k : Checker) (name : String) (conversion : Conversion) (b : Binding)
    (all : ClauseSet) : Prop where
  bound : k.binding name = .ok b
  required : k.required name conversion = .ok all
  satisfiable : k.catalog.registry.contradiction? all = none
  recorded : all.isSubset b.provenance = true
  kinds : ∀ path held wanted, k.catalog.registry.Pins b.provenance path held →
    k.catalog.registry.Pins all path wanted → held = wanted

/-- The plan for narrowing a settled binding leaves nothing to check and proves nothing new. -/
theorem Settled.planNarrowing_eq (h : k.Settled name conversion b all) :
    k.planNarrowing name conversion = .ok ⟨name, .narrow, [], b.provenance⟩ := by
  have one := Registry.oneKind_of_contradiction?_eq_none h.satisfiable
  have implied : k.catalog.registry.missing b.provenance all = [] :=
    Registry.missing_eq_nil_iff.2
      (Registry.subsumes_of_contains (ClauseSet.isSubset_iff.1 h.recorded))
  refine planNarrowing_eq_ok_iff.2 ⟨b, all, h.bound, h.required, plan_eq_ok_iff.2 ⟨?_, ?_, ?_⟩⟩
  · exact h.satisfiable
  · exact (checkKinds_eq_ok_iff_pins one).2 h.kinds
  · rw [implied, ClauseSet.union_eq_left h.recorded]
    rfl

/-- Narrowing a settled binding writes what is there. -/
theorem Settled.narrow_eq (h : k.Settled name conversion b all) (w : Value) :
    k.narrow name conversion w = (k.setProvenance name b b.provenance, .ok .static) := by
  have same : b.provenance.union b.provenance = b.provenance :=
    ClauseSet.union_eq_left b.provenance.isSubset_refl
  rw [narrow, h.planNarrowing_eq]
  simp only [execute, h.bound, Evaluator.validate_nil, provenAfter, same]
  rfl

/-- A settled binding that is narrowed stays settled. -/
theorem Settled.narrow (h : k.Settled name conversion b all) (w : Value) :
    (k.narrow name conversion w).1.Settled name conversion b all := by
  rw [h.narrow_eq]
  have bound : (k.setProvenance name b b.provenance).binding name = .ok b :=
    binding_setProvenance h.bound
  refine ⟨bound, ?_, h.satisfiable, h.recorded, h.kinds⟩
  have required : (k.setProvenance name b b.provenance).required name conversion =
      k.required name conversion := required_congr rfl h.bound bound rfl
  exact required.trans h.required

theorem Settled.at?_narrow (h : k.Settled name conversion b all) (w : Value) (q : Place) :
    (k.narrow name conversion w).1.scopes.at? q = k.scopes.at? q := by
  rw [h.narrow_eq]
  obtain ⟨place, located, found⟩ := binding_eq_ok_iff.1 h.bound
  rw [at?_setProvenance located]
  split
  · next here => rw [here, found]
  · rfl

/-- All that is required of a settled binding is proven of it. -/
theorem Settled.proves (h : k.Settled name conversion b all) {pattern : PatternId} {s : ClauseSet}
    (known : k.catalog.registry.resolve pattern = .ok s)
    (within : ∀ c, s.contains c = true → all.contains c = true) :
    k.proves name pattern = .ok true := by
  refine (proves_eq_ok_true_iff h.bound pattern).2 ⟨s, known, ?_⟩
  refine Registry.subsumes_of_contains fun c mem => ?_
  exact ClauseSet.contains_of_isSubset h.recorded (within c (ClauseSet.contains_of_mem mem))

/-! ### Plans that were executed -/

/-- What is recorded once a plan is executed contains what was required. -/
theorem isSubset_provenAfter (proven : p.proven = known.union all) :
    all.isSubset (provenAfter p b) = true := by
  refine ClauseSet.isSubset_iff.2 fun c mem => ?_
  have within : p.proven.contains c = true := by
    rw [proven]
    exact ClauseSet.contains_union.2 (.inr (ClauseSet.contains_of_mem mem))
  unfold provenAfter
  split
  · exact within
  · exact ClauseSet.contains_union.2 (.inr within)

/-- A plan for narrowing that was made from what is recorded pins no other kinds than it proves. -/
theorem pins_of_pins_provenAfter {r : Registry} {path : List String} {kind : String}
    (proven : p.proven = known.union all) (own : p.mode = .narrow → b.provenance = known)
    (pinned : r.Pins (provenAfter p b) path kind) : r.Pins (known.union all) path kind := by
  unfold provenAfter at pinned
  split at pinned
  · rwa [← proven]
  · next narrows =>
      rw [proven, own narrows] at pinned
      rcases Registry.pins_union.1 pinned with before | after
      · exact Registry.pins_union.2 (.inl before)
      · exact after

/-- Executing a plan settles the binding, if a plan for narrowing was made from what is recorded of
it. -/
theorem settled_of_execute {mode : Plan.Mode} {outcome : Outcome}
    (required : k.required name conversion = .ok all) (made : k.plan name mode known all = .ok p)
    (own : mode = .narrow → k.provenance name = .ok known)
    (done : (k.execute p v).2 = .ok outcome) :
    ∃ b, (k.execute p v).1.Settled name conversion b all := by
  obtain ⟨satisfiable, kinds, planned⟩ := plan_eq_ok_iff.1 made
  have proven : p.proven = known.union all := by rw [planned]
  obtain ⟨err, failed, -⟩ | ⟨b, -, -, bound, -, scopes⟩ := k.execute_cases p v
  · rw [failed] at done
    simp at done
  have target : p.binding = name := by rw [planned]
  rw [target] at bound scopes
  have own : p.mode = .narrow → b.provenance = known := by
    intro narrows
    have held := own (by rwa [planned] at narrows)
    rw [provenance_of_binding bound] at held
    exact Except.ok.inj held
  have bound' : (k.execute p v).1.binding name = .ok { b with provenance := provenAfter p b } := by
    rw [binding_of_scopes scopes]
    exact binding_setProvenance bound
  refine ⟨_, bound', ?_, ?_, isSubset_provenAfter proven, ?_⟩
  · rw [required_congr catalog_execute bound bound' rfl, required]
  · rwa [catalog_execute]
  · -- the kinds that are required were compared with those known, and are the only ones added
    intro path held wanted
    rw [catalog_execute]
    intro present want
    have one := Registry.oneKind_of_contradiction?_eq_none satisfiable
    have agree := Registry.agree_union one ((checkKinds_eq_ok_iff_pins one).1 kinds)
    exact agree path held wanted (pins_of_pins_provenAfter proven own present) want

/-- A conversion or a narrowing that succeeds settles its binding. -/
theorem settled_of_carryOut {mode : Plan.Mode} {source : Source} {outcome : Outcome}
    (own : mode = .narrow → source = .binding name)
    (done : (k.carryOut (k.planFor name mode source conversion) v).2 = .ok outcome) :
    ∃ b all, (k.carryOut (k.planFor name mode source conversion) v).1.Settled name conversion b
      all := by
  cases planned : k.planFor name mode source conversion with
  | error err => simp [planned, carryOut] at done
  | ok p =>
      obtain ⟨all, known, required, source_known, made⟩ := planFor_eq_ok_iff.1 planned
      rw [planned] at done
      have held : mode = .narrow → k.provenance name = .ok known := by
        intro narrows
        rwa [own narrows] at source_known
      obtain ⟨b, settled⟩ := settled_of_execute required made held done
      exact ⟨b, all, settled⟩

/-! ### Narrowing again -/

/-- A binding narrowed by the same conversion again and again: the checker in the end, and what each
narrowing gave. -/
def narrowAll (k : Checker) (name : String) (conversion : Conversion) :
    List Value → Checker × List (Except Error Outcome)
  | [] => (k, [])
  | w :: rest =>
      let next := k.narrow name conversion w
      let later := next.1.narrowAll name conversion rest
      (later.1, next.2 :: later.2)

/-- Two checkers have the same count and the same bindings at the same places. -/
structure SameState (k k' : Checker) : Prop where
  evaluations : k'.evaluations = k.evaluations
  bindings : ∀ q, k'.scopes.at? q = k.scopes.at? q

theorem Settled.sameState (h : k.Settled name conversion b all) (w : Value) :
    k.SameState (k.narrow name conversion w).1 := by
  refine ⟨?_, h.at?_narrow w⟩
  rw [h.narrow_eq]
  rfl

/-- However often it is narrowed, nothing is validated and nothing changes. -/
theorem Settled.narrowAll (h : k.Settled name conversion b all) (values : List Value) :
    (∀ result ∈ (k.narrowAll name conversion values).2, result = .ok .static) ∧
      k.SameState (k.narrowAll name conversion values).1 := by
  induction values generalizing k with
  | nil => exact ⟨by simp [Checker.narrowAll], rfl, fun _ => rfl⟩
  | cons w rest ih =>
      obtain ⟨static, unchanged⟩ := ih (h.narrow w)
      have first : (k.narrow name conversion w).2 = .ok .static := by rw [h.narrow_eq]
      have next := h.sameState w
      refine ⟨List.forall_mem_cons.2 ⟨first, static⟩, ?_, ?_⟩
      · exact unchanged.evaluations.trans next.evaluations
      · intro q
        exact (unchanged.bindings q).trans (next.bindings q)

theorem SameState.provenance (h : k.SameState k') (name : String) :
    k'.provenance name = k.provenance name := by
  have found : k'.scopes.find? name = k.scopes.find? name :=
    (Scopes.find?_congr fun level => h.bindings ⟨level, name⟩).2
  rw [Checker.provenance, Checker.provenance, binding, binding, found]

/-- It is known that a conversion of a binding succeeded.  The binding proves what it declares and
what the conversion asked for.  A plan for narrowing it by the same conversion can be made and is
static.  With any value, and any number of times, such a narrowing succeeds without validation, counts
nothing, and changes nothing. -/
structure Remembers (k : Checker) (name : String) (conversion : Conversion) : Prop where
  declared : ∃ b, k.binding name = .ok b ∧ k.proves name b.declared = .ok true
  asked : ∀ pattern, conversion = .constrainedBy pattern → k.proves name pattern = .ok true
  planned : ∃ p, k.planNarrowing name conversion = .ok p ∧ p.isStatic = true
  again : ∀ w, (k.narrow name conversion w).2 = .ok .static ∧
    (k.narrow name conversion w).1.evaluations = k.evaluations ∧
    (k.narrow name conversion w).1.provenance name = k.provenance name ∧
    ∀ q, (k.narrow name conversion w).1.scopes.at? q = k.scopes.at? q
  always : ∀ values, (∀ result ∈ (k.narrowAll name conversion values).2, result = .ok .static) ∧
    k.SameState (k.narrowAll name conversion values).1

theorem Settled.remembers (h : k.Settled name conversion b all) : k.Remembers name conversion := by
  obtain ⟨b', declared, asked, bound, resolved, converts, union⟩ := required_eq_ok_iff.1 h.required
  refine ⟨⟨b', bound, ?_⟩, ?_, ⟨_, h.planNarrowing_eq, rfl⟩, ?_, h.narrowAll⟩
  · refine h.proves resolved fun c within => ?_
    rw [union]
    exact ClauseSet.contains_union.2 (.inl within)
  · rintro pattern rfl
    refine h.proves converts fun c within => ?_
    rw [union]
    exact ClauseSet.contains_union.2 (.inr within)
  · intro w
    have same := h.sameState w
    exact ⟨by rw [h.narrow_eq], same.evaluations, same.provenance name, same.bindings⟩

/-- **Validation is remembered and never repeated.**  After a narrowing or a conversion that succeeds,
in any state, the binding proves what it declares and what was asked for, and narrowing it by the same
conversion is static and changes nothing. -/
theorem validation_is_remembered (k : Checker) (name : String) (conversion : Conversion) (v : Value) :
    (∀ outcome, (k.narrow name conversion v).2 = .ok outcome →
      (k.narrow name conversion v).1.Remembers name conversion) ∧
    (∀ source outcome, (k.convert name source conversion v).2 = .ok outcome →
      (k.convert name source conversion v).1.Remembers name conversion) := by
  constructor
  · intro outcome done
    rw [Checker.narrow_eq] at done ⊢
    obtain ⟨b, all, settled⟩ := settled_of_carryOut (fun _ => rfl) done
    exact settled.remembers
  · intro source outcome done
    rw [convert_eq] at done ⊢
    obtain ⟨b, all, settled⟩ := settled_of_carryOut (by simp) done
    exact settled.remembers

/-- A guest of whom it is only known that there is an object. -/
def stranger : Checker :=
  { start badges with scopes := ⟨[], [("guest", ⟨⟨1⟩, typeOnly .object⟩)]⟩ }

/-- The badge of a guest has to be looked at once.  Then the guest is known to have one, with the kind
that goes with it, and is not looked at again; so it is if the guest is exchanged for another one. -/
theorem validation_is_remembered_guest :
    let guest := Conversion.constrainedBy ⟨1⟩
    let seen := stranger.narrow "guest" guest wearer
    let exchanged := stranger.convert "guest" (.untyped .object) guest wearer
    seen.2 = .ok (.validated 2) ∧ seen.1.Remembers "guest" guest ∧
      exchanged.2 = .ok (.validated 2) ∧ exchanged.1.Remembers "guest" guest := by
  intro guest seen exchanged
  obtain ⟨narrowed, converted⟩ := validation_is_remembered stranger "guest" guest wearer
  have first : seen.2 = .ok (.validated 2) := toOption_eq_some_iff.1 (by decide +kernel)
  have second : exchanged.2 = .ok (.validated 2) := toOption_eq_some_iff.1 (by decide +kernel)
  exact ⟨first, narrowed _ first, second, converted _ _ second⟩

end Checker

end ProvenShapes
