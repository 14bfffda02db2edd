/-
**What exists is found.**

Questions about values fail for many reasons, and one of them is that something named does not exist.
In a catalog that came about by declarations this reason is left to the caller alone: a question that
names what exists never runs into something unknown further down, whichever way it goes through
patterns, constraints, tags, composites and bindings.  Together with closedness and with the
well-foundedness of walks this says what a catalog guarantees at all times.

Main definitions:

* `Error.isUnknown` — the errors that say that something does not exist;
* `Finds` — a result is not such an error;
* `Checker.Resolves` — the declared patterns of all bindings are registered;
* `Catalog.Answers` — **no question about what exists ends with something unknown**.

Main results:

* `Catalog.Closed.finds_holds` — evaluating a covered clause finds all that it needs;
* `Checker.resolves_performAll` — every run of a checker declares bindings of registered patterns only;
* `Catalog.reachable_catalogs_are_closed` — closed, without endless walks, and answering.
-/

import ProvenShapes.Catalog.Commit
import ProvenShapes.Proofs.Closure
import ProvenShapes.Proofs.Errors

set_option autoImplicit false

namespace ProvenShapes

/-- The error says that something does not exist. -/
def Error.isUnknown : Error → Bool
  | unknownPattern _ | unknownConstraint _ | unknownKind _ | unknownTag _ | unknownBinding _
  | unknownComposite _ | unknownField .. => true
  | _ => false

/-- A result, or an error other than that something does not exist. -/
def Finds {α : Type} (x : Except Error α) : Prop := ∀ e, x = .error e → e.isUnknown = false

section Finds

variable {α β : Type} {x : Except Error α}

theorem finds_ok (a : α) : Finds (.ok a : Except Error α) := failsOnly_ok a

theorem finds_error {e : Error} (h : e.isUnknown = false) : Finds (.error e : Except Error α) :=
  failsOnly_error h

theorem Finds.bind {f : α → Except Error β} (h : Finds x) (next : ∀ a, x = .ok a → Finds (f a)) :
    Finds (x >>= f) :=
  FailsOnly.bind h next

theorem finds_map_iff {f : α → β} : Finds (x.map f) ↔ Finds x := by
  cases x with
  | ok a => exact ⟨fun _ => finds_ok a, fun _ => finds_ok (f a)⟩
  | error e => exact ⟨fun h => finds_error (h e rfl), fun h => finds_error (h e rfl)⟩

end Finds

/-! ### Evaluation -/

namespace Registry

theorem finds_resolve {r : Registry} {id : PatternId} (known : ∃ s, r.resolve? id = some s) :
    Finds (r.resolve id) := by
  obtain ⟨s, known⟩ := known
  rw [resolve_of_resolve? known]
  exact finds_ok s

theorem finds_checkSatisfiable {r : Registry} {label : String} {s : ClauseSet} :
    Finds (r.checkSatisfiable label s) := by
  unfold checkSatisfiable
  split
  · exact finds_error rfl
  · exact finds_ok ()

end Registry

namespace Catalog

variable {c : Catalog} {v : Value}

/-- Evaluating a covered clause finds all that it needs. -/
theorem Closed.finds_holds (closed : c.Closed) {clause : Clause} (covered : c.Covers clause)
    (depth : Nat) : Finds (c.evaluator.holds clause v depth).result := by
  refine Evaluator.failsOnly_holds_of c.Covers ?_ ?_ ?_ (fun _ _ => rfl) covered depth
  · rintro outer inner - ⟨id, s, -, known, mem⟩
    exact closed.covered id s known inner mem
  · intro outer id covered refers unknown
    obtain ⟨s, known⟩ := covered.exists_resolve? refers
    exact absurd (unknown.symm.trans known) (by simp)
  · intro id covered absent
    exact absurd (absent.symm.trans covered) (by simp)

theorem Closed.finds_validation (closed : c.Closed) {clauses : List Clause}
    (covered : ∀ clause ∈ clauses, c.Covers clause) :
    Finds (c.evaluator.validate clauses v).result :=
  Evaluator.failsOnly_validate (fun clause mem => closed.finds_holds (covered clause mem) 0)
    fun _ _ => rfl

theorem Closed.finds_validate (closed : c.Closed) {id : PatternId}
    (known : ∃ s, c.registry.resolve? id = some s) : Finds (c.validate id v) := by
  refine (Registry.finds_resolve known).bind fun s found => ?_
  exact closed.finds_validation (closed.covered id s (Registry.resolve?_of_resolve found))

/-! ### Tags -/

theorem get_of_find? {tag : String} {t : Tag} (known : c.tags.find? tag = some t) :
    c.tags.get tag = .ok t := by
  rw [Tags.get, known]

theorem Closed.finds_failingClause (closed : c.Closed) {tag : String} {t : Tag}
    (known : c.tags.find? tag = some t) : Finds (t.failingClause c.evaluator v).result := by
  obtain ⟨s, resolved⟩ := closed.tags t (List.mem_of_find?_eq_some known)
  have found : c.evaluator.registry.resolve t.pattern = .ok s :=
    Registry.resolve_of_resolve? resolved
  rw [Tag.failingClause, found]
  refine Counted.failsOnly_firstFalse? fun clause mem => ?_
  exact closed.finds_holds (closed.covered t.pattern s resolved clause mem) 0

theorem Closed.finds_require (closed : c.Closed) {tag : String} {t : Tag}
    (known : c.tags.find? tag = some t) : Finds (t.require c.evaluator v).result := by
  refine Counted.failsOnly_bind (closed.finds_failingClause known) fun failing => ?_
  cases failing with
  | none => exact finds_ok ()
  | some clause => exact finds_error rfl

theorem Closed.finds_hasTag (closed : c.Closed) {tag : String} {t : Tag}
    (known : c.tags.find? tag = some t) : Finds (c.hasTag v tag) := by
  rw [hasTag, get_of_find? known]
  exact (closed.finds_failingClause known).bind fun failing _ => finds_ok failing.isNone

theorem Closed.finds_requireTag (closed : c.Closed) {tag : String} {t : Tag}
    (known : c.tags.find? tag = some t) : Finds (c.requireTag v tag) := by
  rw [requireTag, get_of_find? known]
  exact closed.finds_require known

/-! ### Commits -/

theorem mem_composites {name : String} {d : Composite} (h : c.composite name = .ok d) :
    d ∈ c.composites := by
  unfold Catalog.composite at h
  split at h
  · next found =>
      obtain rfl := Except.ok.inj h
      exact List.mem_of_find?_eq_some found
  · simp at h

theorem mem_fields {d : Composite} {field : String} {id : PatternId}
    (h : d.fieldPattern field = .ok id) : (field, id) ∈ d.fields := by
  unfold Composite.fieldPattern at h
  split at h
  · next there =>
      obtain rfl := Except.ok.inj h
      exact Keyed.mem_of_find? there
  · simp at h

/-- A call that sets a field leaves the change set alone, or writes a field of the composite. -/
theorem set_cases (cs : ChangeSet) (field : String) (v : Value) :
    (∃ e, cs.set field v = (cs, .error e)) ∨
      (∃ id, cs.composite.fieldPattern field = .ok id) ∧
        cs.set field v = ({ cs with writes := Keyed.put field v cs.writes }, .ok ()) := by
  unfold ChangeSet.set
  cases known : cs.composite.fieldPattern field with
  | error e => exact .inl ⟨e, rfl⟩
  | ok id => exact .inr ⟨⟨id, rfl⟩, rfl⟩

/-- Only fields of its composite get into a change set. -/
theorem fieldPattern_of_setAll (cs : ChangeSet) (writes : List (String × Value))
    (before : ∀ w ∈ cs.writes, ∃ id, cs.composite.fieldPattern w.1 = .ok id) :
    (cs.setAll writes).1.composite = cs.composite ∧
      ∀ w ∈ (cs.setAll writes).1.writes, ∃ id, cs.composite.fieldPattern w.1 = .ok id := by
  induction writes generalizing cs with
  | nil => exact ⟨rfl, before⟩
  | cons write rest ih =>
      obtain ⟨field, v⟩ := write
      rw [ChangeSet.setAll]
      rcases set_cases cs field v with ⟨e, refused⟩ | ⟨known, done⟩
      · rw [refused]
        exact ⟨rfl, before⟩
      · rw [done]
        refine ih { cs with writes := _ } fun w mem => ?_
        rcases Keyed.mem_put mem with rfl | old
        · exact known
        · exact before w old

theorem Closed.finds_checkValues (closed : c.Closed) {composite : Composite}
    {writes : List (String × Value)} (mem : composite ∈ c.composites)
    (known : ∀ w ∈ writes, ∃ id, composite.fieldPattern w.1 = .ok id) :
    Finds (ChangeSet.checkValues c composite writes) := by
  induction writes with
  | nil => exact finds_ok ()
  | cons w rest ih =>
      obtain ⟨⟨id, found⟩, later⟩ := List.forall_mem_cons.1 known
      rw [ChangeSet.checkValues, found]
      have registered := closed.fields composite mem _ (mem_fields found)
      exact (closed.finds_validate registered).bind fun _ _ => ih later

theorem finds_writeFields {record : Value} {writes : List (String × Value)} :
    Finds (ChangeSet.writeFields record writes).2 := by
  induction writes generalizing record with
  | nil => exact finds_ok ()
  | cons w rest ih =>
      rw [ChangeSet.writeFields]
      split
      · exact finds_error rfl
      · exact ih

theorem finds_apply {cs : ChangeSet} {record : Value} : Finds (cs.apply record).2 := by
  unfold ChangeSet.apply Composite.checkCommit
  cases cs.composite.coMutation.missing cs.written with
  | nil => exact finds_writeFields
  | cons _ _ => exact finds_error rfl

/-- A commit into a store finds what its edit finds. -/
theorem finds_store_commit {store : Store} {key : String}
    {edit : Value → Value × Except Error Unit} (h : ∀ record, Finds (edit record).2) :
    Finds (store.commit key edit).2 := by
  have found := h ((store.get? key).getD .undefined)
  unfold Store.commit
  split
  · next failed => exact finds_error (found _ (by rw [failed]))
  · split
    · exact finds_ok ()
    · exact finds_ok ()

theorem Closed.finds_commit (closed : c.Closed) {name key : String} {cs : ChangeSet}
    {writes : List (String × Value)} {store : Store} (opened : c.changeSet name key = .ok cs) :
    Finds ((cs.setAll writes).1.commit c store).2 := by
  obtain ⟨composite, declared, done⟩ := bind_eq_ok_iff.1 opened
  obtain rfl := Except.ok.inj done
  obtain ⟨same, known⟩ := fieldPattern_of_setAll ⟨composite, key, []⟩ writes (by simp)
  unfold ChangeSet.commit
  split
  · exact finds_ok ()
  · rw [same]
    have checked := closed.finds_checkValues (mem_composites declared) known
    split
    · next failed => exact finds_error (checked _ failed)
    · exact finds_store_commit fun _ => finds_apply

end Catalog

/-! ### Bindings -/

namespace Checker

variable {k : Checker} {op : Operation} {name : String} {v : Value} {b : Binding}

/-- The declared patterns of all bindings are registered. -/
def Resolves (k : Checker) : Prop :=
  ∀ p b, k.scopes.at? p = some b → ∃ s, k.catalog.registry.resolve? b.declared = some s

theorem resolve?_of_declareWith {pattern : PatternId} {proven : ClauseSet}
    (done : (k.declareWith name pattern proven).2 = .ok ()) :
    ∃ s, k.catalog.registry.resolve? pattern = some s := by
  obtain ⟨e, failed⟩ | ⟨⟨s, known⟩, -⟩ := k.declareWith_cases name pattern proven
  · simp [failed] at done
  · exact ⟨s, Registry.resolve?_of_resolve known⟩

/-- A binding that is written keeps its declared pattern. -/
theorem Resolves.at?_setProvenance (h : k.Resolves) {s : ClauseSet}
    (bound : k.binding name = .ok b) {p : Place} {b' : Binding}
    (found : (k.setProvenance name b s).scopes.at? p = some b') :
    ∃ s, k.catalog.registry.resolve? b'.declared = some s := by
  obtain ⟨q, place, there⟩ := binding_eq_ok_iff.1 bound
  rw [Checker.at?_setProvenance place] at found
  split at found
  · obtain rfl := Option.some.inj found
    exact h q b there
  · exact h p b' found

theorem Resolves.at?_declare (h : k.Resolves) {pattern : PatternId} {proven : ClauseSet}
    (known : ∃ s, k.catalog.registry.resolve? pattern = some s) {p : Place}
    (found : (k.scopes.declare name ⟨pattern, proven⟩).at? p = some b) :
    ∃ s, k.catalog.registry.resolve? b.declared = some s := by
  rw [Scopes.at?_declare] at found
  split at found
  · obtain rfl := Option.some.inj found
    exact known
  · exact h p b found

/-- No operation binds a name to a pattern that is not registered. -/
theorem Resolves.perform (h : k.Resolves) (op : Operation) : (k.perform op).1.Resolves := by
  intro p b found
  rw [catalog_perform]
  obtain ⟨e, -, same⟩ | ⟨done, changes⟩ := k.perform_cases op
  · rw [same] at found
    exact h p b found
  · generalize (k.perform op).1.scopes = after at changes found
    cases changes with
    | declare => exact h.at?_declare (resolve?_of_declareWith done) found
    | declareExternal => exact h.at?_declare (resolve?_of_declareWith done) found
    | assign bound => exact h.at?_setProvenance bound found
    | convert planned bound => exact h.at?_setProvenance bound found
    | narrow planned bound => exact h.at?_setProvenance bound found
    | requireTag => exact h p b found
    | pushScope => exact h p b (by rwa [Scopes.at?_enter] at found)
    | popScope => exact h p b (Scopes.at?_of_leave found)

/-- Every run of a checker has bindings of registered patterns only. -/
theorem resolves_performAll (c : Catalog) (ops : List Operation) :
    ((start c).performAll ops).Resolves := by
  induction ops using List.reverseRecOn with
  | nil =>
      intro p b found
      simp [performAll, start] at found
  | append_singleton ops op ih =>
      rw [performAll_concat]
      exact ih.perform op

theorem Resolves.resolve? (h : k.Resolves) (bound : k.binding name = .ok b) :
    ∃ s, k.catalog.registry.resolve? b.declared = some s := by
  obtain ⟨q, -, there⟩ := binding_eq_ok_iff.1 bound
  exact h q b there

/-! ### Conversions -/

/-- What a source names exists. -/
def KnowsSource (k : Checker) : Source → Prop
  | .binding name => ∃ b, k.binding name = .ok b
  | _ => True

/-- What a conversion names exists. -/
def KnowsConversion (k : Checker) : Conversion → Prop
  | .constrainedBy pattern => ∃ s, k.catalog.registry.resolve? pattern = some s
  | .constrainedWith clauses => ∀ clause ∈ clauses, k.catalog.Covers clause

variable {source : Source} {conversion : Conversion} {target : String}

theorem finds_conversionClauses (known : k.KnowsConversion conversion) :
    Finds (k.conversionClauses conversion) := by
  cases conversion with
  | constrainedBy pattern => exact Registry.finds_resolve known
  | constrainedWith clauses =>
      have checked := Catalog.checkReferences_eq_ok_iff.2 known
      rw [conversionClauses, Registry.inline, checked]
      exact Registry.finds_checkSatisfiable.bind fun _ _ => finds_ok _

theorem covers_conversionClauses (closed : k.catalog.Closed) (known : k.KnowsConversion conversion)
    {s : ClauseSet} (h : k.conversionClauses conversion = .ok s) :
    ∀ clause ∈ s.toList, k.catalog.Covers clause := by
  cases conversion with
  | constrainedBy pattern => exact closed.covered pattern s (Registry.resolve?_of_resolve h)
  | constrainedWith clauses =>
      obtain ⟨_, -, h⟩ := bind_eq_ok_iff.1 h
      obtain ⟨t, united, h⟩ := bind_eq_ok_iff.1 h
      obtain ⟨_, -, done⟩ := bind_eq_ok_iff.1 h
      obtain rfl := Except.ok.inj done
      obtain rfl : ClauseSet.empty.extend clauses = t := Except.ok.inj united
      intro clause mem
      rcases ClauseSet.mem_extend mem with mem | mem
      · exact known clause mem
      · simp [ClauseSet.empty] at mem

/-- What a conversion to a binding has to establish is found, and is covered. -/
theorem finds_required (closed : k.catalog.Closed) (resolves : k.Resolves)
    (bound : k.binding name = .ok b) (known : k.KnowsConversion conversion) :
    Finds (k.required name conversion) ∧ ∀ s, k.required name conversion = .ok s →
      ∀ clause ∈ s.toList, k.catalog.Covers clause := by
  constructor
  · rw [required, bound]
    refine (Registry.finds_resolve (resolves.resolve? bound)).bind fun _ _ => ?_
    exact (finds_conversionClauses known).bind fun _ _ => finds_ok _
  · intro s made clause mem
    obtain ⟨b', declared, asked, -, resolved, converts, rfl⟩ := required_eq_ok_iff.1 made
    rcases ClauseSet.mem_union mem with mem | mem
    · exact closed.covered _ declared (Registry.resolve?_of_resolve resolved) clause mem
    · exact covers_conversionClauses closed known converts clause mem

theorem finds_literalProofs (closed : k.catalog.Closed) {clauses : List Clause}
    (covered : ∀ clause ∈ clauses, k.catalog.Covers clause) :
    Finds (k.literalProofs v clauses) := by
  induction clauses with
  | nil => exact finds_ok []
  | cons clause rest ih =>
      obtain ⟨first, later⟩ := List.forall_mem_cons.1 covered
      have evaluated : Finds (k.literalProves v clause) := by
        unfold literalProves
        split
        · exact closed.finds_holds first 0
        · exact finds_ok false
      refine evaluated.bind fun proves _ => ?_
      cases proves with
      | true => exact (ih later).bind fun others _ => finds_ok (clause :: others)
      | false => exact ih later

theorem finds_sourceProvenance (closed : k.catalog.Closed) (known : k.KnowsSource source)
    {required : ClauseSet} (covered : ∀ clause ∈ required.toList, k.catalog.Covers clause) :
    Finds (k.sourceProvenance source required) := by
  cases source with
  | binding name =>
      obtain ⟨b, bound⟩ := known
      rw [sourceProvenance, provenance_of_binding bound]
      exact finds_ok b.provenance
  | untyped t => exact finds_ok (typeOnly t)
  | literal v =>
      unfold sourceProvenance
      dsimp only
      split
      · exact (finds_literalProofs closed covered).bind fun proven _ => finds_ok _
      · exact finds_ok _

theorem finds_checkKinds {held wanted : KindPaths} : Finds (checkKinds name held wanted) := by
  induction wanted with
  | nil => exact finds_ok ()
  | cons entry rest ih =>
      rw [checkKinds]
      split
      · split
        · exact ih
        · exact finds_error rfl
      · exact ih

theorem finds_plan {mode : Plan.Mode} {known required : ClauseSet} :
    Finds (k.plan name mode known required) := by
  refine Registry.finds_checkSatisfiable.bind fun _ _ => ?_
  exact finds_checkKinds.bind fun _ _ => finds_ok _

/-- A plan for what is known and covered is made and executed, or fails with something known. -/
theorem finds_carryOut (closed : k.catalog.Closed) (resolves : k.Resolves)
    (bound : k.binding name = .ok b) (mode : Plan.Mode) (source_known : k.KnowsSource source)
    (known : k.KnowsConversion conversion) :
    Finds (k.carryOut (k.planFor name mode source conversion) v).2 := by
  obtain ⟨found, covered⟩ := finds_required closed resolves bound known
  cases planned : k.planFor name mode source conversion with
  | error e =>
      have finds : Finds (k.planFor name mode source conversion) := by
        refine found.bind fun required wanted => ?_
        exact (finds_sourceProvenance closed source_known (covered required wanted)).bind
          fun _ _ => finds_plan
      exact finds_error (finds e planned)
  | ok p =>
      obtain ⟨required, held, wanted, -, made⟩ := planFor_eq_ok_iff.1 planned
      obtain ⟨-, -, rfl⟩ := plan_eq_ok_iff.1 made
      rw [carryOut, ← finds_map_iff, execute_verdict bound]
      refine closed.finds_validation fun clause mem => covered required wanted clause ?_
      -- the residue is a part of what is required
      exact List.mem_of_mem_filter (List.mem_of_mem_filter mem)

theorem finds_requireTag (closed : k.catalog.Closed) (bound : k.binding name = .ok b)
    {tag : String} {t : Tag} (known : k.catalog.tags.find? tag = some t) :
    Finds (k.requireTag name tag v).2 := by
  obtain ⟨s, resolved⟩ := closed.tags t (List.mem_of_find?_eq_some known)
  have proves : k.proves name t.pattern = .ok (k.catalog.registry.subsumes b.provenance s) := by
    rw [Checker.proves, provenance_of_binding bound, Registry.resolve_of_resolve? resolved]
    rfl
  rw [requireTag, Catalog.get_of_find? known]
  dsimp only
  rw [proves]
  cases k.catalog.registry.subsumes b.provenance s with
  | true => exact finds_ok TagCheck.static
  | false => exact finds_map_iff.2 (closed.finds_require known)

end Checker

/-! ### What a catalog guarantees -/

namespace Catalog

/-- No question about what exists ends with something unknown. -/
structure Answers (c : Catalog) : Prop where
  validate : ∀ id v, (∃ s, c.registry.resolve? id = some s) → Finds (c.validate id v)
  hasTag : ∀ v tag t, c.tags.find? tag = some t → Finds (c.hasTag v tag)
  requireTag : ∀ v tag t, c.tags.find? tag = some t → Finds (c.requireTag v tag)
  convert : ∀ ops target b source conversion v,
    ((Checker.start c).performAll ops).binding target = .ok b →
    ((Checker.start c).performAll ops).KnowsSource source →
    ((Checker.start c).performAll ops).KnowsConversion conversion →
    Finds (((Checker.start c).performAll ops).convert target source conversion v).2
  narrow : ∀ ops name b conversion v,
    ((Checker.start c).performAll ops).binding name = .ok b →
    ((Checker.start c).performAll ops).KnowsConversion conversion →
    Finds (((Checker.start c).performAll ops).narrow name conversion v).2
  requireTagOf : ∀ ops name b tag t v,
    ((Checker.start c).performAll ops).binding name = .ok b → c.tags.find? tag = some t →
    Finds (((Checker.start c).performAll ops).requireTag name tag v).2
  commit : ∀ name key cs writes store, c.changeSet name key = .ok cs →
    Finds ((cs.setAll writes).1.commit c store).2

theorem Closed.answers {c : Catalog} (closed : c.Closed) : c.Answers := by
  have there : ∀ ops, ((Checker.start c).performAll ops).catalog.Closed := by
    intro ops
    rw [Checker.catalog_performAll]
    exact closed
  constructor
  case validate => exact fun id v known => closed.finds_validate known
  case hasTag => exact fun v tag t known => closed.finds_hasTag known
  case requireTag => exact fun v tag t known => closed.finds_requireTag known
  case convert =>
    intro ops target b source conversion v bound source_known known
    rw [Checker.convert_eq]
    exact Checker.finds_carryOut (there ops) (Checker.resolves_performAll c ops) bound .assign
      source_known known
  case narrow =>
    intro ops name b conversion v bound known
    rw [Checker.narrow_eq]
    exact Checker.finds_carryOut (there ops) (Checker.resolves_performAll c ops) bound .narrow
      ⟨b, bound⟩ known
  case requireTagOf =>
    intro ops name b tag t v bound known
    have declared : ((Checker.start c).performAll ops).catalog.tags.find? tag = some t := by
      rwa [Checker.catalog_performAll]
    exact Checker.finds_requireTag (there ops) bound declared
  case commit => exact fun name key cs writes store opened => closed.finds_commit opened

/-- **Every catalog that declarations lead to is closed, no question about its clauses is asked for
ever, and no question about what it holds ends with something unknown.**  Walks have no other way to go
on than the calls: their answers come from those to the calls. -/
theorem reachable_catalogs_are_closed (ds : List Declaration) :
    (empty.applyAll ds).Closed ∧
      WellFounded (Walk.Calls (empty.applyAll ds).registry) ∧
      (∀ (e : Evaluator) (w : Walk), (empty.applyAll ds).evaluator.Agrees e w →
        (∀ w', Walk.Calls (empty.applyAll ds).registry w' w →
          e.answer w' = (empty.applyAll ds).evaluator.answer w') →
        e.answer w = (empty.applyAll ds).evaluator.answer w) ∧
      (empty.applyAll ds).Answers := by
  have closed := closed_applyAll ds
  exact ⟨closed, Walk.wellFounded_calls _, fun _ _ => Evaluator.answer_congr, closed.answers⟩

/-- Declarations the last two of which fail: a name is taken, and a document stops midway. -/
def guests : List Declaration :=
  [.kind "visitor",
    .constraint (.predicate "friendly" .string fun _ => .ok true),
    .pattern (some "Name") [.typeIs (.primitive .string), .satisfies "friendly"] [],
    .composite "Guest" [("name", ⟨0⟩)],
    .tag "guest" ⟨1⟩,
    .attach (.field "Guest" "name") "pii" (.bool true),
    .pattern (some "Guest") [.kindOf "visitor"] [],
    .document { kinds := ["host"], tags := [("host", "Host")] }]

theorem reachable_catalogs_are_closed_guests :
    (empty.applyAll guests).kinds = ["visitor", "host"] ∧
      (empty.applyAll guests).registry.lookup? "Guest" = some ⟨1⟩ ∧
      (empty.applyAll guests).Closed ∧
      WellFounded (Walk.Calls (empty.applyAll guests).registry) ∧
      Finds ((empty.applyAll guests).validate ⟨1⟩ (.object [("name", .string "Ada")])) := by
  obtain ⟨closed, walks, -, answers⟩ := reachable_catalogs_are_closed guests
  have registered : ((empty.applyAll guests).registry.resolve? ⟨1⟩).isSome = true := by
    decide +kernel
  refine ⟨by decide +kernel, by decide +kernel, closed, walks, ?_⟩
  exact answers.validate ⟨1⟩ _ (Option.isSome_iff_exists.1 registered)

end Catalog

end ProvenShapes
