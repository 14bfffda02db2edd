/-
**What declarations do.**

A catalog comes about by declarations, some of which fail, and by documents, which may stop midway.
Here they are gathered in one type, and what a single declaration that succeeds adds to a catalog is
said once, with everything that was checked before it was added.  Documents are sequences of such
additions.  All that follows about catalogs is shown by induction on additions and opens no
declaration again.

Main definitions:

* `Declaration`, `Catalog.apply`, `Catalog.applyAll` — the declarations, and carrying them out;
* `Registry.Accepts` — the checks that a pattern has passed when it is registered;
* `Catalog.Adds` — what a declaration that succeeds adds to a catalog;
* `Catalog.Reaches` — any number of additions;
* `Catalog.Grows` — what is declared stays declared, in its order.

Main results:

* `Catalog.reaches_applyAll` — **every sequence of declarations is a sequence of additions**;
* `Catalog.Reaches.grows` — additions only make a catalog longer.
-/

import Mathlib.Logic.Relation
import ProvenShapes.Document.Apply
import ProvenShapes.Proofs.Operations

set_option autoImplicit false

namespace ProvenShapes

theorem map_eq_ok_iff {ε α β : Type} {x : Except ε α} {f : α → β} {b : β} :
    x.map f = .ok b ↔ ∃ a, x = .ok a ∧ f a = b := by
  cases x <;> simp [Except.map]

/-- One call that declares something, or a document of such calls. -/
inductive Declaration where
  | options (options : Options)
  | constraint (constraint : Constraint)
  | regex (id source : String)
  | kind (id : String)
  | pattern (name : Option String) (clauses : List Clause) (bases : List PatternId)
  | tag (id : String) (pattern : PatternId)
  | composite (name : String) (fields : List (String × PatternId))
  | attach (point : AttachmentPoint) (key : String) (value : Value)
  | document (d : Document)

namespace Catalog

/-- The catalog that comes of a declaration, or the same catalog if the declaration fails. -/
def settle (c : Catalog) : Except Error Catalog → Catalog × Except LoadError Unit
  | .ok d => (d, .ok ())
  | .error e => (c, .error (.refused none e))

/-- Carries out a declaration; gives the catalog with all that was declared. -/
def apply (c : Catalog) : Declaration → Catalog × Except LoadError Unit
  | .options options => ({ c with options }, .ok ())
  | .constraint constraint => c.settle (c.addConstraint constraint)
  | .regex id source => c.settle (c.addRegex id source)
  | .kind id => c.settle (c.declareKind id)
  | .pattern name clauses bases => c.settle ((c.registerPattern name clauses bases).map Prod.fst)
  | .tag id pattern => c.settle (c.declareTag id pattern)
  | .composite name fields => c.settle ((c.declareComposite name fields).map Prod.fst)
  | .attach point key value => c.settle (c.addTrait point key value)
  | .document d => c.addDocument d

/-- The catalog after some declarations, those that fail included. -/
def applyAll (c : Catalog) (ds : List Declaration) : Catalog :=
  ds.foldl (fun c d => (c.apply d).1) c

end Catalog

/-! ### Registration -/

namespace Registry

/-- A pattern has passed all checks of its registration: its name is free, its clauses refer to what
is declared, and the set of its clauses and bases has no contradiction. -/
structure Accepts (r : Registry) (scope : Scope) (name : Option String) (clauses : List Clause)
    (bases : List PatternId) (s : ClauseSet) : Prop where
  fresh : ∀ n, name = some n → r.lookup? n = none
  checked : r.checkReferences scope clauses = .ok ()
  united : r.canonicalize clauses bases = .ok s
  satisfiable : r.contradiction? s = none

variable {r r' : Registry} {scope : Scope} {name : Option String} {clauses : List Clause}
  {bases : List PatternId} {s : ClauseSet}

theorem Accepts.bounded (h : r.Accepts scope name clauses bases s) :
    ∀ c ∈ s.toList, c.rank ≤ r.size :=
  rank_le_of_canonicalize (rank_le_of_checkReferences h.checked) h.united

/-- A pattern that has passed all checks is put at the end. -/
theorem Accepts.register_eq (h : r.Accepts scope name clauses bases s)
    (named : name.elim (.ok ()) r.checkName = .ok ()) :
    r.register scope name clauses bases = .ok (r.push name s h.bounded, ⟨r.size⟩) := by
  unfold register
  rw [named]
  dsimp only
  split
  · next failed => simp [h.checked] at failed
  · split
    · next failed => simp [h.united] at failed
    · next united =>
        obtain rfl := Except.ok.inj (h.united.symm.trans united)
        split
        · next failed => simp [checkSatisfiable, h.satisfiable] at failed
        · rfl

theorem checkName_eq_ok {n : String} (h : r.checkName n = .ok ()) : r.lookup? n = none := by
  unfold checkName at h
  split at h
  · simp at h
  · split at h
    · simp at h
    · next free => simpa using free

/-- A registration that succeeds puts one accepted pattern at the end. -/
theorem register_eq_ok {id : PatternId} (h : r.register scope name clauses bases = .ok (r', id)) :
    ∃ (s : ClauseSet) (new : r.Accepts scope name clauses bases s),
      r' = r.push name s new.bounded ∧ id = ⟨r.size⟩ := by
  unfold register at h
  split at h
  · simp at h
  · next named =>
      split at h
      · simp at h
      · next checked =>
          split at h
          · simp at h
          · next s united =>
              split at h
              · simp at h
              · next satisfiable =>
                  have done := Prod.mk.inj (Except.ok.inj h)
                  refine ⟨s, ⟨?_, checked, united, ?_⟩, done.1.symm, done.2.symm⟩
                  · rintro n rfl
                    exact checkName_eq_ok named
                  · exact checkSatisfiable_eq_ok_iff.1 satisfiable

end Registry

/-! ### Additions -/

namespace Catalog

/-- What a declaration that succeeds adds to a catalog. -/
inductive Adds (c : Catalog) : Catalog → Prop
  | options (options : Options) : Adds c { c with options }
  | constraint {constraint : Constraint} (fresh : c.constraints.contains constraint.id = false) :
      Adds c { c with constraints := c.constraints ++ [constraint] }
  | kind {id : String} (fresh : id ∉ c.kinds) : Adds c { c with kinds := c.kinds ++ [id] }
  | pattern {name : Option String} {clauses : List Clause} {bases : List PatternId} {s : ClauseSet}
      (new : c.registry.Accepts c.scope name clauses bases s) :
      Adds c { c with registry := c.registry.push name s new.bounded }
  | tag {id : String} {pattern : PatternId} {s : ClauseSet} (fresh : c.tags.find? id = none)
      (known : c.registry.resolve? pattern = some s) :
      Adds c { c with tags := c.tags ++ [⟨id, pattern⟩] }
  | composite {name : String} {fields : List (String × PatternId)} {coMutation : CoMutation}
      {s : ClauseSet} (fresh : c.composite? name = none)
      (known : ∀ f ∈ fields, ∃ t, c.registry.resolve? f.2 = some t)
      (distinct : (fields.map Prod.fst).Nodup)
      (built : CoMutation.ofFields c.registry name fields = .ok coMutation)
      (new : c.registry.Accepts c.scope (some name) (Composite.recordClauses fields) [] s) :
      Adds c { c with
        registry := c.registry.push (some name) s new.bounded
        composites := c.composites ++ [⟨name, fields, ⟨c.registry.size⟩, coMutation⟩] }
  | attach {point : AttachmentPoint} {key : String} {value : Value}
      (fresh : c.traits.get? point key = none) (known : c.checkPoint point = .ok ()) :
      Adds c { c with
        traits := Keyed.put point (c.traits.ofPoint point ++ [(key, value)]) c.traits }

variable {c d : Catalog}

theorem adds_of_addConstraint {constraint : Constraint} (h : c.addConstraint constraint = .ok d) :
    c.Adds d := by
  obtain ⟨constraints, added, done⟩ := bind_eq_ok_iff.1 h
  obtain rfl := Except.ok.inj done
  unfold Constraints.add at added
  split at added
  · simp at added
  · split at added
    · simp at added
    · next fresh =>
        obtain rfl := Except.ok.inj added
        exact .constraint (by simpa using fresh)

theorem adds_of_addRegex {id source : String} (h : c.addRegex id source = .ok d) : c.Adds d := by
  obtain ⟨constraint, -, added⟩ := bind_eq_ok_iff.1 h
  exact adds_of_addConstraint added

theorem adds_of_declareKind {id : String} (h : c.declareKind id = .ok d) : c.Adds d := by
  obtain ⟨kinds, declared, done⟩ := bind_eq_ok_iff.1 h
  obtain rfl := Except.ok.inj done
  unfold Kinds.declare at declared
  split at declared
  · simp at declared
  · split at declared
    · simp at declared
    · next fresh =>
        obtain rfl := Except.ok.inj declared
        exact .kind (by simpa using fresh)

theorem registerPattern_eq_ok {name : Option String} {clauses : List Clause}
    {bases : List PatternId} {id : PatternId}
    (h : c.registerPattern name clauses bases = .ok (d, id)) :
    ∃ (s : ClauseSet) (new : c.registry.Accepts c.scope name clauses bases s),
      d = { c with registry := c.registry.push name s new.bounded } ∧
        id = ⟨c.registry.size⟩ := by
  obtain ⟨⟨registry, place⟩, registered, done⟩ := bind_eq_ok_iff.1 h
  obtain ⟨rfl, rfl⟩ := Prod.mk.inj (Except.ok.inj done)
  obtain ⟨s, new, rfl, rfl⟩ := Registry.register_eq_ok registered
  exact ⟨s, new, rfl, rfl⟩

theorem adds_of_registerPattern {name : Option String} {clauses : List Clause}
    {bases : List PatternId} {id : PatternId}
    (h : c.registerPattern name clauses bases = .ok (d, id)) : c.Adds d := by
  obtain ⟨s, new, rfl, -⟩ := registerPattern_eq_ok h
  exact .pattern new

theorem adds_of_declareTag {id : String} {pattern : PatternId}
    (h : c.declareTag id pattern = .ok d) : c.Adds d := by
  obtain ⟨tags, declared, done⟩ := bind_eq_ok_iff.1 h
  obtain rfl := Except.ok.inj done
  unfold Tags.declare at declared
  split at declared
  · simp at declared
  · split at declared
    · simp at declared
    · next fresh =>
        split at declared
        · next s known =>
            obtain rfl := Except.ok.inj declared
            exact .tag (by simpa using fresh) (Registry.resolve?_of_resolve known)
        · simp at declared

/-- Checked fields have registered patterns and distinct names. -/
theorem checkFields_eq_ok {composite : String} {seen : List String}
    {fields : List (String × PatternId)} (h : c.checkFields composite seen fields = .ok ()) :
    (∀ f ∈ fields, ∃ s, c.registry.resolve? f.2 = some s) ∧ (fields.map Prod.fst).Nodup ∧
      ∀ f ∈ fields, f.1 ∉ seen := by
  induction fields generalizing seen with
  | nil => simp
  | cons f rest ih =>
      obtain ⟨s, known, h⟩ := bind_eq_ok_iff.1 h
      split at h
      · simp at h
      · next new =>
          obtain ⟨resolved, distinct, unseen⟩ := ih h
          have here : ∃ s, c.registry.resolve? f.2 = some s :=
            ⟨s, Registry.resolve?_of_resolve known⟩
          refine ⟨List.forall_mem_cons.2 ⟨here, resolved⟩, ?_, ?_⟩
          · refine List.nodup_cons.2 ⟨fun again => ?_, distinct⟩
            obtain ⟨g, hg, same⟩ := List.mem_map.1 again
            exact unseen g hg (by simp [same])
          · refine List.forall_mem_cons.2 ⟨by simpa using new, fun g hg before => ?_⟩
            exact unseen g hg (List.mem_cons_of_mem _ before)

theorem adds_of_declareComposite {name : String} {fields : List (String × PatternId)}
    {id : PatternId} (h : c.declareComposite name fields = .ok (d, id)) : c.Adds d := by
  unfold declareComposite at h
  split at h
  · simp [bind, Except.bind] at h
  · next fresh =>
      obtain ⟨_, checked, h⟩ := bind_eq_ok_iff.1 h
      obtain ⟨coMutation, built, h⟩ := bind_eq_ok_iff.1 h
      obtain ⟨⟨e, pattern⟩, registered, done⟩ := bind_eq_ok_iff.1 h
      obtain ⟨rfl, rfl⟩ := Prod.mk.inj (Except.ok.inj done)
      obtain ⟨s, new, rfl, rfl⟩ := registerPattern_eq_ok registered
      have ⟨known, distinct, _⟩ := checkFields_eq_ok checked
      exact .composite (by simpa using fresh) known distinct built new

theorem adds_of_addTrait {point : AttachmentPoint} {key : String} {value : Value}
    (h : c.addTrait point key value = .ok d) : c.Adds d := by
  obtain ⟨_, known, h⟩ := bind_eq_ok_iff.1 h
  obtain ⟨traits, attached, done⟩ := bind_eq_ok_iff.1 h
  obtain rfl := Except.ok.inj done
  unfold Traits.attach at attached
  split at attached
  · simp at attached
  · split at attached
    · simp at attached
    · next fresh =>
        obtain rfl := Except.ok.inj attached
        exact .attach (by simpa using fresh) known

/-! ### Documents -/

theorem eq_ok_of_ofRefusal {α : Type} {x : Except Error α} {a : α}
    (h : LoadError.ofRefusal x = .ok a) : x = .ok a := by
  cases x with
  | ok b => exact congrArg _ (Except.ok.inj h)
  | error e => simp [LoadError.ofRefusal] at h

theorem adds_of_addPattern {name : String} {shape : Document.Shape}
    (h : Document.addPattern name shape c = .ok d) : c.Adds d := by
  obtain ⟨clauses, -, h⟩ := bind_eq_ok_iff.1 h
  obtain ⟨bases, -, h⟩ := bind_eq_ok_iff.1 h
  split at h
  · next registered =>
      obtain rfl := Except.ok.inj h
      exact adds_of_registerPattern registered
  · simp at h

theorem adds_of_addTag {id pattern : String} (h : Document.addTag id pattern c = .ok d) :
    c.Adds d := by
  obtain ⟨handle, -, declared⟩ := bind_eq_ok_iff.1 (eq_ok_of_ofRefusal h)
  exact adds_of_declareTag declared

theorem adds_of_addComposite {name : String} {record : Document.Record}
    (h : Document.addComposite name record c = .ok d) : c.Adds d := by
  obtain ⟨fields, -, h⟩ := bind_eq_ok_iff.1 (eq_ok_of_ofRefusal h)
  obtain ⟨⟨e, id⟩, declared, done⟩ := bind_eq_ok_iff.1 h
  obtain rfl := Except.ok.inj done
  exact adds_of_declareComposite declared

theorem adds_of_addNote {note : Document.Note} (h : Document.addNote note c = .ok d) :
    c.Adds d := by
  unfold Document.addNote at h
  have found := eq_ok_of_ofRefusal h
  split at found
  · obtain ⟨point, -, attached⟩ := bind_eq_ok_iff.1 found
    exact adds_of_addTrait attached
  · exact adds_of_addTrait found
  · exact adds_of_addTrait found

/-- Each declaration of a document adds to the catalog, if it succeeds. -/
theorem adds_of_mem_steps {document : Document} {step : Catalog → Except LoadError Catalog}
    (mem : step ∈ document.steps) (h : step c = .ok d) : c.Adds d := by
  simp only [Document.steps, List.mem_append, List.mem_map] at mem
  obtain (((((⟨options, -, rfl⟩ | ⟨entry, -, rfl⟩) | ⟨kind, -, rfl⟩) | ⟨entry, -, rfl⟩) |
    ⟨entry, -, rfl⟩) | ⟨entry, -, rfl⟩) | ⟨note, -, rfl⟩ := mem
  · obtain rfl := Except.ok.inj h
    exact .options options
  · exact adds_of_addRegex (eq_ok_of_ofRefusal h)
  · exact adds_of_declareKind (eq_ok_of_ofRefusal h)
  · exact adds_of_addPattern h
  · exact adds_of_addTag h
  · exact adds_of_addComposite h
  · exact adds_of_addNote h

/-! ### Sequences of declarations -/

/-- Any number of additions. -/
def Reaches : Catalog → Catalog → Prop := Relation.ReflTransGen Adds

theorem Reaches.refl : c.Reaches c := Relation.ReflTransGen.refl

/-- What a declaration that may fail leads to. -/
theorem reaches_settle {r : Except Error Catalog} (h : ∀ d, r = .ok d → c.Adds d) :
    c.Reaches (c.settle r).1 := by
  cases r with
  | ok d => exact Relation.ReflTransGen.single (h d rfl)
  | error e => exact .refl

theorem reaches_applySteps {steps : List (Catalog → Except LoadError Catalog)}
    (h : ∀ step ∈ steps, ∀ c d, step c = .ok d → c.Adds d) (c : Catalog) :
    c.Reaches (Document.applySteps c steps).1 := by
  induction steps generalizing c with
  | nil => exact .refl
  | cons step rest ih =>
      obtain ⟨first, later⟩ := List.forall_mem_cons.1 h
      rw [Document.applySteps]
      split
      · next d made => exact Relation.ReflTransGen.head (first c d made) (ih later d)
      · exact .refl

/-- A declaration, whether it fails or not, is a number of additions. -/
theorem reaches_apply (c : Catalog) (declaration : Declaration) :
    c.Reaches (c.apply declaration).1 := by
  cases declaration with
  | options options => exact Relation.ReflTransGen.single (.options options)
  | constraint constraint => exact reaches_settle fun _ => adds_of_addConstraint
  | regex id source => exact reaches_settle fun _ => adds_of_addRegex
  | kind id => exact reaches_settle fun _ => adds_of_declareKind
  | pattern name clauses bases =>
      refine reaches_settle fun d h => ?_
      obtain ⟨⟨e, id⟩, registered, rfl⟩ := map_eq_ok_iff.1 h
      exact adds_of_registerPattern registered
  | tag id pattern => exact reaches_settle fun _ => adds_of_declareTag
  | composite name fields =>
      refine reaches_settle fun d h => ?_
      obtain ⟨⟨e, id⟩, declared, rfl⟩ := map_eq_ok_iff.1 h
      exact adds_of_declareComposite declared
  | attach point key value => exact reaches_settle fun _ => adds_of_addTrait
  | document document =>
      exact reaches_applySteps (fun step mem _ _ made => adds_of_mem_steps mem made) c

/-- Every sequence of declarations is a sequence of additions. -/
theorem reaches_applyAll (c : Catalog) (ds : List Declaration) : c.Reaches (c.applyAll ds) := by
  induction ds generalizing c with
  | nil => exact .refl
  | cons d rest ih => exact Relation.ReflTransGen.trans (reaches_apply c d) (ih _)

/-- What holds at first and is kept by every addition holds of all that is reached. -/
theorem Reaches.induction {Q : Catalog → Prop} (h : c.Reaches d) (start : Q c)
    (step : ∀ {c d}, Adds c d → Q c → Q d) : Q d := by
  induction h with
  | refl => exact start
  | tail _ added ih => exact step added ih

/-! ### Growth -/

/-- What is declared stays declared, in its order. -/
structure Grows (c d : Catalog) : Prop where
  patterns : c.registry.patterns <+: d.registry.patterns := by exact List.prefix_rfl
  constraints : c.constraints <+: d.constraints := by exact List.prefix_rfl
  kinds : c.kinds <+: d.kinds := by exact List.prefix_rfl
  composites : c.composites <+: d.composites := by exact List.prefix_rfl

theorem Grows.trans {c d e : Catalog} (h : c.Grows d) (h' : d.Grows e) : c.Grows e :=
  ⟨h.patterns.trans h'.patterns, h.constraints.trans h'.constraints, h.kinds.trans h'.kinds,
    h.composites.trans h'.composites⟩

/-- An addition keeps what is declared. -/
theorem Adds.grows (h : c.Adds d) : c.Grows d := by
  cases h with
  | options options => exact {}
  | constraint fresh => exact { constraints := List.prefix_append _ _ }
  | kind fresh => exact { kinds := List.prefix_append _ _ }
  | pattern new => exact { patterns := List.prefix_append _ _ }
  | tag fresh known => exact {}
  | composite fresh known distinct built new =>
      exact { patterns := List.prefix_append _ _, composites := List.prefix_append _ _ }
  | attach fresh known => exact {}

/-- Additions only make a catalog longer. -/
theorem Reaches.grows (h : c.Reaches d) : c.Grows d :=
  h.induction {} fun added grown => grown.trans added.grows

end Catalog

end ProvenShapes
