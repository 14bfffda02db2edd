/-
**Closed catalogs.**

Whatever is declared, and whichever declarations fail, a catalog refers only to what it holds:
patterns refer to earlier patterns, clauses to declared constraints and kinds, tags, composites and
traits to what they name.  Names and named patterns correspond, and a composite is described by the
pattern of its name.

Main definitions:

* `Catalog.Covers` — what a clause names is declared;
* `Catalog.Closed` — **all that a catalog refers to is in it**.

Main results:

* `Catalog.Adds.closed` — each addition keeps a catalog closed;
* `Catalog.closed_applyAll` — every sequence of declarations leads to a closed catalog.
-/

import Mathlib.Data.List.Perm.Basic
import ProvenShapes.Proofs.Declarations

set_option autoImplicit false

namespace ProvenShapes

namespace Catalog

/-- What a clause names is declared. -/
def Covers (c : Catalog) : Clause → Prop
  | .satisfies id => c.constraints.contains id = true
  | .kindOf kind => kind ∈ c.kinds
  | .typeIs (.pattern id) | .field _ id => ∃ s, c.registry.resolve? id = some s
  | _ => True

/-- All that a catalog refers to is in it. -/
structure Closed (c : Catalog) : Prop where
  /-- A pattern refers only to patterns before it. -/
  acyclic : ∀ i p, c.registry.patterns[i]? = some p → ∀ clause ∈ p.clauses.toList,
    ∀ id : PatternId, clause.reference? = some id → id.index < i
  /-- What the clauses of a pattern name is declared. -/
  covered : ∀ id s, c.registry.resolve? id = some s → ∀ clause ∈ s.toList, c.Covers clause
  /-- A name leads to the one pattern that has it. -/
  named : ∀ name id,
    c.registry.lookup? name = some id ↔ ∃ p, c.registry.get? id = some p ∧ p.name = some name
  tags : ∀ t ∈ c.tags, ∃ s, c.registry.resolve? t.pattern = some s
  fields : ∀ d ∈ c.composites, ∀ f ∈ d.fields, ∃ s, c.registry.resolve? f.2 = some s
  /-- A composite is described by the pattern of its name: an object, and a clause for each field. -/
  records : ∀ d ∈ c.composites, c.registry.lookup? d.name = some d.pattern ∧
    ∃ s, c.registry.resolve? d.pattern = some s ∧ s.toList.Perm (Composite.recordClauses d.fields)
  /-- Traits are attached to what is declared. -/
  points : ∀ entry ∈ c.traits, c.checkPoint entry.1 = .ok ()

end Catalog

/-! ### References are covered -/

namespace Registry

variable {r : Registry} {id : PatternId} {s : ClauseSet}

theorem resolve_of_resolve? (h : r.resolve? id = some s) : r.resolve id = .ok s := by
  rw [resolve, h]

end Registry

namespace Catalog

variable {c d : Catalog} {clause : Clause}

/-- The pattern that a covered clause refers to is registered. -/
theorem Covers.exists_resolve? {id : PatternId} (covered : c.Covers clause)
    (refers : clause.reference? = some id) : ∃ s, c.registry.resolve? id = some s := by
  cases clause with
  | typeIs type =>
      cases type with
      | primitive t => simp [Clause.reference?] at refers
      | pattern id' => exact Option.some.inj refers ▸ covered
  | field name id' => exact Option.some.inj refers ▸ covered
  | _ => simp [Clause.reference?] at refers

theorem checkReference_eq_ok_iff :
    c.registry.checkReference c.scope clause = .ok () ↔ c.Covers clause := by
  cases clause with
  | typeIs type =>
      cases type with
      | primitive t => simp [Registry.checkReference, Covers]
      | pattern id =>
          cases known : c.registry.resolve? id <;>
            simp [Registry.checkReference, Registry.resolve, Covers, known]
  | field name id =>
      cases known : c.registry.resolve? id <;>
        simp [Registry.checkReference, Registry.resolve, Covers, known]
  | satisfies id =>
      by_cases declared : c.constraints.contains id = true <;>
        simp [Registry.checkReference, Covers, scope, declared]
  | kindOf kind => simp [Registry.checkReference, Covers, scope]
  | _ => simp [Registry.checkReference, Covers]

theorem checkReferences_eq_ok_iff {clauses : List Clause} :
    c.registry.checkReferences c.scope clauses = .ok () ↔ ∀ clause ∈ clauses, c.Covers clause := by
  induction clauses with
  | nil => simp [Registry.checkReferences]
  | cons clause rest ih =>
      rw [Registry.checkReferences, List.forall_mem_cons, ← checkReference_eq_ok_iff, ← ih]
      cases c.registry.checkReference c.scope clause <;> simp

/-- Clauses that bases and checked clauses bring along are covered. -/
theorem covers_of_uniteBases {bases : List PatternId} {s t : ClauseSet}
    (closed : ∀ id s, c.registry.resolve? id = some s → ∀ clause ∈ s.toList, c.Covers clause)
    (hs : ∀ clause ∈ s.toList, c.Covers clause) (h : c.registry.uniteBases s bases = .ok t) :
    ∀ clause ∈ t.toList, c.Covers clause := by
  induction bases generalizing s with
  | nil => exact Except.ok.inj h ▸ hs
  | cons base rest ih =>
      unfold Registry.uniteBases at h
      split at h
      · next u known =>
          refine ih (fun clause mem => ?_) h
          rcases ClauseSet.mem_union mem with mem | mem
          · exact hs clause mem
          · exact closed base u (Registry.resolve?_of_resolve known) clause mem
      · simp at h

theorem covers_of_accepts {name : Option String} {clauses : List Clause} {bases : List PatternId}
    {s : ClauseSet} (closed : c.Closed) (new : c.registry.Accepts c.scope name clauses bases s) :
    ∀ clause ∈ s.toList, c.Covers clause := by
  have united := new.united
  unfold Registry.canonicalize at united
  split at united
  · next t based =>
      have base := covers_of_uniteBases closed.covered (by simp [ClauseSet.empty]) based
      intro clause mem
      rw [← Except.ok.inj united] at mem
      rcases ClauseSet.mem_extend mem with mem | mem
      · exact checkReferences_eq_ok_iff.1 new.checked clause mem
      · exact base clause mem
  · simp at united

/-! ### Growth keeps what is known -/

namespace Grows

variable {id : PatternId}

theorem get? {p : Pattern} (h : c.Grows d) (known : c.registry.get? id = some p) :
    d.registry.get? id = some p := by
  obtain ⟨more, longer⟩ := h.patterns
  have place := (List.getElem?_eq_some_iff.1 known).1
  rw [Registry.get?, ← longer, List.getElem?_append_left place]
  exact known

theorem resolve? {s : ClauseSet} (h : c.Grows d) (known : c.registry.resolve? id = some s) :
    d.registry.resolve? id = some s := by
  obtain ⟨p, found, rfl⟩ := Option.map_eq_some_iff.1 known
  exact Option.map_eq_some_iff.2 ⟨p, h.get? found, rfl⟩

theorem lookup? {name : String} (h : c.Grows d) (known : c.registry.lookup? name = some id) :
    d.registry.lookup? name = some id := by
  obtain ⟨more, longer⟩ := h.patterns
  have names : d.registry.names = c.registry.names ++ more.filterMap Pattern.entry? := by
    rw [d.registry.named, c.registry.named, ← longer, List.filterMap_append]
  rw [Registry.lookup?] at known ⊢
  rw [names, Keyed.find?_append, known]
  rfl

theorem constraint? {name : String} {constraint : Constraint} (h : c.Grows d)
    (known : c.constraints.find? name = some constraint) :
    d.constraints.find? name = some constraint :=
  h.constraints.find?_eq_some known

theorem covers (h : c.Grows d) (covered : c.Covers clause) : d.Covers clause := by
  cases clause with
  | typeIs type =>
      cases type with
      | primitive t => trivial
      | pattern id => exact covered.imp fun _ => h.resolve?
  | field name id => exact covered.imp fun _ => h.resolve?
  | satisfies id =>
      obtain ⟨constraint, found⟩ := Option.isSome_iff_exists.1 covered
      exact Option.isSome_iff_exists.2 ⟨constraint, h.constraint? found⟩
  | kindOf kind => exact h.kinds.subset covered
  | _ => trivial

theorem checkPoint {point : AttachmentPoint} (h : c.Grows d) (known : c.checkPoint point = .ok ()) :
    d.checkPoint point = .ok () := by
  cases point with
  | pattern id =>
      obtain ⟨s, found, -⟩ := bind_eq_ok_iff.1 known
      refine bind_eq_ok_iff.2 ⟨s, ?_, rfl⟩
      exact Registry.resolve_of_resolve? (h.resolve? (Registry.resolve?_of_resolve found))
  | kind name =>
      have declared : name ∈ c.kinds := by simpa [Catalog.checkPoint] using known
      simp [Catalog.checkPoint, h.kinds.subset declared]
  | field composite name =>
      obtain ⟨x, found, rest⟩ := bind_eq_ok_iff.1 known
      refine bind_eq_ok_iff.2 ⟨x, ?_, rest⟩
      unfold Catalog.composite at found ⊢
      split at found
      · next present =>
          obtain rfl := Except.ok.inj found
          rw [Catalog.composite?, h.composites.find?_eq_some present]
      · simp at found

end Grows

/-! ### Additions keep catalogs closed -/

/-- A catalog stays closed when what is new in it refers to what was there. -/
theorem Closed.grow (closed : c.Closed) (grows : c.Grows d)
    (patterns : ∀ id s, d.registry.resolve? id = some s →
      c.registry.resolve? id = some s ∨ ∀ clause ∈ s.toList, c.Covers clause)
    (named : ∀ name id p, d.registry.get? id = some p → p.name = some name →
      d.registry.lookup? name = some id)
    (tags : ∀ t ∈ d.tags, t ∈ c.tags ∨ ∃ s, c.registry.resolve? t.pattern = some s)
    (composites : ∀ x ∈ d.composites, x ∈ c.composites ∨
      (∀ f ∈ x.fields, ∃ s, c.registry.resolve? f.2 = some s) ∧
        d.registry.lookup? x.name = some x.pattern ∧ ∃ s, d.registry.resolve? x.pattern = some s ∧
          s.toList.Perm (Composite.recordClauses x.fields))
    (points : ∀ entry ∈ d.traits, (∃ old ∈ c.traits, old.1 = entry.1) ∨
      c.checkPoint entry.1 = .ok ()) : d.Closed where
  acyclic i p found clause mem id ref := by
    have bound := d.registry.acyclic i p found clause mem
    rw [Clause.rank_eq_of_reference? ref] at bound
    exact bound
  covered id s known clause mem := by
    rcases patterns id s known with old | new
    · exact grows.covers (closed.covered id s old clause mem)
    · exact grows.covers (new clause mem)
  named name id := by
    exact ⟨fun found => Registry.mem_names_iff.1 (Keyed.mem_of_find? found),
      fun ⟨p, found, name⟩ => named _ id p found name⟩
  tags t mem := by
    have known := (tags t mem).elim (closed.tags t) id
    exact known.imp fun _ => grows.resolve?
  fields x mem f hf := by
    have known := (composites x mem).elim (closed.fields x · f hf) fun new => new.1 f hf
    exact known.imp fun _ => grows.resolve?
  records x mem := by
    rcases composites x mem with old | new
    · obtain ⟨named, s, known, perm⟩ := closed.records x old
      exact ⟨grows.lookup? named, s, grows.resolve? known, perm⟩
    · exact new.2
  points entry mem := by
    rcases points entry mem with ⟨old, there, same⟩ | new
    · exact grows.checkPoint (same ▸ closed.points old there)
    · exact grows.checkPoint new

end Catalog

namespace Registry

variable {r : Registry} {label : Option String} {s : ClauseSet}
  {bounded : ∀ c ∈ s.toList, c.rank ≤ r.size}

theorem get?_push {id : PatternId} :
    (r.push label s bounded).get? id =
      if id.index = r.size then some ⟨id, label, s⟩ else r.get? id := by
  show (r.patterns ++ [⟨⟨r.size⟩, label, s⟩])[id.index]? = _
  rw [List.getElem?_append, size]
  split
  · next before => rw [if_neg (Nat.ne_of_lt before)]; rfl
  · next after =>
      split
      · next last => simp [← last]
      · next beyond =>
          rw [get?, List.getElem?_eq_none (by simp; omega), List.getElem?_eq_none (by omega)]

theorem resolve?_push {id : PatternId} :
    (r.push label s bounded).resolve? id =
      if id.index = r.size then some s else r.resolve? id := by
  rw [resolve?, get?_push]
  split <;> rfl

/-- What resolves after a registration did so before, or is the new pattern. -/
theorem resolve?_push_cases (bounded : ∀ c ∈ s.toList, c.rank ≤ r.size) {id : PatternId}
    {t : ClauseSet} (known : (r.push label s bounded).resolve? id = some t) :
    r.resolve? id = some t ∨ t = s := by
  rw [resolve?_push] at known
  split at known
  · exact .inr (Option.some.inj known).symm
  · exact .inl known

variable (bounded)

theorem lookup?_push {name : String} (free : r.lookup? name = none) :
    (r.push (some name) s bounded).lookup? name = some ⟨r.size⟩ := by
  show Keyed.find? name (r.names ++ [(name, ⟨r.size⟩)]) = _
  rw [lookup?] at free
  rw [Keyed.find?_append, free]
  simp [Keyed.find?]

/-- Names that are there stay with their patterns. -/
theorem lookup?_push_of_some {name : String} {id : PatternId} (known : r.lookup? name = some id) :
    (r.push label s bounded).lookup? name = some id := by
  rw [lookup?] at known
  cases label with
  | none => exact known
  | some n =>
      show Keyed.find? name (r.names ++ [(n, ⟨r.size⟩)]) = _
      rw [Keyed.find?_append, known]
      rfl

/-- Names stay in correspondence with patterns when the name of a new pattern is free. -/
theorem lookup?_push_of_get? {name : String} {id : PatternId} {q : Pattern}
    (before : ∀ q, r.get? id = some q → q.name = some name → r.lookup? name = some id)
    (free : ∀ n, label = some n → r.lookup? n = none)
    (found : (r.push label s bounded).get? id = some q) (named : q.name = some name) :
    (r.push label s bounded).lookup? name = some id := by
  rw [get?_push] at found
  split at found
  · next last =>
      obtain rfl := Option.some.inj found
      obtain rfl : label = some name := named
      rw [lookup?_push bounded (free name rfl), ← last]
  · exact lookup?_push_of_some bounded (before q found named)

end Registry

/-! ### The pattern of a composite -/

theorem ClauseSet.nodup (s : ClauseSet) : s.toList.Nodup := by
  refine s.ascending.imp fun {a b} lt same => ?_
  subst same
  simp [Std.ReflCmp.compare_self] at lt

theorem Composite.nodup_recordClauses {fields : List (String × PatternId)}
    (distinct : (fields.map Prod.fst).Nodup) : (recordClauses fields).Nodup := by
  refine List.nodup_cons.2 ⟨by simp, ?_⟩
  refine List.pairwise_map.2 ((List.pairwise_map.1 distinct).imp fun {f g} apart same => ?_)
  exact apart (Clause.field.inj same).1

/-- The pattern of a composite has just the clauses that describe its instances. -/
theorem Registry.perm_recordClauses {r : Registry} {fields : List (String × PatternId)}
    {s : ClauseSet} (distinct : (fields.map Prod.fst).Nodup)
    (united : r.canonicalize (Composite.recordClauses fields) [] = .ok s) :
    s.toList.Perm (Composite.recordClauses fields) := by
  obtain rfl : ClauseSet.empty.extend (Composite.recordClauses fields) = s := Except.ok.inj united
  refine (List.perm_ext_iff_of_nodup (ClauseSet.nodup _)
    (Composite.nodup_recordClauses distinct)).2 fun c => ⟨fun mem => ?_, fun mem => ?_⟩
  · rcases ClauseSet.mem_extend mem with mem | mem
    · exact mem
    · simp [ClauseSet.empty] at mem
  · have plain : ∀ op bound, c ≠ .value op bound := by
      rintro op bound rfl
      simp [Composite.recordClauses] at mem
    exact (ClauseSet.contains_iff_mem plain).1
      (ClauseSet.contains_extend.2 (.inl ⟨c, mem, c.beq_refl⟩))

instance : Std.LawfulEqOrd AttachmentPoint where
  eq_of_compare {x y} same := by
    have parts : compare x.sort y.sort = .eq ∧ compare x.place y.place = .eq ∧
        compare x.names y.names = .eq := by
      simpa [compare, AttachmentPoint.compare, compareLex, compareOn, Ordering.then_eq_eq] using same
    have sort : x.sort = y.sort := Std.LawfulEqCmp.eq_of_compare parts.1
    have place : x.place = y.place := Std.LawfulEqCmp.eq_of_compare parts.2.1
    have names : x.names = y.names := Std.LawfulEqCmp.eq_of_compare parts.2.2
    obtain ⟨⟨i⟩⟩ | ⟨composite, name⟩ | ⟨name⟩ := x <;>
      obtain ⟨⟨j⟩⟩ | ⟨composite', name'⟩ | ⟨name'⟩ := y <;>
      simp_all [AttachmentPoint.sort, AttachmentPoint.place, AttachmentPoint.names]

namespace Catalog

variable {c d : Catalog}

/-- A pattern of a catalog after an addition was there before, or was accepted. -/
theorem Adds.resolve?_cases (h : c.Adds d) {id : PatternId} {s : ClauseSet}
    (known : d.registry.resolve? id = some s) :
    c.registry.resolve? id = some s ∨
      ∃ name clauses bases, c.registry.Accepts c.scope name clauses bases s := by
  cases h with
  | pattern new =>
      refine (Registry.resolve?_push_cases new.bounded known).imp_right ?_
      rintro rfl
      exact ⟨_, _, _, new⟩
  | composite fresh resolved distinct built new =>
      refine (Registry.resolve?_push_cases new.bounded known).imp_right ?_
      rintro rfl
      exact ⟨_, _, _, new⟩
  | _ => exact .inl known

/-- A name leads to its pattern after an addition, if it did so before. -/
theorem Adds.lookup?_of_get? (h : c.Adds d)
    (before : ∀ name id p, c.registry.get? id = some p → p.name = some name →
      c.registry.lookup? name = some id) {name : String} {id : PatternId} {p : Pattern}
    (found : d.registry.get? id = some p) (named : p.name = some name) :
    d.registry.lookup? name = some id := by
  cases h with
  | pattern new =>
      exact Registry.lookup?_push_of_get? new.bounded (before name id) new.fresh found named
  | composite fresh resolved distinct built new =>
      exact Registry.lookup?_push_of_get? new.bounded (before name id) new.fresh found named
  | _ => exact before name id p found named

theorem Adds.mem_tags (h : c.Adds d) {t : Tag} (mem : t ∈ d.tags) :
    t ∈ c.tags ∨ ∃ s, c.registry.resolve? t.pattern = some s := by
  cases h with
  | tag fresh known =>
      refine (List.mem_append.1 mem).imp_right fun new => ?_
      obtain rfl := List.mem_singleton.1 new
      exact ⟨_, known⟩
  | _ => exact .inl mem

theorem Adds.mem_composites (h : c.Adds d) {x : Composite} (mem : x ∈ d.composites) :
    x ∈ c.composites ∨ (∀ f ∈ x.fields, ∃ s, c.registry.resolve? f.2 = some s) ∧
      d.registry.lookup? x.name = some x.pattern ∧ ∃ s, d.registry.resolve? x.pattern = some s ∧
        s.toList.Perm (Composite.recordClauses x.fields) := by
  cases h with
  | @composite name fields coMutation s fresh resolved distinct built new =>
      refine (List.mem_append.1 mem).imp_right fun last => ?_
      obtain rfl := List.mem_singleton.1 last
      refine ⟨resolved, Registry.lookup?_push new.bounded (new.fresh name rfl), s, ?_, ?_⟩
      · rw [Registry.resolve?_push, if_pos rfl]
      · exact Registry.perm_recordClauses distinct new.united
  | _ => exact .inl mem

theorem Adds.mem_traits (h : c.Adds d) {entry : AttachmentPoint × List (String × Value)}
    (mem : entry ∈ d.traits) :
    (∃ old ∈ c.traits, old.1 = entry.1) ∨ c.checkPoint entry.1 = .ok () := by
  cases h with
  | attach fresh known =>
      rcases Keyed.mem_put mem with rfl | old
      · exact .inr known
      · exact .inl ⟨entry, old, rfl⟩
  | _ => exact .inl ⟨entry, mem, rfl⟩

/-- An addition keeps a catalog closed. -/
theorem Adds.closed (h : c.Adds d) (closed : c.Closed) : d.Closed := by
  have patterns : ∀ id s, d.registry.resolve? id = some s →
      c.registry.resolve? id = some s ∨ ∀ clause ∈ s.toList, c.Covers clause := by
    intro id s known
    refine (h.resolve?_cases known).imp_right ?_
    rintro ⟨name, clauses, bases, new⟩
    exact covers_of_accepts closed new
  have named : ∀ name id p, c.registry.get? id = some p → p.name = some name →
      c.registry.lookup? name = some id := by
    intro name id p found named
    exact (closed.named name id).2 ⟨p, found, named⟩
  exact closed.grow h.grows patterns (fun _ _ _ => h.lookup?_of_get? named) (fun _ => h.mem_tags)
    (fun _ => h.mem_composites) fun _ => h.mem_traits

theorem closed_empty : empty.Closed where
  acyclic i p found := by simp [empty, Registry.empty] at found
  covered id s known := by simp [empty, Registry.empty, Registry.resolve?, Registry.get?] at known
  named name id := by simp [empty, Registry.empty, Registry.lookup?, Registry.get?, Keyed.find?]
  tags t mem := by simp [empty] at mem
  fields x mem := by simp [empty] at mem
  records x mem := by simp [empty] at mem
  points entry mem := by simp [empty] at mem

/-- Every sequence of declarations leads to a closed catalog. -/
theorem closed_applyAll (ds : List Declaration) : (empty.applyAll ds).Closed :=
  (reaches_applyAll empty ds).induction closed_empty fun added => added.closed

end Catalog

end ProvenShapes
