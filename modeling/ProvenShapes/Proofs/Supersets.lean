/-
**Adding clauses hides no contradiction.**

The search for contradictions goes through the pairs of a set in their order, and then through the
kinds that the set pins by path.  Neither loses anything when clauses are added: a pair of clauses
keeps its order in every set that contains both, whether it is in conflict depends on the pair and
on the patterns alone, and what is pinned stays pinned.  So the sets without a contradiction are
closed under taking clauses away.

This is what makes it enough to check a pattern once, when it is registered.  Its set contains those
of its bases, and of their bases in turn, and the clauses that a conversion has to establish contain
those of the declared pattern.

Main definitions:

* `Catalog.BaseOf` — a pattern was registered with another one as a base;
* `Checker.Contradicts` — clauses of a conversion contradict the declared pattern.

Main results:

* `Registry.contradiction?_eq_none_iff` — a set has no contradiction just when no two of its clauses
  are in conflict and no path has two kinds;
* `Registry.contradiction?_eq_none_of_isSubset` — **a set without a contradiction has no subset with
  one**;
* `Catalog.isSubset_of_transGen_baseOf` — the set of a pattern contains those of all its bases;
* `Checker.Contradicts.planNarrowing_eq`, `Checker.Contradicts.planConversion_ne_ok` — such a
  conversion is never planned;
* `Catalog.adding_clauses_hides_no_contradiction` — all of this together.
-/

import ProvenShapes.Proofs.Canonical
import ProvenShapes.Proofs.Lookups
import ProvenShapes.Proofs.Stability

set_option autoImplicit false

namespace ProvenShapes

namespace ClauseSet

variable {s t u : ClauseSet}

theorem isSubset_iff_contains :
    s.isSubset t = true ↔ ∀ c, s.contains c = true → t.contains c = true := by
  constructor
  · intro sub c
    exact contains_of_isSubset sub
  · intro sub
    exact isSubset_iff.2 fun c mem => sub c (contains_of_mem mem)

theorem isSubset_trans (first : s.isSubset t = true) (second : t.isSubset u = true) :
    s.isSubset u = true := by
  rw [isSubset_iff_contains] at *
  intro c within
  exact second c (first c within)

theorem isSubset_union_iff :
    u.isSubset (s.union t) = true ↔
      ∀ c ∈ u.toList, s.contains c = true ∨ t.contains c = true := by
  simp only [isSubset_iff, contains_union]

end ClauseSet

/-! ### Pairs of an ascending list -/

/-- Two members of an ascending list are a pair of it in their order. -/
theorem mem_pairs_of_lt {l : List Clause} (ascending : l.Pairwise fun a b => compare a b = .lt)
    {a b : Clause} (ha : a ∈ l) (hb : b ∈ l) (before : compare a b = .lt) : (a, b) ∈ pairs l := by
  induction l with
  | nil => simp at ha
  | cons d rest ih =>
      obtain ⟨first, tail⟩ := List.pairwise_cons.1 ascending
      refine List.mem_append.2 ?_
      rcases List.mem_cons.1 hb with rfl | later
      · -- nothing stands before the first member
        rcases List.mem_cons.1 ha with rfl | ha
        · simp at before
        · have after := Std.OrientedCmp.gt_of_lt (first a ha)
          simp [before] at after
      · rcases List.mem_cons.1 ha with rfl | ha
        · exact .inl (List.mem_map.2 ⟨b, later, rfl⟩)
        · exact .inr (ih tail ha later)

/-- The pairs of a set are, up to equality, pairs of every set that contains it. -/
theorem exists_samePair_of_isSubset {s t : ClauseSet} (sub : s.isSubset t = true)
    {p : Clause × Clause} (mem : p ∈ pairs s.toList) :
    ∃ q ∈ pairs t.toList, Clause.SamePair p q := by
  obtain ⟨ha, hb⟩ := mem_of_mem_pairs mem
  obtain ⟨a, ha', first⟩ := ClauseSet.contains_iff.1 (ClauseSet.isSubset_iff.1 sub _ ha)
  obtain ⟨b, hb', second⟩ := ClauseSet.contains_iff.1 (ClauseSet.isSubset_iff.1 sub _ hb)
  have before : compare p.1 p.2 = .lt := rel_of_mem_pairs s.ascending mem
  have left : compare a p.1 = .eq := Std.OrientedCmp.eq_symm (beq_iff_eq.1 first)
  have right : compare p.2 b = .eq := beq_iff_eq.1 second
  have kept : compare a b = .lt :=
    Std.TransCmp.lt_of_eq_of_lt left (Std.TransCmp.lt_of_lt_of_eq before right)
  exact ⟨(a, b), mem_pairs_of_lt t.ascending ha' hb' kept, first, second⟩

/-! ### Sets without a contradiction -/

namespace Registry

variable {r : Registry} {s t : ClauseSet}

theorem kindClash?_eq_none_iff : kindClash? (r.effectiveKinds s) = none ↔ r.OneKind s := by
  rw [oneKind_iff_length_le, kindClash?, List.findSome?_eq_none_iff]
  refine forall₂_congr fun entry _ => ?_
  obtain ⟨path, kinds⟩ := entry
  match kinds with
  | [] | [_] | _ :: _ :: _ => simp

/-- A set has no contradiction just when no two of its clauses are in conflict and it pins no two
kinds at one path. -/
theorem contradiction?_eq_none_iff :
    r.contradiction? s = none ↔
      (∀ p ∈ pairs s.toList, r.conflicts p = false) ∧ r.OneKind s := by
  rw [contradiction?_eq, ← kindClash?_eq_none_iff]
  cases found : (pairs s.toList).find? r.conflicts with
  | some pair =>
      have mem := List.mem_of_find?_eq_some found
      have conflict := List.find?_some found
      simp only [reduceCtorEq, false_iff, not_and]
      intro free
      simp [free pair mem] at conflict
  | none =>
      have free : ∀ p ∈ pairs s.toList, r.conflicts p = false := by
        simpa using List.find?_eq_none.1 found
      exact ⟨fun clear => ⟨free, clear⟩, And.right⟩

theorem Pins.of_isSubset {path : List String} {kind : String} (sub : s.isSubset t = true)
    (h : r.Pins s path kind) : r.Pins t path kind := by
  obtain ⟨c, within, pinned⟩ := pins_iff_contains.1 h
  exact pins_iff_contains.2 ⟨c, ClauseSet.contains_of_isSubset sub within, pinned⟩

/-- A set without a contradiction has no subset with one. -/
theorem contradiction?_eq_none_of_isSubset (sub : s.isSubset t = true)
    (h : r.contradiction? t = none) : r.contradiction? s = none := by
  obtain ⟨free, one⟩ := contradiction?_eq_none_iff.1 h
  refine contradiction?_eq_none_iff.2 ⟨?_, ?_⟩
  · intro p mem
    obtain ⟨q, mem', same⟩ := exists_samePair_of_isSubset sub mem
    rw [conflicts_congr same]
    exact free q mem'
  · intro path k l hk hl
    exact one path k l (hk.of_isSubset sub) (hl.of_isSubset sub)

theorem isSome_contradiction?_of_isSubset (sub : s.isSubset t = true)
    (h : (r.contradiction? s).isSome = true) : (r.contradiction? t).isSome = true := by
  rw [Option.isSome_iff_ne_none] at *
  intro clear
  exact h (contradiction?_eq_none_of_isSubset sub clear)

/-! ### Bases -/

/-- What a set and some bases contain is contained in their union. -/
theorem isSubset_of_uniteBases {bases : List PatternId} {u : ClauseSet}
    (h : r.uniteBases s bases = .ok u) :
    s.isSubset u = true ∧
      ∀ base ∈ bases, ∃ t, r.resolve? base = some t ∧ t.isSubset u = true := by
  induction bases generalizing s with
  | nil =>
      obtain rfl := Except.ok.inj h
      exact ⟨s.isSubset_refl, by simp⟩
  | cons base rest ih =>
      unfold uniteBases at h
      split at h
      · next t known =>
          obtain ⟨whole, later⟩ := ih h
          have sub : ∀ {v : ClauseSet}, (∀ c ∈ v.toList, s.contains c = true ∨ t.contains c = true) →
              v.isSubset u = true := fun parts =>
            ClauseSet.isSubset_trans (ClauseSet.isSubset_union_iff.2 parts) whole
          refine ⟨sub fun c mem => .inl (ClauseSet.contains_of_mem mem), ?_⟩
          refine List.forall_mem_cons.2 ⟨⟨t, resolve?_of_resolve known, ?_⟩, later⟩
          exact sub fun c mem => .inr (ClauseSet.contains_of_mem mem)
      · simp at h

theorem isSubset_of_canonicalize {clauses : List Clause} {bases : List PatternId}
    (h : r.canonicalize clauses bases = .ok s) :
    ∀ base ∈ bases, ∃ t, r.resolve? base = some t ∧ t.isSubset s = true := by
  unfold canonicalize at h
  split at h
  · next u united =>
      obtain rfl := Except.ok.inj h
      intro base mem
      obtain ⟨t, known, sub⟩ := (isSubset_of_uniteBases united).2 base mem
      refine ⟨t, known, ClauseSet.isSubset_trans sub ?_⟩
      rw [ClauseSet.isSubset_iff_contains]
      intro c within
      exact ClauseSet.contains_extend.2 (.inr within)
  · simp at h

end Registry

namespace Catalog

variable {c : Catalog} {base id : PatternId}

/-- On the way to the catalog, a pattern was registered with another one among its bases. -/
def BaseOf (c : Catalog) (base id : PatternId) : Prop :=
  ∃ (before after : Catalog) (name : Option String) (clauses : List Clause) (bases : List PatternId),
    empty.Reaches before ∧ before.registerPattern name clauses bases = .ok (after, id) ∧
      base ∈ bases ∧ after.Reaches c

theorem BaseOf.isSubset (h : c.BaseOf base id) :
    ∃ s t, c.registry.resolve? base = some s ∧ c.registry.resolve? id = some t ∧
      s.isSubset t = true := by
  obtain ⟨before, after, name, clauses, bases, -, registered, mem, later⟩ := h
  obtain ⟨t, new, rfl, rfl⟩ := registerPattern_eq_ok registered
  obtain ⟨s, known, sub⟩ := Registry.isSubset_of_canonicalize new.united base mem
  have grown := (Adds.pattern new).grows.trans later.grows
  refine ⟨s, t, grown.resolve? known, later.grows.resolve? ?_, sub⟩
  rw [Registry.resolve?_push, if_pos rfl]

/-- The set of a pattern contains those of its bases, of their bases, and so on. -/
theorem isSubset_of_transGen_baseOf (h : Relation.TransGen c.BaseOf base id) :
    ∃ s t, c.registry.resolve? base = some s ∧ c.registry.resolve? id = some t ∧
      s.isSubset t = true := by
  induction h with
  | single one => exact one.isSubset
  | tail _ last ih =>
      obtain ⟨s, t, first, second, sub⟩ := ih
      obtain ⟨t', u, second', third, sub'⟩ := last.isSubset
      obtain rfl := Option.some.inj (second.symm.trans second')
      exact ⟨s, u, first, third, ClauseSet.isSubset_trans sub sub'⟩

/-- A declaration that registers a pattern makes it rest on its bases, whatever is declared later. -/
theorem baseOf_applyAll {before after : List Declaration} {name : Option String}
    {clauses : List Clause} {bases : List PatternId} {place : Nat}
    (registered : ((empty.applyAll before).registerPattern name clauses bases).isOk = true)
    (last : (empty.applyAll before).registry.size = place) (mem : base ∈ bases) :
    (empty.applyAll (before ++ .pattern name clauses bases :: after)).BaseOf base ⟨place⟩ := by
  obtain ⟨⟨d, id⟩, made⟩ := isOk_iff.1 registered
  have next : ((empty.applyAll before).apply (.pattern name clauses bases)).1 = d := by
    simp only [apply, made]
    rfl
  have later : d.Reaches (empty.applyAll (before ++ .pattern name clauses bases :: after)) := by
    simp only [applyAll, List.foldl_append, List.foldl_cons] at next ⊢
    rw [next]
    exact reaches_applyAll d after
  obtain ⟨s, new, -, rfl⟩ := registerPattern_eq_ok made
  rw [last] at made
  exact ⟨_, d, name, clauses, bases, reaches_applyAll empty before, made, mem, later⟩

end Catalog

/-! ### Conversions -/

namespace Checker

variable {k : Checker} {name : String} {conversion : Conversion}

/-- Some of the clauses that a binding declares and that a conversion asks for contradict each
other. -/
def Contradicts (k : Checker) (name : String) (conversion : Conversion) : Prop :=
  ∃ b declared asked u, k.binding name = .ok b ∧
    k.catalog.registry.resolve b.declared = .ok declared ∧
    k.conversionClauses conversion = .ok asked ∧
    (∀ c ∈ ClauseSet.toList u, declared.contains c = true ∨ asked.contains c = true) ∧
    (k.catalog.registry.contradiction? u).isSome = true

theorem Contradicts.exists_refused (h : k.Contradicts name conversion) :
    ∃ all first second, k.required name conversion = .ok all ∧
      ∀ mode known, k.plan name mode known all = .error (.contradictory name first second) := by
  obtain ⟨b, declared, asked, u, bound, resolved, converts, parts, found⟩ := h
  have sub := ClauseSet.isSubset_union_iff.2 parts
  obtain ⟨⟨first, second⟩, clash⟩ :=
    Option.isSome_iff_exists.1 (Registry.isSome_contradiction?_of_isSubset sub found)
  refine ⟨declared.union asked, first, second, ?_, fun mode known => ?_⟩
  · exact required_eq_ok_iff.2 ⟨b, declared, asked, bound, resolved, converts, rfl⟩
  · have refused : k.catalog.registry.checkSatisfiable name (declared.union asked) =
        .error (.contradictory name first second) :=
      Registry.checkSatisfiable_eq_error_iff.2 ⟨first, second, clash, rfl⟩
    simp only [plan, refused]
    rfl

theorem Contradicts.planNarrowing_eq (h : k.Contradicts name conversion) :
    ∃ first second,
      k.planNarrowing name conversion = .error (.contradictory name first second) := by
  obtain ⟨all, first, second, required, refused⟩ := h.exists_refused
  obtain ⟨b, -, -, bound, -⟩ := required_eq_ok_iff.1 required
  refine ⟨first, second, ?_⟩
  rw [Checker.planNarrowing_eq, planFor, required]
  show (k.provenance name >>= fun known => k.plan name .narrow known all) = _
  rw [provenance_of_binding bound]
  exact refused _ _

theorem Contradicts.planConversion_ne_ok (h : k.Contradicts name conversion) (source : Source)
    (p : Plan) : k.planConversion name source conversion ≠ .ok p := by
  intro planned
  obtain ⟨all, first, second, required, refused⟩ := h.exists_refused
  obtain ⟨all', known, required', -, made⟩ := planConversion_eq_ok_iff.1 planned
  obtain rfl := Except.ok.inj (required.symm.trans required')
  simp [refused] at made

end Checker

/-! ### All together -/

namespace Catalog

/-- **Adding clauses hides no contradiction.**  In every registry a set that contains the clauses of a
contradictory set is contradictory.  So, whatever was declared, no subset of the set of a registered
pattern has a contradiction, and the sets of its bases, of their bases and so on are such subsets; and
a conversion whose clauses contradict the declared pattern is planned neither for the value of a
binding nor for any source. -/
theorem adding_clauses_hides_no_contradiction :
    (∀ (r : Registry) (s t : ClauseSet), s.isSubset t = true →
      (r.contradiction? s).isSome = true → (r.contradiction? t).isSome = true) ∧
    (∀ (ds : List Declaration) (id : PatternId) (t : ClauseSet),
      (empty.applyAll ds).registry.resolve? id = some t →
        (∀ s, s.isSubset t = true → (empty.applyAll ds).registry.contradiction? s = none) ∧
        ∀ base, Relation.TransGen (empty.applyAll ds).BaseOf base id →
          ∃ s, (empty.applyAll ds).registry.resolve? base = some s ∧ s.isSubset t = true ∧
            (empty.applyAll ds).registry.contradiction? s = none) ∧
    (∀ (k : Checker) (name : String) (conversion : Conversion), k.Contradicts name conversion →
      (∃ first second,
        k.planNarrowing name conversion = .error (.contradictory name first second)) ∧
      ∀ source p, k.planConversion name source conversion ≠ .ok p) := by
  refine ⟨?_, ?_, ?_⟩
  · intro r s t sub found
    exact Registry.isSome_contradiction?_of_isSubset sub found
  · intro ds id t known
    have consistent := ((reaches_applyAll empty ds).consistent closed_empty consistent_empty).2
    have free : ∀ s, s.isSubset t = true → (empty.applyAll ds).registry.contradiction? s = none :=
      fun s sub => Registry.contradiction?_eq_none_of_isSubset sub (consistent id t known)
    refine ⟨free, fun base rests => ?_⟩
    obtain ⟨s, t', found, known', sub⟩ := isSubset_of_transGen_baseOf rests
    obtain rfl := Option.some.inj (known.symm.trans known')
    exact ⟨s, found, sub, free s sub⟩
  · intro k name conversion contradicts
    exact ⟨contradicts.planNarrowing_eq, contradicts.planConversion_ne_ok⟩

/-- Texts, short texts, and initials. -/
def initials : List Declaration :=
  [.pattern (some "Text") [.typeIs (.primitive .string)] [],
    .pattern (some "Short") [.length .lt 5] [⟨0⟩],
    .pattern (some "Initial") [.length .eq 1] [⟨1⟩]]

/-- An initial rests on the texts by way of the short ones.  And what is declared to be an initial
cannot be converted to a number, whatever else the conversion asks for. -/
theorem adding_clauses_hides_no_contradiction_initials :
    let c := empty.applyAll initials
    let k : Checker := { Checker.start c with scopes := ⟨[], [("letter", ⟨⟨2⟩, .empty⟩)]⟩ }
    let number := Conversion.constrainedWith [.typeIs (.primitive .number), .required true]
    (∃ t s, c.registry.resolve? ⟨2⟩ = some t ∧ Relation.TransGen c.BaseOf ⟨0⟩ ⟨2⟩ ∧
      c.registry.resolve? ⟨0⟩ = some s ∧ s.isSubset t = true ∧ c.registry.contradiction? s = none) ∧
    k.Contradicts "letter" number ∧ ∃ first second,
      k.planNarrowing "letter" number = .error (.contradictory "letter" first second) := by
  intro c k number
  obtain ⟨-, patterns, conversions⟩ := adding_clauses_hides_no_contradiction
  have third : (c.registry.resolve? ⟨2⟩).isSome = true := by decide +kernel
  have converts : (k.conversionClauses number).isOk = true := by decide +kernel
  obtain ⟨t, known⟩ := Option.isSome_iff_exists.1 third
  obtain ⟨asked, converted⟩ := isOk_iff.1 converts
  have rests : Relation.TransGen c.BaseOf ⟨0⟩ ⟨2⟩ := by
    have short : (empty.applyAll ([.pattern (some "Text") [.typeIs (.primitive .string)] []] ++
        .pattern (some "Short") [.length .lt 5] [⟨0⟩] :: initials.drop 2)).BaseOf ⟨0⟩ ⟨1⟩ :=
      baseOf_applyAll (by decide +kernel) (by decide +kernel) (List.mem_singleton.2 rfl)
    have initial : (empty.applyAll (initials.take 2 ++
        .pattern (some "Initial") [.length .eq 1] [⟨1⟩] :: [])).BaseOf ⟨1⟩ ⟨2⟩ :=
      baseOf_applyAll (by decide +kernel) (by decide +kernel) (List.mem_singleton.2 rfl)
    exact .tail (.single short) initial
  have contradicts : k.Contradicts "letter" number := by
    have both : (c.registry.contradiction? (((c.registry.resolve? ⟨2⟩).getD .empty).union
        ((k.conversionClauses number).toOption.getD .empty))).isSome = true := by decide +kernel
    rw [known, converted] at both
    refine ⟨⟨⟨2⟩, .empty⟩, t, asked, t.union asked, rfl, Registry.resolve_of_resolve? known,
      converted, fun clause mem => ?_, both⟩
    exact ClauseSet.contains_union.1 (ClauseSet.contains_of_mem mem)
  obtain ⟨s, found, sub, free⟩ := (patterns initials ⟨2⟩ t known).2 ⟨0⟩ rests
  exact ⟨⟨t, s, known, rests, found, sub, free⟩, contradicts,
    (conversions k "letter" number contradicts).1⟩

end Catalog

end ProvenShapes
