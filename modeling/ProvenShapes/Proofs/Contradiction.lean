/-
**Contradictions are genuine.**

A set of clauses that is found contradictory cannot be registered, so a false report would make a
legitimate pattern impossible to declare.  The search for contradictions never looks at a value.  It
compares types that it finds behind references, intervals whose ends were rounded, and kinds that it
collects by path, and it puts the clauses of two patterns together and searches again.  Here it is
shown to be right about values.

Two things have to be left out of "no value has all these clauses".  Evaluation does not see kinds,
so two kinds at one path do not keep a value from having the clauses.  And field clauses speak of a
field only where it is present, so clauses on a field that cannot hold together can all be had by a
value that lacks the field, or lacks a field on the way to it.  There is no third exception.

As with implication, a relation is put beside the search, whose rules say one by one why a set is
contradictory, and what is shown of contradictory sets is shown by induction on its derivations.

Main definitions:

* `Registry.Clashes` — why a set is contradictory;
* `Value.at?`, `Value.LacksAt` — the value at a path, and a field that is missing there.

Main results:

* `Registry.clashes_of_contradiction?` — what is found is a clash;
* `Evaluator.lacks_of_clashes` — **a value that has all clauses of a set with a clash lacks a
  field**, unless the set pins two kinds at one path;
* `Registry.register_eq_contradictory_iff` — when a registration fails with a contradiction;
* `Catalog.contradictions_are_genuine` — **no contradiction is reported without a reason**.
-/

import ProvenShapes.Proofs.Chains
import ProvenShapes.Proofs.Declarations
import ProvenShapes.Proofs.Errors
import ProvenShapes.Proofs.Subsumption

set_option autoImplicit false

namespace ProvenShapes

/-! ### Why a set is contradictory -/

theorem rel_of_mem_pairs {α : Type} {R : α → α → Prop} {l : List α} {p : α × α}
    (h : l.Pairwise R) (mem : p ∈ pairs l) : R p.1 p.2 := by
  induction l with
  | nil => simp [pairs] at mem
  | cons a rest ih =>
      obtain ⟨first, tail⟩ := List.pairwise_cons.1 h
      rcases List.mem_append.1 mem with mem | mem
      · obtain ⟨b, hb, rfl⟩ := List.mem_map.1 mem
        exact first b hb
      · exact ih tail mem

namespace Registry

/-- Why a set is contradictory: types without a common value, disjoint intervals, two kinds at one
path, or two references, of the set itself or of one of its fields, to patterns whose clauses clash
when they are put together. -/
inductive Clashes (r : Registry) : ClauseSet → Prop
  | types {s : ClauseSet} {x y : TypeRef} {t u : Primitive} (hx : .typeIs x ∈ s.toList)
      (hy : .typeIs y ∈ s.toList) (tx : r.primitiveOf? (.typeIs x) = some t)
      (ty : r.primitiveOf? (.typeIs y) = some u) (apart : t.overlaps u = false) : Clashes r s
  | lengths {s : ClauseSet} {o₁ o₂ : Comparison} {b₁ b₂ : UInt64} (h₁ : .length o₁ b₁ ∈ s.toList)
      (h₂ : .length o₂ b₂ ∈ s.toList) (different : (o₁, b₁) ≠ (o₂, b₂))
      (apart : (Interval.ofLength o₁ b₁).intersects (.ofLength o₂ b₂) = false) : Clashes r s
  | values {s : ClauseSet} {o₁ o₂ : Comparison} {b₁ b₂ : Number} (h₁ : .value o₁ b₁ ∈ s.toList)
      (h₂ : .value o₂ b₂ ∈ s.toList)
      (apart : (Interval.ofValue o₁ b₁).intersects (.ofValue o₂ b₂) = false) : Clashes r s
  | kinds {s : ClauseSet} {path : List String} {k l : String} (hk : r.Pins s path k)
      (hl : r.Pins s path l) (different : k ≠ l) : Clashes r s
  | references {s t u : ClauseSet} {p q : PatternId} (hp : .typeIs (.pattern p) ∈ s.toList)
      (hq : .typeIs (.pattern q) ∈ s.toList) (different : p ≠ q) (ht : r.resolve? p = some t)
      (hu : r.resolve? q = some u) (nested : Clashes r (t.union u)) : Clashes r s
  | fields {s t u : ClauseSet} {name : String} {p q : PatternId} (hp : .field name p ∈ s.toList)
      (hq : .field name q ∈ s.toList) (different : p ≠ q) (ht : r.resolve? p = some t)
      (hu : r.resolve? q = some u) (nested : Clashes r (t.union u)) : Clashes r s

variable {r : Registry} {s : ClauseSet} {a b : Clause} {p q : PatternId}

theorem clash_eq_true_iff :
    r.clash p q = true ↔
      ∃ t u, r.resolve? p = some t ∧ r.resolve? q = some u ∧
        (r.contradiction? (t.union u)).isSome = true := by
  unfold clash
  cases r.resolve? p with
  | none => simp
  | some t =>
      cases r.resolve? q with
      | none => simp
      | some u => simp

/-- Two clauses of a set that are in conflict clash, if the patterns that they refer to do. -/
theorem clashes_of_conflicts (ha : a ∈ s.toList) (hb : b ∈ s.toList) (different : a ≠ b)
    (h : r.conflicts (a, b) = true)
    (nested : ∀ p q t u, a.reference? = some p → b.reference? = some q → r.resolve? p = some t →
      r.resolve? q = some u → (r.contradiction? (t.union u)).isSome = true →
      r.Clashes (t.union u)) :
    r.Clashes s := by
  simp only [conflicts, Bool.and_eq_true, beq_iff_eq] at h
  obtain ⟨subject, conflict⟩ := h
  cases a with
  | typeIs x =>
      cases b with
      | typeIs y =>
          simp only [Registry.conflict, Bool.or_eq_true] at conflict
          rcases conflict with apart | behind
          · split at apart
            · next t u tx ty => exact .types ha hb tx ty (by simpa using apart)
            · simp at apart
          · split at behind
            · next p q =>
                obtain ⟨t, u, ht, hu, found⟩ := clash_eq_true_iff.1 behind
                exact .references ha hb (by simpa using different) ht hu
                  (nested p q t u rfl rfl ht hu found)
            · simp at behind
      | _ => simp [Clause.subject] at subject
  | length o₁ b₁ =>
      cases b with
      | length o₂ b₂ =>
          have apart : (Interval.ofLength o₁ b₁).intersects (.ofLength o₂ b₂) = false := by
            simpa [Registry.conflict] using conflict
          exact .lengths ha hb (by simpa using different) apart
      | _ => simp [Clause.subject] at subject
  | value o₁ b₁ =>
      cases b with
      | value o₂ b₂ => exact .values ha hb (by simpa [Registry.conflict] using conflict)
      | _ => simp [Clause.subject] at subject
  | kindOf k =>
      cases b with
      | kindOf l =>
          have pinned : ∀ {kind}, .kindOf kind ∈ s.toList → r.Pins s [] kind := fun mem =>
            pins_iff_leadsTo.2 (.here mem)
          exact .kinds (pinned ha) (pinned hb) (by simpa [Registry.conflict] using conflict)
      | _ => simp [Clause.subject] at subject
  | field m p =>
      cases b with
      | field n q =>
          obtain rfl : m = n := by simpa [Clause.subject] using subject
          obtain ⟨t, u, ht, hu, found⟩ := clash_eq_true_iff.1 conflict
          exact .fields ha hb (by simpa using different) ht hu (nested p q t u rfl rfl ht hu found)
      | _ => simp [Clause.subject] at subject
  | required | satisfies | changesWith => cases b <;> simp [Registry.conflict] at conflict

theorem exists_of_not_oneKind (h : ¬r.OneKind s) :
    ∃ path k l, k ≠ l ∧ r.Pins s path k ∧ r.Pins s path l := by
  simp only [OneKind, not_forall] at h
  obtain ⟨path, k, l, hk, hl, different⟩ := h
  exact ⟨path, k, l, different, hk, hl⟩

theorem clashes_of_kindClash? (h : (kindClash? (r.effectiveKinds s)).isSome = true) :
    r.Clashes s := by
  -- an entry with two kinds is the only reason for the answer
  by_cases one : r.OneKind s
  · obtain ⟨pair, found⟩ := Option.isSome_iff_exists.1 h
    obtain ⟨entry, mem, two⟩ := List.exists_of_findSome?_eq_some found
    obtain ⟨kind, single, -⟩ := one.exists_singleton mem
    simp [single] at two
  · obtain ⟨path, k, l, different, hk, hl⟩ := exists_of_not_oneKind one
    exact .kinds hk hl different

/-- What the search for contradictions finds is a clash. -/
theorem clashes_of_contradiction? (h : (r.contradiction? s).isSome = true) : r.Clashes s := by
  -- the union of two patterns reaches less far than the references to them
  induction hrank : s.rank using Nat.strongRecOn generalizing s with
  | _ rank ih =>
      subst hrank
      rw [contradiction?_eq] at h
      split at h
      · next pair found =>
          have mem := List.mem_of_find?_eq_some found
          obtain ⟨ha, hb⟩ := mem_of_mem_pairs mem
          have before := rel_of_mem_pairs s.ascending mem
          have different : pair.1 ≠ pair.2 := by
            intro same
            rw [same] at before
            simp at before
          refine clashes_of_conflicts ha hb different (List.find?_some found) ?_
          intro p q t u hp hq ht hu nested
          refine ih _ ?_ nested rfl
          have smaller := rank_union_lt hp hq ht hu
          have := rank_le_rankOf ha
          have := rank_le_rankOf hb
          have : s.rank = rankOf s.toList := rfl
          omega
      · exact clashes_of_kindClash? h

/-! ### Chains from unions -/

theorem LeadsTo.behind_union {c : Clause} {t u : ClauseSet} {path : List String}
    (hp : .typeIs (.pattern p) ∈ s.toList) (hq : .typeIs (.pattern q) ∈ s.toList)
    (ht : r.resolve? p = some t) (hu : r.resolve? q = some u)
    (h : r.LeadsTo c (t.union u) path) : r.LeadsTo c s path :=
  h.of_union.elim (.behind hp ht) (.behind hq hu)

theorem LeadsTo.inside_union {c : Clause} {t u : ClauseSet} {name : String} {path : List String}
    (hp : .field name p ∈ s.toList) (hq : .field name q ∈ s.toList)
    (ht : r.resolve? p = some t) (hu : r.resolve? q = some u)
    (h : r.LeadsTo c (t.union u) path) : r.LeadsTo c s (name :: path) :=
  h.of_union.elim (.inside hp ht) (.inside hq hu)

/-- Where the chains of one set go on in another, the first has one kind at every path if the second
has. -/
theorem OneKind.of_leadsTo {t : ClauseSet} (steps : List String) (one : r.OneKind s)
    (on : ∀ kind path, r.LeadsTo (.kindOf kind) t path →
      r.LeadsTo (.kindOf kind) s (steps ++ path)) :
    r.OneKind t := by
  intro path k l hk hl
  have pinned : ∀ kind, r.Pins t path kind → r.Pins s (steps ++ path) kind := fun kind h =>
    pins_iff_leadsTo.2 (on kind path (pins_iff_leadsTo.1 h))
  exact one _ k l (pinned k hk) (pinned l hl)

end Registry

/-! ### What a clash says about values -/

namespace Value

/-- The value inside a value that a path of field names leads to. -/
def at? (v : Value) : List String → Option Value
  | [] => some v
  | name :: path => (v.get? name).bind fun w => w.at? path

/-- The path leads to an object that lacks the field. -/
def LacksAt (v : Value) (path : List String) (name : String) : Prop :=
  ∃ fields, v.at? path = some (.object fields) ∧ Keyed.find? name fields = none

theorem LacksAt.inside {v w : Value} {step name : String} {path : List String}
    (found : v.get? step = some w) (h : w.LacksAt path name) : v.LacksAt (step :: path) name := by
  obtain ⟨fields, there, absent⟩ := h
  exact ⟨fields, by rw [at?, found, Option.bind_some, there], absent⟩

end Value

theorem Primitive.overlaps_of_subtypeOf {actual s t : Primitive} (hs : actual.subtypeOf s = true)
    (ht : actual.subtypeOf t = true) : s.overlaps t = true := by
  revert hs ht
  cases actual <;> cases s <;> cases t <;> decide

namespace Evaluator

variable {e : Evaluator} {c : Clause} {v : Value} {depth : Nat}

/-- A value of which a type clause holds has the primitive type that the clause pins values to. -/
theorem hasType_of_primitiveOf? {t : Primitive} (holds : e.Holds c v depth)
    (pins : e.registry.primitiveOf? c = some t) : hasType t v = true := by
  induction hrank : c.rank using Nat.strongRecOn generalizing c depth with
  | _ rank ih =>
      subst hrank
      cases c with
      | typeIs type =>
          cases type with
          | primitive own =>
              obtain rfl : own = t := by simpa [Registry.primitiveOf?] using pins
              exact (holds_type_iff.1 holds).2
          | pattern id =>
              obtain ⟨-, s, known, all⟩ := holds_reference_iff.1 holds
              rw [Registry.primitiveOf?_reference, known] at pins
              obtain ⟨d, hd, pins⟩ := List.exists_of_findSome?_eq_some pins
              exact ih _ (Registry.rank_lt rfl known hd) (all d hd) pins rfl
      | _ => simp [Registry.primitiveOf?] at pins

theorem overlaps_of_hasType {s t : Primitive} (hs : hasType s v = true) (ht : hasType t v = true) :
    s.overlaps t = true := by
  unfold hasType at hs ht
  cases type : v.primitive? with
  | none => simp [type] at hs
  | some actual =>
      rw [type] at hs ht
      exact Primitive.overlaps_of_subtypeOf hs ht

theorem intersects_of_lengthCompares {o₁ o₂ : Comparison} {b₁ b₂ : UInt64} (bounded : v.Bounded)
    (h₁ : lengthCompares o₁ b₁ v = true) (h₂ : lengthCompares o₂ b₂ v = true) :
    (Interval.ofLength o₁ b₁).intersects (.ofLength o₂ b₂) = true := by
  unfold lengthCompares at h₁ h₂
  cases length : v.length? with
  | none => simp [length] at h₁
  | some n =>
      rw [length] at h₁ h₂
      have short := bounded.length_lt length
      exact Interval.intersects_of_admits ((Interval.admits_ofLength short).2 h₁)
        ((Interval.admits_ofLength short).2 h₂)

theorem intersects_of_valueCompares {o₁ o₂ : Comparison} {b₁ b₂ : Number}
    (h₁ : valueCompares o₁ b₁ v = true) (h₂ : valueCompares o₂ b₂ v = true) :
    (Interval.ofValue o₁ b₁).intersects (.ofValue o₂ b₂) = true := by
  cases v with
  | number n =>
      simp only [valueCompares, Bool.and_eq_true] at h₁ h₂
      exact Interval.intersects_of_admits (Interval.admits_ofValue.2 h₁.2)
        (Interval.admits_ofValue.2 h₂.2)
  | _ => simp [valueCompares] at h₁

theorem holds_behind {id : PatternId} {s : ClauseSet} (h : e.Holds (.typeIs (.pattern id)) v depth)
    (known : e.registry.resolve? id = some s) : ∀ d ∈ s.toList, e.Holds d v (depth + 1) := by
  obtain ⟨-, t, resolved, all⟩ := holds_reference_iff.1 h
  obtain rfl := Option.some.inj (known.symm.trans resolved)
  exact all

theorem holds_inside {name : String} {id : PatternId} {s : ClauseSet} {w : Value}
    {fields : List (String × Value)} (h : e.Holds (.field name id) (.object fields) depth)
    (known : e.registry.resolve? id = some s) (present : Keyed.find? name fields = some w) :
    ∀ d ∈ s.toList, e.Holds d w (depth + 1) := by
  obtain ⟨-, _, t, same, resolved, all, -⟩ := holds_field_iff.1 h
  obtain rfl := Value.object.inj same
  obtain rfl := Option.some.inj (known.symm.trans resolved)
  exact all w present

/-- A value that has all clauses of a set with a clash lacks a field that the set speaks of, unless
the set pins two kinds at one path. -/
theorem lacks_of_clashes {s : ClauseSet} (clashes : e.registry.Clashes s)
    (one : e.registry.OneKind s) (bounded : v.Bounded)
    (holds : ∀ c ∈ s.toList, e.Holds c v depth) :
    ∃ path name id, e.registry.LeadsTo (.field name id) s path ∧ v.LacksAt path name := by
  -- the value changes at fields and the depth at references, so both stay free in the induction
  induction clashes generalizing v depth with
  | types hx hy tx ty apart =>
      have overlap := overlaps_of_hasType (hasType_of_primitiveOf? (holds _ hx) tx)
        (hasType_of_primitiveOf? (holds _ hy) ty)
      simp [overlap] at apart
  | lengths h₁ h₂ different apart =>
      have meet := intersects_of_lengthCompares bounded (holds_length_iff.1 (holds _ h₁)).2
        (holds_length_iff.1 (holds _ h₂)).2
      simp [meet] at apart
  | values h₁ h₂ apart =>
      have meet := intersects_of_valueCompares (holds_value_iff.1 (holds _ h₁)).2
        (holds_value_iff.1 (holds _ h₂)).2
      simp [meet] at apart
  | kinds hk hl different => exact absurd (one _ _ _ hk hl) different
  | references hp hq _ ht hu _ ih =>
      have within := one.of_leadsTo [] fun _ _ => .behind_union hp hq ht hu
      obtain ⟨path, name, id, chain, lacks⟩ := ih within bounded fun c mem =>
        (ClauseSet.mem_union mem).elim (holds_behind (holds _ hp) ht c)
          (holds_behind (holds _ hq) hu c)
      exact ⟨path, name, id, chain.behind_union hp hq ht hu, lacks⟩
  | @fields s t u field p q hp hq _ ht hu _ ih =>
      obtain ⟨-, fields, _, rfl, -⟩ := holds_field_iff.1 (holds _ hp)
      cases present : Keyed.find? field fields with
      | none => exact ⟨[], field, p, .here hp, fields, rfl, present⟩
      | some w =>
          have within := one.of_leadsTo [field] fun _ _ => .inside_union hp hq ht hu
          obtain ⟨path, name, id, chain, lacks⟩ := ih within (bounded.find? present) fun c mem =>
            (ClauseSet.mem_union mem).elim (holds_inside (holds _ hp) ht present c)
              (holds_inside (holds _ hq) hu present c)
          exact ⟨field :: path, name, id, chain.inside_union hp hq ht hu, lacks.inside present⟩

end Evaluator

/-! ### Registration -/

/-- The error reports a contradiction. -/
def Error.isContradictory : Error → Bool
  | .contradictory _ _ _ => true
  | _ => false

theorem Error.ne_contradictory {e : Error} {label : String} {first second : Clause}
    (h : e.isContradictory = false) : e ≠ .contradictory label first second := by
  rintro rfl
  simp [isContradictory] at h

namespace Registry

variable {r : Registry} {scope : Scope} {name : Option String} {clauses : List Clause}
  {bases : List PatternId} {s : ClauseSet}

theorem failsOnly_resolve {id : PatternId} :
    FailsOnly (·.isContradictory = false) (r.resolve id) := by
  unfold resolve
  split
  · exact failsOnly_ok _
  · exact failsOnly_error rfl

theorem failsOnly_checkName {n : String} :
    FailsOnly (·.isContradictory = false) (r.checkName n) := by
  unfold checkName
  split
  · exact failsOnly_error rfl
  · split
    · exact failsOnly_error rfl
    · exact failsOnly_ok ()

theorem failsOnly_checkReference {c : Clause} :
    FailsOnly (·.isContradictory = false) (r.checkReference scope c) := by
  unfold checkReference
  split
  · split
    · exact failsOnly_ok ()
    · exact failsOnly_error rfl
  · split
    · exact failsOnly_ok ()
    · exact failsOnly_error rfl
  · split
    · exact failsOnly_ok ()
    · next failed => exact failsOnly_error (failsOnly_resolve _ failed)
  · split
    · exact failsOnly_ok ()
    · next failed => exact failsOnly_error (failsOnly_resolve _ failed)
  · exact failsOnly_ok ()

theorem failsOnly_checkReferences :
    FailsOnly (·.isContradictory = false) (r.checkReferences scope clauses) := by
  induction clauses with
  | nil => exact failsOnly_ok ()
  | cons c rest ih =>
      unfold checkReferences
      split
      · exact ih
      · next failed => exact failsOnly_error (failsOnly_checkReference _ failed)

theorem failsOnly_uniteBases :
    FailsOnly (·.isContradictory = false) (r.uniteBases s bases) := by
  induction bases generalizing s with
  | nil => exact failsOnly_ok s
  | cons base rest ih =>
      unfold uniteBases
      split
      · exact ih
      · next failed => exact failsOnly_error (failsOnly_resolve _ failed)

theorem failsOnly_canonicalize :
    FailsOnly (·.isContradictory = false) (r.canonicalize clauses bases) := by
  unfold canonicalize
  split
  · exact failsOnly_ok _
  · next failed => exact failsOnly_error (failsOnly_uniteBases _ failed)

theorem checkSatisfiable_eq_error_iff {label : String} {e : Error} :
    r.checkSatisfiable label s = .error e ↔
      ∃ first second, r.contradiction? s = some (first, second) ∧
        e = .contradictory label first second := by
  unfold checkSatisfiable
  split
  · next first second found => simp [found, eq_comm]
  · next none => simp [none]

/-- A registration fails with a contradiction just when everything else about it is in order, and
its clauses together with its bases have that contradiction. -/
theorem register_eq_contradictory_iff {label : String} {first second : Clause} :
    r.register scope name clauses bases = .error (.contradictory label first second) ↔
      name.elim (.ok ()) r.checkName = .ok () ∧ r.checkReferences scope clauses = .ok () ∧
        label = name.getD inlineLabel ∧
        ∃ s, r.canonicalize clauses bases = .ok s ∧ r.contradiction? s = some (first, second) := by
  unfold register
  split
  · next e failed =>
      have other : e.isContradictory = false := by
        cases name with
        | none => simp at failed
        | some n => exact failsOnly_checkName e failed
      simp [failed, Error.ne_contradictory other]
  · next named =>
      split
      · next e failed => simp [failed, Error.ne_contradictory (failsOnly_checkReferences e failed)]
      · next checked =>
          split
          · next e failed => simp [failed, Error.ne_contradictory (failsOnly_canonicalize e failed)]
          · next s united =>
              split
              · next e failed =>
                  obtain ⟨a, b, found, rfl⟩ := checkSatisfiable_eq_error_iff.1 failed
                  simp [named, checked, united, found, eq_comm]
              · next satisfiable =>
                  have none := checkSatisfiable_eq_ok_iff.1 satisfiable
                  simp [united, none]

end Registry

namespace Catalog

theorem registerPattern_eq_error_iff {c : Catalog} {name : Option String} {clauses : List Clause}
    {bases : List PatternId} {e : Error} :
    c.registerPattern name clauses bases = .error e ↔
      c.registry.register c.scope name clauses bases = .error e := by
  unfold registerPattern
  cases c.registry.register c.scope name clauses bases with
  | error e => simp [bind, Except.bind]
  | ok made => simp [bind, Except.bind, pure, Except.pure]

/-- **No contradiction is reported without a reason.**  A set that has one pins two kinds at one
path, or every value that has all its clauses lacks a field, at the end of a chain of references,
that the set speaks of.  And a registration is refused for a contradiction just when nothing else is
wrong with it and its clauses have one. -/
theorem contradictions_are_genuine (c : Catalog) :
    (∀ s, (c.registry.contradiction? s).isSome = true →
      (∃ path k l, k ≠ l ∧ k ∈ c.registry.kindsAt s path ∧ l ∈ c.registry.kindsAt s path) ∨
      ∀ v : Value, v.Bounded → (∀ b ∈ s.toList, c.evaluator.Holds b v 0) →
        ∃ path name id, c.registry.LeadsTo (.field name id) s path ∧ v.LacksAt path name) ∧
    (∀ name clauses bases label first second,
      c.registerPattern name clauses bases = .error (.contradictory label first second) ↔
        name.elim (.ok ()) c.registry.checkName = .ok () ∧
          c.registry.checkReferences c.scope clauses = .ok () ∧
          label = name.getD Registry.inlineLabel ∧
          ∃ s, c.registry.canonicalize clauses bases = .ok s ∧
            c.registry.contradiction? s = some (first, second)) := by
  constructor
  · intro s found
    have clashes : c.evaluator.registry.Clashes s := Registry.clashes_of_contradiction? found
    by_cases one : c.evaluator.registry.OneKind s
    · exact .inr fun v bounded holds => Evaluator.lacks_of_clashes clashes one bounded holds
    · obtain ⟨path, k, l, different, hk, hl⟩ := Registry.exists_of_not_oneKind one
      exact .inl ⟨path, k, l, different, Registry.mem_kindsAt.2 hk, Registry.mem_kindsAt.2 hl⟩
  · intro name clauses bases label first second
    rw [registerPattern_eq_error_iff, Registry.register_eq_contradictory_iff]

/-- Objects whose label is a text, and objects whose label is a whole number. -/
def labelled : Catalog :=
  let whole : ClauseSet := .ofList [.typeIs (.primitive .integer)]
  let word : ClauseSet := .ofList [.typeIs (.primitive .string)]
  let named : ClauseSet := .ofList [.field "label" ⟨1⟩]
  let numbered : ClauseSet := .ofList [.field "label" ⟨0⟩]
  { Catalog.empty with
    registry := Registry.empty
      |>.push (some "Whole") whole (by decide)
      |>.push (some "Word") word (by decide)
      |>.push (some "Named") named (by decide)
      |>.push (some "Numbered") numbered (by decide) }

/-- What is named and numbered at once cannot be registered.  The empty object is both, and it lacks
the label. -/
theorem contradictions_are_genuine_labelled :
    let both : List Clause := [.typeIs (.pattern ⟨2⟩), .typeIs (.pattern ⟨3⟩)]
    let s := ClauseSet.ofList both
    (labelled.registry.contradiction? s).isSome = true ∧
      (∀ b ∈ s.toList, labelled.evaluator.Holds b (.object []) 0) ∧
      (∃ path name id, labelled.registry.LeadsTo (.field name id) s path ∧
        (Value.object []).LacksAt path name) ∧
      labelled.registerPattern (some "Both") both [] =
        .error (.contradictory "Both" (.typeIs (.pattern ⟨2⟩)) (.typeIs (.pattern ⟨3⟩))) := by
  intro both s
  have law := contradictions_are_genuine labelled
  have found : labelled.registry.contradiction? s =
      some (.typeIs (.pattern ⟨2⟩), .typeIs (.pattern ⟨3⟩)) := by decide +kernel
  have isSome : (labelled.registry.contradiction? s).isSome = true := by simp [found]
  have holds : ∀ b ∈ s.toList, labelled.evaluator.Holds b (.object []) 0 := by decide +kernel
  have bounded : (Value.object []).Bounded := Value.bounded_object_iff.2 ⟨by decide, by simp⟩
  -- no kind is pinned anywhere, so it is the field that is missing
  have plain : labelled.registry.effectiveKinds s = [] := by decide +kernel
  refine ⟨isSome, holds, ?_, ?_⟩
  · rcases law.1 s isSome with ⟨path, k, l, -, mem, -⟩ | lacks
    · simp [Registry.kindsAt, plain, Keyed.find?] at mem
    · exact lacks _ bounded holds
  · exact (law.2 (some "Both") both [] "Both" _ _).2
      ⟨rfl, rfl, rfl, s, rfl, found⟩

end Catalog

end ProvenShapes
