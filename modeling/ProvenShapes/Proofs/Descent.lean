/-
**Where kinds come from.**

Evaluation never looks at a kind, so a kind that got into a provenance by mistake would show nowhere.
Here every kind that is recorded of a binding is followed back through the run.  A conversion or a
narrowing grants the kinds that it requires; an assignment or a conversion copies those of the binding
that it takes its value from; and a binding keeps the kinds that it has until it gets a new value.
There is no other way to a kind, and in particular none through a literal or through a value from
outside.

Main definitions:

* `Registry.kindsAt` — the kinds that the computed map has at a path;
* `Operation.Grants`, `Operation.Copies`, `Operation.Replaces` — what operations do to kinds;
* `Descends` — the history of a kind, which begins with a grant.

Main results:

* `Registry.effectiveKinds_congr` — sets that pin the same kinds have the same map;
* `Checker.hasKind_iff_of_changes` — what one operation does to the kinds at a place;
* `Checker.hasKind_iff_descends` — **a kind is recorded exactly where it descends from a grant**;
* `Checker.kinds_cannot_be_forged` — one kind at every path, assignments that keep the kinds of their
  source, and the descent of kinds, in one statement.
-/

import Mathlib.Data.List.Induction
import Mathlib.Data.List.Sort
import ProvenShapes.Proofs.Identity

set_option autoImplicit false

namespace ProvenShapes

/-! ### The map of kinds is canonical -/

/-- Lists that ascend by a key and have the same members are the same. -/
theorem eq_of_ascending {α κ : Type} [Ord κ] [Std.TransOrd κ] (key : α → κ) {l m : List α}
    (hl : l.Pairwise fun a b => compare (key a) (key b) = .lt)
    (hm : m.Pairwise fun a b => compare (key a) (key b) = .lt) (h : ∀ a, a ∈ l ↔ a ∈ m) : l = m := by
  have : Std.Irrefl fun a b : α => compare (key a) (key b) = .lt := ⟨fun a => by simp⟩
  have : Std.Antisymm fun a b : α => compare (key a) (key b) = .lt :=
    ⟨fun a b less more => by simp [Std.OrientedCmp.gt_of_lt more] at less⟩
  exact hl.eq_of_mem_iff hm h

namespace Registry

variable {r : Registry} {s t : ClauseSet} {path : List String} {kind : String}

theorem ascending_effectiveKinds (r : Registry) (s : ClauseSet) :
    (r.effectiveKinds s).Pairwise fun a b => compare a.1 b.1 = .lt := by
  have folded : ∀ (pinned : List (List String × String)) (m : KindPaths),
      m.Pairwise (fun a b => compare a.1 b.1 = .lt) →
      (pinned.foldl (fun kinds p => pin kinds p.1 p.2) m).Pairwise fun a b =>
        compare a.1 b.1 = .lt := by
    intro pinned
    induction pinned with
    | nil => exact fun m h => h
    | cons p rest ih => exact fun m h => ih _ (Keyed.ascending_put h)
  exact folded _ [] .nil

/-- The kinds that a set of clauses pins at a path, in ascending order. -/
def kindsAt (r : Registry) (s : ClauseSet) (path : List String) : List String :=
  (Keyed.find? path (r.effectiveKinds s)).getD []

theorem mem_kindsAt : kind ∈ r.kindsAt s path ↔ r.Pins s path kind := by
  unfold kindsAt
  constructor
  · intro mem
    exact List.mem_flatMap.1 (((r.records_effectiveKinds s).getD path).2 kind mem)
  · intro pins
    obtain ⟨kinds, found, mem⟩ := exists_effectiveKinds_of_pins pins
    rwa [found]

theorem mem_effectiveKinds_iff {entry : List String × List String} :
    entry ∈ r.effectiveKinds s ↔ entry.2 = r.kindsAt s entry.1 ∧ entry.2 ≠ [] := by
  constructor
  · intro mem
    have found := Keyed.find?_of_mem (r.ascending_effectiveKinds s) mem
    exact ⟨by rw [kindsAt, found]; rfl, (r.records_effectiveKinds s).nonempty entry mem⟩
  · rintro ⟨same, nonempty⟩
    rw [kindsAt] at same
    cases found : Keyed.find? entry.1 (r.effectiveKinds s) with
    | none =>
        rw [found] at same
        exact absurd same nonempty
    | some kinds =>
        rw [found] at same
        obtain rfl : entry.2 = kinds := same
        exact Keyed.mem_of_find? found

/-- Sets that pin the same kinds at the same paths have the same map of kinds. -/
theorem effectiveKinds_congr (h : ∀ path kind, r.Pins s path kind ↔ r.Pins t path kind) :
    r.effectiveKinds s = r.effectiveKinds t := by
  have names : ∀ path, r.kindsAt s path = r.kindsAt t path := by
    intro path
    refine eq_of_ascending id ((r.records_effectiveKinds s).getD path).1
      ((r.records_effectiveKinds t).getD path).1 fun kind => ?_
    exact mem_kindsAt.trans ((h path kind).trans mem_kindsAt.symm)
  refine eq_of_ascending Prod.fst (r.ascending_effectiveKinds s) (r.ascending_effectiveKinds t)
    fun entry => ?_
  rw [mem_effectiveKinds_iff, mem_effectiveKinds_iff, names]

theorem effectiveKinds_eq_nil_iff :
    r.effectiveKinds s = [] ↔ ∀ path kind, ¬r.Pins s path kind := by
  constructor
  · intro empty path kind pins
    obtain ⟨kinds, found, -⟩ := exists_effectiveKinds_of_pins pins
    simp [empty, Keyed.find?] at found
  · intro none
    refine List.eq_nil_iff_forall_not_mem.2 fun entry mem => ?_
    obtain ⟨kind, rest, eq⟩ := List.exists_cons_of_ne_nil
      ((r.records_effectiveKinds s).nonempty entry mem)
    exact none _ kind (pins_of_mem_effectiveKinds mem kind (by simp [eq]))

theorem OneKind.length_kindsAt_le (one : r.OneKind s) (path : List String) :
    (r.kindsAt s path).length ≤ 1 := by
  unfold kindsAt
  cases found : Keyed.find? path (r.effectiveKinds s) with
  | none => simp
  | some kinds => exact oneKind_iff_length_le.1 one _ (Keyed.mem_of_find? found)

end Registry

/-! ### What operations do to kinds -/

/-- The operation converts or narrows the binding at a place, and what it requires pins the kind at
the path. -/
@[simp] def Operation.Grants (k : Checker) (p : Place) (path : List String) (kind : String) :
    Operation → Prop
  | .convert target _ conversion _ | .narrow target conversion _ =>
      k.scopes.place? target = some p ∧
        ∃ all, k.required target conversion = .ok all ∧ kind ∈ k.catalog.registry.kindsAt all path
  | _ => False

/-- The operation gives the binding at one place the value of the binding at another. -/
@[simp] def Operation.Copies (s : Scopes) (origin p : Place) : Operation → Prop
  | .assign target (.binding name) | .convert target (.binding name) _ _ =>
      s.place? name = some origin ∧ s.place? target = some p
  | _ => False

/-- The operation brings a new value to a place. -/
@[simp] def Operation.Replaces (s : Scopes) (p : Place) : Operation → Prop
  | .declare name _ | .declareExternal name _ _ => p = s.here name
  | .assign target _ | .convert target _ _ _ => s.place? target = some p
  | _ => False

namespace Scopes

variable {r : Registry} {path : List String} {kind : String} {s t : Scopes} {p : Place}

/-- The kind is recorded at the path of the binding at a place. -/
def HasKind (r : Registry) (path : List String) (kind : String) (s : Scopes) (p : Place) : Prop :=
  ∃ b, s.at? p = some b ∧ kind ∈ r.kindsAt b.provenance path

theorem hasKind_iff_of_at? {b : Binding} (found : s.at? p = some b) :
    s.HasKind r path kind p ↔ r.Pins b.provenance path kind := by
  simp [HasKind, found, Registry.mem_kindsAt]

theorem hasKind_congr (same : t.at? p = s.at? p) :
    t.HasKind r path kind p ↔ s.HasKind r path kind p := by
  simp only [HasKind, same]

theorem HasKind.isSome (h : s.HasKind r path kind p) : (s.at? p).isSome = true := by
  obtain ⟨b, found, -⟩ := h
  simp [found]

end Scopes

namespace Checker

variable {k : Checker} {op : Operation} {p : Place} {path : List String} {kind : String}
  {s : Scopes}

/-- What is known of a source has the kinds of the binding that the source names, if it names one. -/
theorem pins_sourceProvenance_iff {source : Source} {required known : ClauseSet}
    (h : k.sourceProvenance source required = .ok known) :
    k.catalog.registry.Pins known path kind ↔
      ∃ name q, source = .binding name ∧ k.scopes.place? name = some q ∧
        k.scopes.HasKind k.catalog.registry path kind q := by
  cases source with
  | binding name =>
      obtain ⟨b, bound, rfl⟩ := provenance_eq_ok_iff.1 h
      obtain ⟨q, place, found⟩ := binding_eq_ok_iff.1 bound
      rw [← Scopes.hasKind_iff_of_at? found]
      constructor
      · intro has
        exact ⟨name, q, rfl, place, has⟩
      · rintro ⟨_, q', ⟨⟩, place', has⟩
        rwa [Option.some.inj (place.symm.trans place')]
  | literal v => simp [not_pins_literal h]
  | untyped t =>
      obtain rfl := Except.ok.inj h
      simp [not_pins_typeOnly]

/-- An operation that succeeds grants the kind at a place, or copies it to the place, or leaves it
there. -/
def KindAfter (k : Checker) (op : Operation) (s : Scopes) (p : Place) (path : List String)
    (kind : String) : Prop :=
  op.Grants k p path kind ∨
    (∃ q, op.Copies k.scopes q p ∧ k.scopes.HasKind k.catalog.registry path kind q) ∨
    (k.scopes.HasKind k.catalog.registry path kind p ∧ ¬op.Replaces k.scopes p ∧
      (s.at? p).isSome = true)

/-- Where an operation writes one binding, it is enough to look at that one. -/
theorem hasKind_iff_of_write {q : Place} {b : Binding}
    (bindings : ∀ x, s.at? x = if x = q then some b else k.scopes.at? x)
    (only : ∀ x, x ≠ q → ¬op.Grants k x path kind ∧ (∀ y, ¬op.Copies k.scopes y x) ∧
      ¬op.Replaces k.scopes x)
    (here : k.catalog.registry.Pins b.provenance path kind ↔
      op.Grants k q path kind ∨
        (∃ x, op.Copies k.scopes x q ∧ k.scopes.HasKind k.catalog.registry path kind x) ∨
        (k.scopes.HasKind k.catalog.registry path kind q ∧ ¬op.Replaces k.scopes q)) :
    s.HasKind k.catalog.registry path kind p ↔ k.KindAfter op s p path kind := by
  unfold KindAfter
  by_cases eq : p = q
  · subst eq
    have found : s.at? p = some b := by rw [bindings, if_pos rfl]
    rw [Scopes.hasKind_iff_of_at? found, here]
    simp [found]
  · have same : s.at? p = k.scopes.at? p := by rw [bindings, if_neg eq]
    obtain ⟨grants, copies, replaces⟩ := only p eq
    rw [Scopes.hasKind_congr same, same]
    simp only [grants, copies, replaces, false_and, exists_false, false_or, not_false_eq_true,
      true_and]
    exact ⟨fun has => ⟨has, has.isSome⟩, And.left⟩

/-- An operation that writes no binding leaves the kinds of all bindings that are still there. -/
theorem hasKind_iff_of_still (still : ∀ b, s.at? p = some b → k.scopes.at? p = some b)
    (grants : ¬op.Grants k p path kind) (copies : ∀ q, ¬op.Copies k.scopes q p)
    (replaces : ¬op.Replaces k.scopes p) :
    s.HasKind k.catalog.registry path kind p ↔ k.KindAfter op s p path kind := by
  simp only [KindAfter, grants, copies, replaces, false_and, exists_false, false_or,
    not_false_eq_true, true_and]
  constructor
  · rintro ⟨b, found, pinned⟩
    exact ⟨⟨b, still b found, pinned⟩, by simp [found]⟩
  · rintro ⟨has, bound⟩
    obtain ⟨b, found⟩ := Option.isSome_iff_exists.1 bound
    rwa [Scopes.hasKind_congr (found.trans (still b found).symm)]

/-- **What an operation does to kinds**: after it, a place has the kinds that the operation grants
there, those that it copies to it, and those that it leaves there. -/
theorem hasKind_iff_of_changes (change : k.Changes op s) :
    s.HasKind k.catalog.registry path kind p ↔ k.KindAfter op s p path kind := by
  cases change with
  | declare =>
      refine hasKind_iff_of_write (fun _ => Scopes.at?_declare) (fun x apart => ?_) ?_
      · simp [apart]
      · simp [Registry.Pins, ClauseSet.empty]
  | declareExternal =>
      refine hasKind_iff_of_write (fun _ => Scopes.at?_declare) (fun x apart => ?_) ?_
      · simp [apart]
      · simp [not_pins_typeOnly]
  | @assign target source b required known bound declared source_known subsumes =>
      obtain ⟨q, place, -⟩ := binding_eq_ok_iff.1 bound
      refine hasKind_iff_of_write (fun _ => at?_setProvenance place) (fun x apart => ?_) ?_
      · cases source <;> simp [place, Ne.symm apart]
      · -- what is declared adds no kind to what is known of the source
        have pinned : k.catalog.registry.Pins (known.union required) path kind ↔
            k.catalog.registry.Pins known path kind :=
          Registry.pins_union.trans (or_iff_left_of_imp (Registry.Pins.of_subsumes subsumes))
        rw [pinned, pins_sourceProvenance_iff source_known]
        cases source <;> simp [place]
  | @convert target source conversion v plan b planned bound valid =>
      obtain ⟨q, place, -⟩ := binding_eq_ok_iff.1 bound
      obtain ⟨all, known, required, source_known, made⟩ := planConversion_eq_ok_iff.1 planned
      obtain ⟨-, -, rfl⟩ := plan_eq_ok_iff.1 made
      refine hasKind_iff_of_write (fun _ => at?_setProvenance place) (fun x apart => ?_) ?_
      · cases source <;> simp [place, Ne.symm apart]
      · rw [Registry.pins_union, pins_sourceProvenance_iff source_known, or_comm]
        cases source <;> simp [place, required, Registry.mem_kindsAt]
  | @narrow name conversion v plan b planned bound valid =>
      obtain ⟨q, place, found⟩ := binding_eq_ok_iff.1 bound
      obtain ⟨b', all, bound', required, made⟩ := planNarrowing_eq_ok_iff.1 planned
      obtain rfl := Except.ok.inj (bound.symm.trans bound')
      obtain ⟨-, -, rfl⟩ := plan_eq_ok_iff.1 made
      refine hasKind_iff_of_write (fun _ => at?_setProvenance place) (fun x apart => ?_) ?_
      · simp [place, Ne.symm apart]
      · have granted : Operation.Grants k q path kind (.narrow name conversion v) ↔
            k.catalog.registry.Pins all path kind := by
          simp [place, required, Registry.mem_kindsAt]
        rw [granted, Registry.pins_union, Registry.pins_union, Scopes.hasKind_iff_of_at? found]
        simp only [Operation.Copies, Operation.Replaces, false_and, exists_false, false_or,
          not_false_eq_true, and_true]
        tauto
  | requireTag => exact hasKind_iff_of_still (fun b found => found) (by simp) (by simp) (by simp)
  | pushScope =>
      refine hasKind_iff_of_still (fun b found => ?_) (by simp) (by simp) (by simp)
      rwa [Scopes.at?_enter] at found
  | popScope =>
      exact hasKind_iff_of_still (fun b found => Scopes.at?_of_leave found) (by simp) (by simp)
        (by simp)

end Checker

/-- The history of a kind at a path of the binding at a place, after some operations: one of them
granted it there or copied it there from a place to which it descends, and since then the binding got
no other value. -/
inductive Descends (c : Catalog) (path : List String) (kind : String) :
    List Operation → Place → Prop
  | granted {ops : List Operation} {op : Operation} {p : Place}
      (done : (((Checker.start c).performAll ops).perform op).2.isOk = true)
      (grants : op.Grants ((Checker.start c).performAll ops) p path kind) :
      Descends c path kind (ops ++ [op]) p
  | copied {ops : List Operation} {op : Operation} {origin p : Place}
      (had : Descends c path kind ops origin)
      (done : (((Checker.start c).performAll ops).perform op).2.isOk = true)
      (copies : op.Copies ((Checker.start c).performAll ops).scopes origin p) :
      Descends c path kind (ops ++ [op]) p
  | kept {ops : List Operation} {op : Operation} {p : Place} (had : Descends c path kind ops p)
      (stays : (((Checker.start c).performAll ops).perform op).2.isOk = true →
        ¬op.Replaces ((Checker.start c).performAll ops).scopes p)
      (bound : (((Checker.start c).performAll (ops ++ [op])).scopes.at? p).isSome = true) :
      Descends c path kind (ops ++ [op]) p

namespace Descends

variable {c : Catalog} {path : List String} {kind : String} {ops : List Operation} {op : Operation}
  {p : Place}

theorem not_nil : ¬Descends c path kind [] p := by
  intro h
  generalize empty : ([] : List Operation) = all at h
  cases h <;> simp at empty

/-- The last operation of a history, with what it did to the kind. -/
theorem concat_iff :
    Descends c path kind (ops ++ [op]) p ↔
      let k := (Checker.start c).performAll ops
      ((k.perform op).2.isOk = true ∧ op.Grants k p path kind) ∨
        ((k.perform op).2.isOk = true ∧
          ∃ q, op.Copies k.scopes q p ∧ Descends c path kind ops q) ∨
        (Descends c path kind ops p ∧ ((k.perform op).2.isOk = true → ¬op.Replaces k.scopes p) ∧
          ((k.perform op).1.scopes.at? p).isSome = true) := by
  constructor
  · intro h
    generalize eq : ops ++ [op] = all at h
    cases h with
    | granted done grants =>
        obtain ⟨rfl, ⟨⟩⟩ := List.append_inj' eq rfl
        exact .inl ⟨done, grants⟩
    | copied had done copies =>
        obtain ⟨rfl, ⟨⟩⟩ := List.append_inj' eq rfl
        exact .inr (.inl ⟨done, _, copies, had⟩)
    | kept had stays bound =>
        obtain ⟨rfl, ⟨⟩⟩ := List.append_inj' eq rfl
        rw [Checker.performAll_concat] at bound
        exact .inr (.inr ⟨had, stays, bound⟩)
  · rintro (⟨done, grants⟩ | ⟨done, q, copies, had⟩ | ⟨had, stays, bound⟩)
    · exact .granted done grants
    · exact .copied had done copies
    · exact .kept had stays (by rwa [Checker.performAll_concat])

end Descends

namespace Checker

variable {c : Catalog} {path : List String} {kind : String}

/-- **A kind is recorded exactly where it descends from a grant.** -/
theorem hasKind_iff_descends (ops : List Operation) (p : Place) :
    ((start c).performAll ops).scopes.HasKind c.registry path kind p ↔
      Descends c path kind ops p := by
  induction ops using List.reverseRecOn generalizing p with
  | nil =>
      refine iff_of_false ?_ Descends.not_nil
      rintro ⟨b, found, -⟩
      simp [performAll, start] at found
  | append_singleton ops op ih =>
      rw [Descends.concat_iff, performAll_concat]
      simp only [← ih]
      have catalog : ((start c).performAll ops).catalog = c := catalog_performAll _ ops
      generalize (start c).performAll ops = k at catalog
      subst catalog
      obtain ⟨e, failed, same⟩ | ⟨done, change⟩ := k.perform_cases op
      · -- nothing was written, and no binding was lost
        rw [same]
        simp only [failed, Except.isOk, Except.toBool, Bool.false_eq_true, false_and, false_or,
          false_implies, true_and]
        exact ⟨fun has => ⟨has, has.isSome⟩, And.left⟩
      · rw [hasKind_iff_of_changes change, isOk_iff.2 ⟨(), done⟩]
        simp only [true_and, true_implies, KindAfter]

/-! ### Assignments -/

/-- The kinds that a source brings along: those of the binding that it names. -/
def sourceKinds (k : Checker) : Source → KindPaths
  | .binding name =>
      match k.provenance name with
      | .ok s => k.catalog.registry.effectiveKinds s
      | .error _ => []
  | .literal _ | .untyped _ => []

variable {k k' : Checker} {target : String} {source : Source}

theorem effectiveKinds_sourceProvenance {required known : ClauseSet}
    (h : k.sourceProvenance source required = .ok known) :
    k.catalog.registry.effectiveKinds known = k.sourceKinds source := by
  cases source with
  | binding name =>
      have h : k.provenance name = .ok known := h
      simp only [sourceKinds, h]
  | literal v => exact Registry.effectiveKinds_eq_nil_iff.2 fun _ _ => not_pins_literal h
  | untyped t =>
      obtain rfl := Except.ok.inj h
      exact Registry.effectiveKinds_eq_nil_iff.2 fun _ _ => not_pins_typeOnly

/-- After an assignment the target has the kinds of the source. -/
theorem effectiveKinds_assign {outcome : Outcome}
    (h : k.assign target source = (k', .ok outcome)) :
    ∃ after, k'.provenance target = .ok after ∧
      k.catalog.registry.effectiveKinds after = k.sourceKinds source := by
  obtain ⟨b, required, known, bound, -, source_known, subsumes, rfl, -⟩ := assign_eq_ok_iff.1 h
  refine ⟨known.union required, provenance_of_binding (binding_setProvenance bound), ?_⟩
  rw [← effectiveKinds_sourceProvenance source_known]
  refine Registry.effectiveKinds_congr fun path kind => ?_
  exact Registry.pins_union.trans (or_iff_left_of_imp (Registry.Pins.of_subsumes subsumes))

/-- What brings no kinds along cannot be assigned where a kind is declared. -/
theorem assign_fails_of_kinds {b : Binding} {required : ClauseSet} (bound : k.binding target = .ok b)
    (declared : k.catalog.registry.resolve b.declared = .ok required)
    (kinds : k.catalog.registry.effectiveKinds required ≠ []) (bare : k.sourceKinds source = []) :
    ∃ e, k.assign target source = (k, .error e) := by
  obtain failed | ⟨b', required', known, bound', declared', source_known, subsumes, -⟩ :=
    k.assign_cases target source
  · exact failed
  · obtain rfl := Except.ok.inj (bound.symm.trans bound')
    obtain rfl := Except.ok.inj (declared.symm.trans declared')
    rw [← effectiveKinds_sourceProvenance source_known, Registry.effectiveKinds_eq_nil_iff] at bare
    refine absurd (Registry.effectiveKinds_eq_nil_iff.2 fun path kind pins => ?_) kinds
    exact bare path kind (pins.of_subsumes subsumes)

/-- Every run keeps to one kind at every path of every binding. -/
theorem performAll_oneKind (c : Catalog) (ops : List Operation) :
    ((start c).performAll ops).scopes.AllProven c.registry.OneKind := by
  induction ops using List.reverseRecOn with
  | nil =>
      intro p b found
      simp [performAll, start] at found
  | append_singleton ops op ih =>
      have catalog : ((start c).performAll ops).catalog = c := catalog_performAll _ ops
      rw [performAll_concat]
      have step := perform_oneKind (k := (start c).performAll ops) (by rwa [catalog]) op
      rwa [catalog] at step

/-- **Kinds cannot be forged.**  After every run, each binding has at most one kind at every path; an
assignment gives its target exactly the kinds of its source, which for a literal and for a value from
outside are none, so that these are never accepted where a kind is declared; and a kind is recorded
exactly where it descends from a conversion or a narrowing that required it. -/
theorem kinds_cannot_be_forged (c : Catalog) (ops : List Operation) :
    let k := (start c).performAll ops
    (∀ p b, k.scopes.at? p = some b →
      ∀ path, (c.registry.kindsAt b.provenance path).length ≤ 1) ∧
    (∀ target source k' outcome, k.assign target source = (k', .ok outcome) →
      ∃ after, k'.provenance target = .ok after ∧
        c.registry.effectiveKinds after = k.sourceKinds source) ∧
    (∀ target source b required, (∀ name, source ≠ .binding name) → k.binding target = .ok b →
      c.registry.resolve b.declared = .ok required → c.registry.effectiveKinds required ≠ [] →
      ∃ e, k.assign target source = (k, .error e)) ∧
    ∀ p path kind,
      k.scopes.HasKind c.registry path kind p ↔ Descends c path kind ops p := by
  intro k
  have catalog : k.catalog = c := catalog_performAll _ ops
  refine ⟨fun p b found path => ?_, fun target source k' outcome assigned => ?_,
    fun target source b required bare bound declared kinds => ?_,
    fun p path kind => hasKind_iff_descends ops p⟩
  · exact (performAll_oneKind c ops p b found).length_kindsAt_le path
  · rw [← catalog]
    exact effectiveKinds_assign assigned
  · rw [← catalog] at declared kinds
    refine assign_fails_of_kinds bound declared kinds ?_
    cases source with
    | binding name => exact absurd rfl (bare name)
    | literal v => rfl
    | untyped t => rfl

/-- A badge that only citizens have, and guests, who may wear one. -/
def badges : Catalog :=
  let badge : ClauseSet := .ofList [.kindOf "citizen", .typeIs (.primitive .string)]
  let guest : ClauseSet := .ofList [.typeIs (.primitive .object), .field "badge" ⟨0⟩]
  { Catalog.empty with
    kinds := ["citizen"]
    registry := Registry.empty
      |>.push (some "Badge") badge (by decide)
      |>.push (some "Guest") guest (by decide) }

/-- An object with a text for a badge. -/
def wearer : Value := .object [("badge", .string "A-17")]

/-- A guest comes in from outside and is checked, the same object written down as a literal is refused,
and a copy is made in an inner scope. -/
def arrival : List Operation :=
  [.declareExternal "guest" ⟨1⟩ .object, .narrow "guest" (.constrainedBy ⟨1⟩) wearer, .pushScope,
    .declare "copy" ⟨1⟩, .assign "copy" (.literal wearer), .assign "copy" (.binding "guest")]

/-- The badge of the copy has a kind, which goes back to the check of the guest; a literal is still
refused. -/
theorem kinds_cannot_be_forged_arrival :
    ((start badges).performAll arrival).scopes.HasKind badges.registry ["badge"] "citizen"
        ⟨1, "copy"⟩ ∧
      Descends badges ["badge"] "citizen" arrival ⟨1, "copy"⟩ ∧
      ∃ e, ((start badges).performAll arrival).assign "copy" (.literal wearer) =
        ((start badges).performAll arrival, .error e) := by
  obtain ⟨-, -, refused, descent⟩ := kinds_cannot_be_forged badges arrival
  have has : ((start badges).performAll arrival).scopes.HasKind badges.registry ["badge"] "citizen"
      ⟨1, "copy"⟩ := ⟨Option.get _ (by decide +kernel), (Option.some_get _).symm, by decide +kernel⟩
  have declared : (((start badges).performAll arrival).scopes.find? "copy").map Binding.declared =
      some ⟨1⟩ := by decide +kernel
  obtain ⟨b, found, guest⟩ := Option.map_eq_some_iff.1 declared
  refine ⟨has, (descent _ _ _).1 has, ?_⟩
  refine refused "copy" (.literal wearer) b
    (.ofList [.typeIs (.primitive .object), .field "badge" ⟨0⟩]) (by simp) ?_ ?_ (by decide +kernel)
  · rw [binding, found]
  · rw [guest]
    rfl

end Checker

end ProvenShapes
