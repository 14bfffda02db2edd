/-
**What a reference means.**

A pattern may consist of one reference to another pattern.  It then means the pattern that it refers
to: as long as the nesting limit is not smaller than the number of patterns, both accept the same
values.  One level further out this is no longer so.  An object that has a field is judged by all
that lies behind the pattern of the field, but an object that lacks it is judged by the clauses of
that pattern alone.  If the pattern referred to demands presence, the reference in front of it hides
the demand.  This is the only difference, and it goes one way: a field clause with the reference
accepts what a field clause with the pattern accepts, and the objects that lack a demanded field in
addition.  Implication, which looks through references, takes no notice of it.

Main results:

* `Evaluator.forall_holds_reference_iff` — behind a reference the same values are accepted;
* `Registry.entails_of_behind` — a reference implies every clause behind it;
* `Catalog.reference_means_its_pattern` — **what a pattern that is one reference accepts, and what
  its field clauses accept**;
* `Catalog.reference_hides_demand` — a reference that hides a demand.
-/

import ProvenShapes.Proofs.Preorder
import ProvenShapes.Proofs.Records

set_option autoImplicit false

namespace ProvenShapes

/-! ### Clauses behind a reference -/

namespace Registry

variable {r : Registry} {p q : PatternId} {s t : ClauseSet} {c : Clause}

/-- A reference implies every clause behind it. -/
theorem entails_of_behind (known : r.resolve? p = some s) (mem : c ∈ s.toList) :
    r.Entails (.typeIs (.pattern p)) c := by
  -- a clause behind the reference may be a reference itself, to clauses that reach less far
  induction hrank : c.rank using Nat.strongRecOn generalizing c p s with
  | _ rank ih =>
      subst hrank
      by_cases stacked : ∃ q, c = .typeIs (.pattern q)
      · obtain ⟨q, rfl⟩ := stacked
        obtain ⟨-, t, further⟩ := exists_resolve?_of_reference? known mem rfl
        refine .reference (fun _ => .typeIs (.pattern q)) known further (fun _ _ _ => mem) ?_
        intro d hd _
        exact ih _ (rank_lt rfl further hd) further hd rfl
      · have plain : ∀ q, c ≠ .typeIs (.pattern q) := fun q same => stacked ⟨q, same⟩
        exact .behind known mem plain (.same c.beq_refl)

/-- A field with a pattern that is one reference implies the field with the pattern referred to. -/
theorem implies_field_of_reference (name : String) (hs : r.resolve? p = some s)
    (ht : r.resolve? q = some t) (only : t.toList = [.typeIs (.pattern p)]) :
    r.implies (.field name q) (.field name p) = true := by
  refine implies_field_iff.2 ⟨rfl, .inr ⟨t, s, ht, hs, subsumes_iff.2 fun c mem _ => ?_⟩⟩
  exact ⟨.typeIs (.pattern p), by simp [only], entails_of_behind hs mem⟩

end Registry

/-! ### Evaluation behind a reference -/

namespace Evaluator

variable {e : Evaluator} {v : Value} {depth : Nat} {p q : PatternId} {s t : ClauseSet}

/-- A pattern that is one reference holds of the same values as the pattern referred to, as long as
the references behind both stay within the nesting limit. -/
theorem forall_holds_reference_iff (hs : e.registry.resolve? p = some s)
    (only : t.toList = [.typeIs (.pattern p)])
    (room : depth + p.index < e.options.maxNesting) :
    (∀ b ∈ t.toList, e.Holds b v depth) ↔ ∀ a ∈ s.toList, e.Holds a v depth := by
  have deeper : ∀ a ∈ s.toList, e.Holds a v (depth + 1) ↔ e.Holds a v depth := by
    intro a ha
    have reaches : a.rank ≤ p.index := Registry.rank_le hs ha
    have same : e.holds a v (depth + 1) = e.holds a v depth :=
      holds_eq_of_room (by omega) (by omega)
    rw [Holds, Holds, same]
  rw [only, List.forall_mem_singleton, holds_reference_iff]
  constructor
  · rintro ⟨-, s', hs', all⟩ a ha
    obtain rfl := Option.some.inj (hs.symm.trans hs')
    exact (deeper a ha).1 (all a ha)
  · intro all
    exact ⟨by omega, s, hs, fun a ha => (deeper a ha).2 (all a ha)⟩

/-- A field with a pattern that is one reference accepts what the field with the pattern referred to
accepts, and objects that lack a field which the latter demands. -/
theorem holds_field_reference_iff (name : String) (hs : e.registry.resolve? p = some s)
    (ht : e.registry.resolve? q = some t) (only : t.toList = [.typeIs (.pattern p)])
    (room : depth + q.index < e.options.maxNesting) :
    e.Holds (.field name q) v depth ↔
      e.Holds (.field name p) v depth ∨
        s.contains (.required true) = true ∧
          ∃ fields, v = .object fields ∧ Keyed.find? name fields = none := by
  obtain ⟨before, -⟩ := Registry.exists_resolve?_of_reference? (c := .typeIs (.pattern p)) ht
    (by simp [only]) rfl
  have same : ∀ w, (∀ b ∈ t.toList, e.Holds b w (depth + 1)) ↔
      ∀ a ∈ s.toList, e.Holds a w (depth + 1) :=
    fun w => forall_holds_reference_iff hs only (by omega)
  have silent : t.contains (.required true) = false := by
    rw [← Bool.not_eq_true, ClauseSet.contains_iff_mem (by simp), only]
    simp
  rw [holds_field_iff, holds_field_iff]
  constructor
  · rintro ⟨limit, fields, t', rfl, ht', present, -⟩
    obtain rfl := Option.some.inj (ht.symm.trans ht')
    by_cases hidden : s.contains (.required true) = true ∧ Keyed.find? name fields = none
    · exact .inr ⟨hidden.1, fields, rfl, hidden.2⟩
    · left
      refine ⟨limit, fields, s, rfl, hs, fun w found => (same w).1 (present w found), ?_⟩
      intro absent
      by_contra demands
      exact hidden ⟨by simpa using demands, absent⟩
  · rintro (⟨limit, fields, s', rfl, hs', present, -⟩ | ⟨-, fields, rfl, absent⟩)
    · obtain rfl := Option.some.inj (hs.symm.trans hs')
      exact ⟨limit, fields, t, rfl, ht, fun w found => (same w).2 (present w found), fun _ => silent⟩
    · exact ⟨by omega, fields, t, rfl, ht, by simp [absent], fun _ => silent⟩

/-- The two fields accept the same values exactly if the pattern referred to demands nothing. -/
theorem forall_holds_field_reference_iff (name : String) (hs : e.registry.resolve? p = some s)
    (ht : e.registry.resolve? q = some t) (only : t.toList = [.typeIs (.pattern p)])
    (room : depth + q.index < e.options.maxNesting) :
    (∀ v, e.Holds (.field name q) v depth ↔ e.Holds (.field name p) v depth) ↔
      s.contains (.required true) = false := by
  constructor
  · -- the empty object lacks the field, and only the reference lets it pass
    intro agree
    by_contra demanded
    have demanded : s.contains (.required true) = true := by simpa using demanded
    have passes : e.Holds (.field name q) (.object []) depth :=
      (holds_field_reference_iff name hs ht only room).2 (.inr ⟨demanded, [], rfl, rfl⟩)
    obtain ⟨-, fields, s', same, hs', -, absent⟩ := holds_field_iff.1 ((agree _).1 passes)
    obtain rfl := Value.object.inj same
    obtain rfl := Option.some.inj (hs.symm.trans hs')
    simp [absent rfl] at demanded
  · intro silent v
    rw [holds_field_reference_iff name hs ht only room]
    simp [silent]

end Evaluator

namespace Catalog

/-- **What a pattern that is one reference means.**  Under a nesting limit that is not smaller than
the number of patterns it accepts the values of the pattern referred to.  A field clause with it is
taken to imply the field clause with that pattern.  In truth it accepts, besides the values of the
latter, the objects that lack the field although the pattern itself demands it; so the two accept
the same values exactly if there is no such demand. -/
theorem reference_means_its_pattern (c : Catalog)
    (room : c.registry.size ≤ c.options.maxNesting) {p q : PatternId} {s t : ClauseSet}
    (hs : c.registry.resolve? p = some s) (ht : c.registry.resolve? q = some t)
    (only : t.toList = [.typeIs (.pattern p)]) :
    (∀ v, c.validate q v = .ok () ↔ c.validate p v = .ok ()) ∧
    (∀ name, c.registry.implies (.field name q) (.field name p) = true) ∧
    (∀ name v, c.evaluator.Holds (.field name q) v 0 ↔
      c.evaluator.Holds (.field name p) v 0 ∨
        s.contains (.required true) = true ∧
          ∃ fields, v = .object fields ∧ Keyed.find? name fields = none) ∧
    (∀ name, (∀ v, c.evaluator.Holds (.field name q) v 0 ↔ c.evaluator.Holds (.field name p) v 0) ↔
      s.contains (.required true) = false) := by
  have limit : c.evaluator.options.maxNesting = c.options.maxNesting := rfl
  have room_p : 0 + p.index < c.evaluator.options.maxNesting := by
    have registered := Registry.index_lt_of_resolve hs
    omega
  have room_q : 0 + q.index < c.evaluator.options.maxNesting := by
    have registered := Registry.index_lt_of_resolve ht
    omega
  refine ⟨?_, ?_, ?_, ?_⟩
  · intro v
    have same := Evaluator.forall_holds_reference_iff (e := c.evaluator) (v := v) hs only room_p
    rw [validate_eq_ok_iff, validate_eq_ok_iff, hs, ht]
    simpa using same
  · intro name
    exact Registry.implies_field_of_reference name hs ht only
  · intro name v
    exact Evaluator.holds_field_reference_iff name hs ht only room_q
  · intro name
    exact Evaluator.forall_holds_field_reference_iff name hs ht only room_q

/-- An account is one reference to a login, which is not demanded by itself.  So what is valid for a
login is valid for an account, and fields with either pattern accept the same objects. -/
theorem reference_means_its_pattern_account :
    contacts.registry.size ≤ contacts.options.maxNesting ∧ contacts.validate ⟨4⟩ ada = .ok () ∧
      ∀ v, contacts.evaluator.Holds (.field "user" ⟨4⟩) v 0 ↔
        contacts.evaluator.Holds (.field "user" ⟨2⟩) v 0 := by
  let login : ClauseSet := .ofList [.typeIs (.primitive .object), .field "name" ⟨0⟩]
  have room : contacts.registry.size ≤ contacts.options.maxNesting := by decide
  have resolved : contacts.registry.resolve? ⟨2⟩ = some login := rfl
  have law := reference_means_its_pattern contacts room resolved
    (rfl : contacts.registry.resolve? ⟨4⟩ = some (.ofList [.typeIs (.pattern ⟨2⟩)])) rfl
  have holds : ∀ a ∈ login.toList, contacts.evaluator.Holds a ada 0 := by decide +kernel
  have valid := (law.1 ada).2 (validate_eq_ok_iff.2 ⟨login, resolved, holds⟩)
  exact ⟨room, valid, (law.2.2.2 "user").2 (by decide +kernel)⟩

/-- A reference hides a demand.  A filled title is one reference to a title that has to be present,
and the two are the same to every value.  Nevertheless the empty object passes where its title has
to be filled, and fails where it has to be present. -/
theorem reference_hides_demand :
    let c := Checker.drafts.catalog
    c.registry.size ≤ c.options.maxNesting ∧
      (c.registry.resolve? ⟨0⟩).map ClauseSet.toList = some [.required true] ∧
      (c.registry.resolve? ⟨1⟩).map ClauseSet.toList = some [.typeIs (.pattern ⟨0⟩)] ∧
      c.registry.implies (.field "title" ⟨1⟩) (.field "title" ⟨0⟩) = true ∧
      c.evaluator.Holds (.field "title" ⟨1⟩) (.object []) 0 ∧
      ¬c.evaluator.Holds (.field "title" ⟨0⟩) (.object []) 0 := by
  decide +kernel

end Catalog

end ProvenShapes
