/-
**Chains of references.**

A set of clauses says something about a value not only through its own clauses: a type clause may
refer to a pattern, whose clauses speak of the same value, and a field clause to a pattern whose
clauses speak of a field of it.  A chain of such references leads from the set to a clause, and the
field clauses along it spell the path at which that clause speaks.  The functions that compute kinds
walk along references on their own; here they are seen to find exactly the kinds at the ends of
chains.

Subsumption walks along references too, but along those of two sets at once and clause by clause.
Nevertheless it never leads to a kind that is not there: a chain from the set that is subsumed has a
chain beside it, from the set that subsumes it, with the same path and the same kind at its end.

Main definitions:

* `Registry.LeadsTo` — a chain of references leads from a set to a clause at a path.

Main results:

* `Registry.pins_iff_leadsTo` — **the kinds that a set pins are those at the ends of its chains**;
* `Registry.exists_mem_kindPaths_of_carriesKind` — a clause that carries a kind pins one;
* `Registry.implication_invents_no_kind` — **a set has all kinds of the sets that it subsumes**.
-/

import ProvenShapes.Proofs.Descent
import ProvenShapes.Proofs.Walks

set_option autoImplicit false

namespace ProvenShapes

namespace Registry

/-- A chain of references leads from a set to the clause `c` at a path: a type clause refers to the
clauses at the same path, a field clause to those at the path that begins with the field. -/
inductive LeadsTo (r : Registry) (c : Clause) : ClauseSet → List String → Prop
  | here {s : ClauseSet} (mem : c ∈ s.toList) : LeadsTo r c s []
  | behind {s t : ClauseSet} {id : PatternId} {path : List String}
      (mem : .typeIs (.pattern id) ∈ s.toList) (known : r.resolve? id = some t)
      (rest : LeadsTo r c t path) : LeadsTo r c s path
  | inside {s t : ClauseSet} {name : String} {id : PatternId} {path : List String}
      (mem : .field name id ∈ s.toList) (known : r.resolve? id = some t)
      (rest : LeadsTo r c t path) : LeadsTo r c s (name :: path)

variable {r : Registry} {c : Clause} {s t : ClauseSet} {p q : PatternId} {path : List String}
  {kind : String}

/-- What a clause of a registered pattern refers to is registered, and before the pattern. -/
theorem exists_resolve?_of_reference? (known : r.resolve? p = some s) (mem : c ∈ s.toList)
    (refers : c.reference? = some q) : q.index < p.index ∧ ∃ t, r.resolve? q = some t := by
  have before : q.index < p.index := by
    have reaches := rank_le known mem
    rw [Clause.rank_eq_of_reference? refers] at reaches
    exact reaches
  have registered := index_lt_of_resolve known
  refine ⟨before, ?_⟩
  have found : q.index < r.patterns.length := Nat.lt_trans before registered
  exact ⟨_, by rw [resolve?, get?, List.getElem?_eq_getElem found]; rfl⟩

/-- A chain from a union starts in one of the two sets. -/
theorem LeadsTo.of_union (h : r.LeadsTo c (s.union t) path) :
    r.LeadsTo c s path ∨ r.LeadsTo c t path := by
  cases h with
  | here mem => exact (ClauseSet.mem_union mem).imp .here .here
  | behind mem known rest =>
      rcases ClauseSet.mem_union mem with mem | mem
      · exact .inl (.behind mem known rest)
      · exact .inr (.behind mem known rest)
  | inside mem known rest =>
      rcases ClauseSet.mem_union mem with mem | mem
      · exact .inl (.inside mem known rest)
      · exact .inr (.inside mem known rest)

/-! ### Chains to kinds -/

theorem leadsTo_of_mem_kindPaths (mem : c ∈ s.toList) (pinned : (path, kind) ∈ r.kindPaths c) :
    r.LeadsTo (.kindOf kind) s path := by
  -- references lead to clauses that reach less far
  induction hrank : c.rank using Nat.strongRecOn generalizing c s path with
  | _ rank ih =>
      subst hrank
      cases c with
      | typeIs type =>
          cases type with
          | primitive x => simp [kindPaths_type] at pinned
          | pattern id =>
              obtain ⟨t, known, d, hd, further⟩ := mem_kindPaths_reference.1 pinned
              exact .behind mem known (ih _ (rank_lt rfl known hd) hd further rfl)
      | field name id =>
          obtain ⟨t, rest, known, rfl, d, hd, further⟩ := mem_kindPaths_field.1 pinned
          exact .inside mem known (ih _ (rank_lt rfl known hd) hd further rfl)
      | kindOf own =>
          obtain ⟨rfl, rfl⟩ : path = [] ∧ kind = own := by simpa [kindPaths] using pinned
          exact .here mem
      | _ => simp [kindPaths] at pinned

theorem LeadsTo.pins (h : r.LeadsTo (.kindOf kind) s path) : r.Pins s path kind := by
  induction h with
  | here mem => exact ⟨_, mem, by simp [kindPaths]⟩
  | behind mem known _ ih => exact ⟨_, mem, mem_kindPaths_reference.2 ⟨_, known, ih⟩⟩
  | inside mem known _ ih => exact ⟨_, mem, mem_kindPaths_field.2 ⟨_, _, known, rfl, ih⟩⟩

/-- A set pins a kind at a path when a chain of references leads to the kind there. -/
theorem pins_iff_leadsTo : r.Pins s path kind ↔ r.LeadsTo (.kindOf kind) s path := by
  constructor
  · rintro ⟨c, mem, pinned⟩
    exact leadsTo_of_mem_kindPaths mem pinned
  · exact LeadsTo.pins

theorem exists_mem_kindPaths_of_reference {d : Clause} {id : PatternId}
    (ref : c.reference? = some id) (known : r.resolve? id = some t) (hd : d ∈ t.toList)
    (pinned : (path, kind) ∈ r.kindPaths d) : ∃ longer, (longer, kind) ∈ r.kindPaths c := by
  cases c with
  | typeIs type =>
      cases type with
      | primitive x => simp [Clause.reference?] at ref
      | pattern id' =>
          obtain rfl := Option.some.inj ref
          exact ⟨path, mem_kindPaths_reference.2 ⟨t, known, d, hd, pinned⟩⟩
  | field name id' =>
      obtain rfl := Option.some.inj ref
      exact ⟨name :: path, mem_kindPaths_field.2 ⟨t, path, known, rfl, d, hd, pinned⟩⟩
  | _ => simp [Clause.reference?] at ref

/-- A clause that carries a kind pins one somewhere. -/
theorem exists_mem_kindPaths_of_carriesKind (h : r.carriesKind c = true) :
    ∃ path kind, (path, kind) ∈ r.kindPaths c := by
  induction hrank : c.rank using Nat.strongRecOn generalizing c with
  | _ rank ih =>
      subst hrank
      cases ref : c.reference? with
      | none =>
          cases c with
          | kindOf kind => exact ⟨[], kind, by simp [kindPaths]⟩
          | typeIs type => cases type <;> simp_all [carriesKind, Clause.reference?]
          | field name id => simp [Clause.reference?] at ref
          | _ => simp [carriesKind] at h
      | some id =>
          rw [carriesKind_reference ref] at h
          cases known : r.resolve? id with
          | none => simp [known] at h
          | some t =>
              obtain ⟨d, hd, carries⟩ : ∃ d ∈ t.toList, r.carriesKind d = true := by
                simpa [known] using h
              obtain ⟨path, kind, pinned⟩ := ih _ (rank_lt ref known hd) carries rfl
              obtain ⟨longer, here⟩ := exists_mem_kindPaths_of_reference ref known hd pinned
              exact ⟨longer, kind, here⟩

/-! ### Kinds and subsumption -/

/-- **A set has all kinds of the sets that it subsumes**, each at the same path.  So a pattern from
which a chain of references leads to a kind does not subsume a pattern without that kind there. -/
theorem implication_invents_no_kind (r : Registry) :
    (∀ s t, r.subsumes s t = true →
      ∀ path, ∀ kind ∈ r.kindsAt t path, kind ∈ r.kindsAt s path) ∧
    (∀ p q s t path kind, r.resolve? p = some s → r.resolve? q = some t →
      r.LeadsTo (.kindOf kind) t path → kind ∉ r.kindsAt s path →
      r.subsumedBy p q = .ok false) := by
  have kept : ∀ s t, r.subsumes s t = true →
      ∀ path, ∀ kind ∈ r.kindsAt t path, kind ∈ r.kindsAt s path := by
    intro s t sub path kind mem
    exact mem_kindsAt.2 (Pins.of_subsumes sub (mem_kindsAt.1 mem))
  refine ⟨kept, ?_⟩
  intro p q s t path kind hs ht chain absent
  have pinned : kind ∈ r.kindsAt t path := mem_kindsAt.2 (pins_iff_leadsTo.2 chain)
  refine subsumedBy_eq_ok_iff.2 ⟨s, t, hs, ht, ?_⟩
  by_contra sub
  exact absent (kept s t (by simpa using sub) path kind pinned)

/-- Texts that are citizens, plain texts, a reference to the first, and objects whose hosts are each
of the three. -/
def hosts : Registry :=
  let citizen : ClauseSet := .ofList [.typeIs (.primitive .string), .kindOf "citizen"]
  let guest : ClauseSet := .ofList [.typeIs (.primitive .string)]
  let resident : ClauseSet := .ofList [.typeIs (.pattern ⟨0⟩)]
  let visit : ClauseSet := .ofList [.field "host" ⟨0⟩]
  let call : ClauseSet := .ofList [.field "host" ⟨1⟩]
  let stay : ClauseSet := .ofList [.field "host" ⟨2⟩]
  Registry.empty
    |>.push (some "Citizen") citizen (by decide)
    |>.push (some "Guest") guest (by decide)
    |>.push (some "Resident") resident (by decide)
    |>.push (some "Visit") visit (by decide)
    |>.push (some "Call") call (by decide)
    |>.push (some "Stay") stay (by decide)

/-- A stay is a visit, and the host is a citizen in both, in the stay behind one more reference.  A
call, whose host is any text, is no stay. -/
theorem implication_invents_no_kind_hosts :
    let visit := ClauseSet.ofList [.field "host" ⟨0⟩]
    let stay := ClauseSet.ofList [.field "host" ⟨2⟩]
    hosts.subsumes stay visit = true ∧
      "citizen" ∈ hosts.kindsAt visit ["host"] ∧ "citizen" ∈ hosts.kindsAt stay ["host"] ∧
      hosts.LeadsTo (.kindOf "citizen") stay ["host"] ∧ hosts.subsumedBy ⟨4⟩ ⟨5⟩ = .ok false := by
  intro visit stay
  have sub : hosts.subsumes stay visit = true := by decide +kernel
  have pinned : "citizen" ∈ hosts.kindsAt visit ["host"] := by decide +kernel
  have field : .field "host" ⟨2⟩ ∈ stay.toList := List.mem_cons_self
  have resident : hosts.resolve? ⟨2⟩ = some (.ofList [.typeIs (.pattern ⟨0⟩)]) := rfl
  have reference : .typeIs (.pattern ⟨0⟩) ∈ (ClauseSet.ofList [.typeIs (.pattern ⟨0⟩)]).toList :=
    List.mem_cons_self
  have citizen : hosts.resolve? ⟨0⟩ =
      some (.ofList [.typeIs (.primitive .string), .kindOf "citizen"]) := rfl
  have kind : .kindOf "citizen" ∈
      (ClauseSet.ofList [.typeIs (.primitive .string), .kindOf "citizen"]).toList :=
    (ClauseSet.contains_iff_mem (by simp)).1 rfl
  have chain : hosts.LeadsTo (.kindOf "citizen") stay ["host"] :=
    .inside field resident (.behind reference citizen (.here kind))
  have law := implication_invents_no_kind hosts
  refine ⟨sub, pinned, law.1 stay visit sub ["host"] "citizen" pinned, chain, ?_⟩
  exact law.2 ⟨4⟩ ⟨5⟩ _ stay ["host"] "citizen" rfl rfl chain (by decide +kernel)

end Registry

end ProvenShapes
