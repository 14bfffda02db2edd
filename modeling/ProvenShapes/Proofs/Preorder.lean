/-
**Subsumption is a preorder.**

Implication treats its two sides differently.  A reference on the left is opened, one on the right
is not; co-mutation is compared by implication and passed over by subsumption; and comparisons are
compared through intervals, whose ends may be rounded and whose hole may be written in two ways.
For all that, implication can be continued: whatever implies a clause implies what that clause
implies, as long as this is something that is required of values.  Towards co-mutation this fails,
because a reference implies another one whatever the patterns behind them say about co-mutation.
Subsumption never asks for co-mutation, so it is transitive without any condition.

For a checker this means that detours gain nothing.  A binding that got its value from another one
has recorded what the other has, and its own declared clauses, all of which are subsumed by what the
other has.  So whatever can be handed on from binding to binding could have been assigned to the
last of them at once.  A literal is different: what is known of it is found by evaluation, among the
clauses that are asked for, and evaluation may deny a clause that follows from others that it
grants.  So a literal may have to go through a binding to reach another one.  Where subsumption is
sound for evaluation it need not.

Main definitions:

* `Checker.handOn` — a source assigned to a binding, that binding to the next one, and so on.

Main results:

* `Registry.Entails.trans`, `Registry.subsumes_trans` — **implication and subsumption are
  transitive**;
* `Checker.subsumes_of_handOn` — what is handed on stays subsumed by what it came from;
* `Checker.exists_known_of_subsumes` — what is known of a source for one purpose, for another one;
* `Checker.subsumption_is_a_preorder` — sets, registered patterns and assignments in one statement;
* `Checker.literal_needs_a_detour` — a literal that cannot be assigned at once.
-/

import ProvenShapes.Proofs.Chains
import ProvenShapes.Proofs.Declarations
import ProvenShapes.Proofs.Provenance

set_option autoImplicit false

namespace ProvenShapes

namespace Registry

variable {r : Registry} {a b c : Clause} {s t u : ClauseSet} {q : PatternId}

/-! ### What a clause can entail -/

/-- What is required of a value is entailed only by what is required of a value. -/
theorem Entails.isValuePredicate (h : r.Entails a b) (needed : b.isValuePredicate = true) :
    a.isValuePredicate = true := by
  cases h with
  | same same =>
      obtain rfl | ⟨op, x, y, rfl, -⟩ := Clause.eq_or_value_of_beq same
      · exact needed
      · rfl
  | coMutation sub => exact needed
  | _ => rfl

/-- A reference is entailed only by references. -/
theorem Entails.exists_reference (h : r.Entails a (.typeIs (.pattern q))) :
    ∃ p, a = .typeIs (.pattern p) := by
  cases h with
  | same same =>
      have same := (Clause.beq_iff_eq_of_not_value (by simp)).1 (Clause.beq_symm same)
      exact ⟨q, same.symm⟩
  | reference => exact ⟨_, rfl⟩
  | behind hs hd plain inner => exact absurd rfl (plain q)

/-- A comparison entails only comparisons, with intervals around its own. -/
theorem Entails.of_value {op : Comparison} {x : Number} (h : r.Entails (.value op x) c) :
    ∃ op' y, c = .value op' y ∧ (Interval.ofValue op x).isWithin (.ofValue op' y) = true := by
  cases h with
  | same same =>
      obtain rfl | ⟨op', _, y, ⟨⟩, rfl, bounds⟩ := Clause.eq_or_value_of_beq same
      · exact ⟨op, x, rfl, Interval.isWithin_ofValue_of_eq Std.ReflCmp.compare_self⟩
      · exact ⟨op, y, rfl, Interval.isWithin_ofValue_of_eq bounds⟩
  | value within => exact ⟨_, _, rfl, within⟩

/-! ### Transitivity -/

/-- Two choices made one after the other are a choice. -/
theorem chosen_trans {chosen chosen' : Clause → Clause}
    (mem : ∀ c ∈ t.toList, c.isValuePredicate = true → chosen c ∈ s.toList)
    (each : ∀ c ∈ t.toList, c.isValuePredicate = true → ∀ {d}, r.Entails c d →
      d.isValuePredicate = true → r.Entails (chosen c) d)
    (mem' : ∀ d ∈ u.toList, d.isValuePredicate = true → chosen' d ∈ t.toList)
    (each' : ∀ d ∈ u.toList, d.isValuePredicate = true → r.Entails (chosen' d) d) :
    ∀ d ∈ u.toList, d.isValuePredicate = true →
      chosen (chosen' d) ∈ s.toList ∧ r.Entails (chosen (chosen' d)) d := by
  intro d hd needed
  have entails := each' d hd needed
  have middle := entails.isValuePredicate needed
  exact ⟨mem _ (mem' d hd needed) middle, each _ (mem' d hd needed) middle entails needed⟩

/-- Entailment is transitive towards what is required of values. -/
theorem Entails.trans (hab : r.Entails a b) (hbc : r.Entails b c)
    (needed : c.isValuePredicate = true) : r.Entails a c := by
  -- the first derivation is followed down, and the second one is read off its last rule
  induction hab generalizing c with
  | same same =>
      obtain rfl | ⟨op, x, y, rfl, rfl, bounds⟩ := Clause.eq_or_value_of_beq same
      · exact hbc
      · obtain ⟨op', z, rfl, within⟩ := hbc.of_value
        exact .value (Interval.isWithin_trans (Interval.isWithin_ofValue_of_eq bounds) within)
  | subtype sub =>
      cases hbc with
      | same same =>
          obtain rfl := (Clause.beq_iff_eq_of_not_value (by simp)).1 same
          exact .subtype sub
      | subtype sub' => exact .subtype (Primitive.subtypeOf_trans sub sub')
  | reference chosen hs ht mem each ih =>
      cases hbc with
      | same same =>
          obtain rfl := (Clause.beq_iff_eq_of_not_value (by simp)).1 same
          exact .reference chosen hs ht mem each
      | reference chosen' ht' hu mem' each' =>
          obtain rfl := Option.some.inj (ht.symm.trans ht')
          have both := chosen_trans mem (fun c hc vp => ih c hc vp) mem' each'
          exact .reference _ hs hu (fun d hd vp => (both d hd vp).1) fun d hd vp => (both d hd vp).2
      | behind ht' hd plain inner =>
          obtain rfl := Option.some.inj (ht.symm.trans ht')
          have middle := inner.isValuePredicate needed
          exact .behind hs (mem _ hd middle) plain (ih _ hd middle inner needed)
  | behind hs hd plain inner ih =>
      -- what is plain entails nothing but what is plain
      refine .behind hs hd ?_ (ih hbc needed)
      rintro q rfl
      obtain ⟨p, rfl⟩ := hbc.exists_reference
      exact plain p rfl
  | length within =>
      cases hbc with
      | same same =>
          obtain rfl := (Clause.beq_iff_eq_of_not_value (by simp)).1 same
          exact .length within
      | length within' => exact .length (Interval.isWithin_trans within within')
  | value within =>
      obtain ⟨op, y, rfl, within'⟩ := hbc.of_value
      exact .value (Interval.isWithin_trans within within')
  | presence =>
      cases hbc with
      | same same =>
          obtain rfl := (Clause.beq_iff_eq_of_not_value (by simp)).1 same
          exact .presence
  | coMutation sub =>
      have middle := hbc.isValuePredicate needed
      simp [Clause.isValuePredicate] at middle
  | field chosen hs ht mem each ih =>
      cases hbc with
      | same same =>
          obtain rfl := (Clause.beq_iff_eq_of_not_value (by simp)).1 same
          exact .field chosen hs ht mem each
      | field chosen' ht' hu mem' each' =>
          obtain rfl := Option.some.inj (ht.symm.trans ht')
          have both := chosen_trans mem (fun c hc vp => ih c hc vp) mem' each'
          exact .field _ hs hu (fun d hd vp => (both d hd vp).1) fun d hd vp => (both d hd vp).2

/-- Subsumption is transitive. -/
theorem subsumes_trans (hst : r.subsumes s t = true) (htu : r.subsumes t u = true) :
    r.subsumes s u = true := by
  rw [subsumes_iff] at *
  intro c hc needed
  obtain ⟨d, hd, entails⟩ := htu c hc needed
  obtain ⟨e, he, entails'⟩ := hst d hd (entails.isValuePredicate needed)
  exact ⟨e, he, entails'.trans entails needed⟩

theorem subsumes_refl (s : ClauseSet) : r.subsumes s s = true := by
  rw [subsumes_iff]
  intro c mem _
  exact ⟨c, mem, .same c.beq_refl⟩

theorem subsumes_union (ht : r.subsumes s t = true) (hu : r.subsumes s u = true) :
    r.subsumes s (t.union u) = true := by
  rw [subsumes_iff] at *
  intro c mem needed
  rcases ClauseSet.mem_union mem with mem | mem
  · exact ht c mem needed
  · exact hu c mem needed

end Registry

namespace Checker

variable {k after : Checker} {name target : String} {source : Source} {b : Binding} {v : Value}
  {outcome : Outcome} {via : List String} {required needed known : ClauseSet}

/-! ### Handing on from binding to binding -/

/-- Hands a source on: it is assigned to the first of some bindings, the first binding to the
second, and so on. -/
def handOn (k : Checker) (source : Source) : List String → Step Unit
  | [] => (k, .ok ())
  | target :: rest =>
      match k.assign target source with
      | (after, .error e) => (after, .error e)
      | (after, .ok _) => after.handOn (.binding target) rest

theorem handOn_cons_eq_ok_iff :
    (k.handOn source (target :: via)).2 = .ok () ↔
      ∃ after outcome, k.assign target source = (after, .ok outcome) ∧
        (after.handOn (.binding target) via).2 = .ok () := by
  rw [handOn]
  split <;> simp_all

/-- An assignment leaves the declared pattern of every binding alone. -/
theorem declared_of_assign (h : k.assign target source = (after, .ok outcome))
    (bound : after.binding name = .ok b) :
    ∃ b', k.binding name = .ok b' ∧ b'.declared = b.declared := by
  obtain ⟨own, required, known, there, -, -, -, rfl, -⟩ := assign_eq_ok_iff.1 h
  obtain ⟨p, place, at_p⟩ := binding_eq_ok_iff.1 there
  obtain ⟨q, place', at_q⟩ := binding_eq_ok_iff.1 bound
  rw [setProvenance, Scopes.place?_update place] at place'
  rw [at?_setProvenance place] at at_q
  split at at_q
  · next same =>
      obtain rfl := Option.some.inj at_q
      exact ⟨own, binding_eq_ok_iff.2 ⟨q, place', same ▸ at_p⟩, rfl⟩
  · exact ⟨b, binding_eq_ok_iff.2 ⟨q, place', at_q⟩, rfl⟩

/-- What subsumes all that is recorded of a binding subsumes what the last of those bindings
declares to which it is handed on. -/
theorem subsumes_of_handOn {origin : ClauseSet}
    (h : (k.handOn (.binding name) (via ++ [target])).2 = .ok ()) (bound : k.binding name = .ok b)
    (sub : k.catalog.registry.subsumes origin b.provenance = true) :
    ∃ last required, k.binding target = .ok last ∧
      k.catalog.registry.resolve last.declared = .ok required ∧
      k.catalog.registry.subsumes origin required = true := by
  induction via generalizing k name b with
  | nil =>
      obtain ⟨after, outcome, assigned, -⟩ := handOn_cons_eq_ok_iff.1 h
      obtain ⟨last, required, known, there, declared, source, proven, -⟩ :=
        assign_eq_ok_iff.1 assigned
      obtain rfl := Except.ok.inj ((provenance_of_binding bound).symm.trans source)
      exact ⟨last, required, there, declared, Registry.subsumes_trans sub proven⟩
  | cons next rest ih =>
      obtain ⟨after, outcome, assigned, later⟩ := handOn_cons_eq_ok_iff.1 h
      obtain ⟨b', required, known, there, -, source, proven, rfl, -⟩ := assign_eq_ok_iff.1 assigned
      obtain rfl := Except.ok.inj ((provenance_of_binding bound).symm.trans source)
      -- the next binding has what this one has and its own declared clauses, all of them subsumed
      have carried : k.catalog.registry.subsumes origin (b.provenance.union required) = true :=
        Registry.subsumes_union sub (Registry.subsumes_trans sub proven)
      obtain ⟨last, needed, found, declared, done⟩ := ih later (binding_setProvenance there) carried
      obtain ⟨last', found', same⟩ := declared_of_assign assigned found
      exact ⟨last', needed, found', same ▸ declared, done⟩

/-! ### What is known of a source, for one purpose and for another -/

/-- Clauses each of which is proven of a literal, unless it is not required of values, are gone
through without an error, and those that are required of values are found. -/
theorem exists_literalProofs_of_forall {clauses : List Clause}
    (h : ∀ c ∈ clauses, c.isValuePredicate = true → k.literalProves v c = .ok true) :
    ∃ proven, k.literalProofs v clauses = .ok proven ∧
      ∀ c ∈ clauses, c.isValuePredicate = true → c ∈ proven := by
  have evaluated : ∀ c ∈ clauses, ∃ verdict, k.literalProves v c = .ok verdict := by
    intro c mem
    by_cases needed : c.isValuePredicate = true
    · exact ⟨true, h c mem needed⟩
    · exact ⟨false, by simp [literalProves, needed]⟩
  obtain ⟨proven, found⟩ := exists_literalProofs_of_evaluated evaluated
  refine ⟨proven, found, fun c mem needed => ?_⟩
  rcases mem_or_denied_of_literalProofs found c mem with listed | denied
  · exact listed
  · rw [h c mem needed] at denied
    simp at denied

/-- Clauses of a set that is subsumed by what is known of a literal are proven of the literal. -/
theorem literalProves_of_subsumes (regular : k.catalog.registry.Regular) (bounded : v.Bounded)
    (h : k.sourceProvenance (.literal v) required = .ok known)
    (nanFree : ∀ c ∈ needed.toList, c.NaNFree)
    (sub : k.catalog.registry.subsumes known needed = true) :
    ∀ c ∈ needed.toList, c.isValuePredicate = true → k.literalProves v c = .ok true := by
  intro c mem vp
  refine literalProves_eq_true_iff.2 ⟨vp, ?_, ?_⟩
  · -- a kind would have to be known of the literal already
    by_contra carries
    obtain ⟨path, kind, pinned⟩ :=
      Registry.exists_mem_kindPaths_of_carriesKind (by simpa using carries)
    exact not_pins_literal h (Registry.Pins.of_subsumes sub ⟨c, mem, pinned⟩)
  · exact Evaluator.holds_of_subsumes regular nanFree bounded sub (holds_literal h) c mem

/-- If what is known of a source for one purpose subsumes a registered pattern, so does what is
known of it when that pattern is asked for. -/
theorem exists_known_of_subsumes {id : PatternId}
    (sound : ∀ v, source = .literal v → k.catalog.options.literalProofs = true →
      k.catalog.registry.Regular ∧ v.Bounded)
    (h : k.sourceProvenance source required = .ok known)
    (resolved : k.catalog.registry.resolve id = .ok needed)
    (sub : k.catalog.registry.subsumes known needed = true) :
    ∃ known', k.sourceProvenance source needed = .ok known' ∧
      k.catalog.registry.subsumes known' needed = true := by
  cases source with
  | binding name => exact ⟨known, h, sub⟩
  | untyped t => exact ⟨known, h, sub⟩
  | literal v =>
      cases evaluated : k.catalog.options.literalProofs with
      | false =>
          -- the type is all that is known, whatever is asked for
          refine ⟨known, ?_, sub⟩
          rw [← h]
          simp [sourceProvenance, evaluated]
      | true =>
          obtain ⟨regular, bounded⟩ := sound v rfl evaluated
          have nanFree := regular.nanFree (Registry.resolve?_of_resolve resolved)
          obtain ⟨proven, found, all⟩ := exists_literalProofs_of_forall
            (literalProves_of_subsumes regular bounded h nanFree sub)
          let types := v.primitive?.toList.map fun t => Clause.typeIs (.primitive t)
          have asked : k.sourceProvenance (.literal v) needed = .ok (.ofList (types ++ proven)) := by
            simp [types, sourceProvenance, evaluated, found, bind, Except.bind, pure, Except.pure]
          refine ⟨_, asked, Registry.subsumes_iff.2 fun c mem vp => ?_⟩
          have listed := List.mem_append_right types (all c mem vp)
          obtain ⟨d, there, same⟩ := ClauseSet.contains_iff.1 (ClauseSet.contains_ofList listed)
          exact ⟨d, there, .same (Clause.beq_symm same)⟩

/-- What is handed on from binding to binding can be assigned to the last one at once. -/
theorem assign_of_handOn
    (sound : ∀ v, source = .literal v → k.catalog.options.literalProofs = true →
      k.catalog.registry.Regular ∧ v.Bounded)
    (h : (k.handOn source (via ++ [target])).2 = .ok ()) :
    ∃ after, k.assign target source = (after, .ok .static) := by
  cases via with
  | nil =>
      obtain ⟨after, outcome, assigned, -⟩ := handOn_cons_eq_ok_iff.1 h
      obtain ⟨-, -, -, -, -, -, -, -, rfl⟩ := assign_eq_ok_iff.1 assigned
      exact ⟨after, assigned⟩
  | cons first rest =>
      obtain ⟨after, outcome, assigned, later⟩ := handOn_cons_eq_ok_iff.1 h
      obtain ⟨b, required, known, there, -, source_known, proven, rfl, -⟩ :=
        assign_eq_ok_iff.1 assigned
      have carried : k.catalog.registry.subsumes known (known.union required) = true :=
        Registry.subsumes_union (Registry.subsumes_refl known) proven
      obtain ⟨last, needed, found, declared, sub⟩ :=
        subsumes_of_handOn later (binding_setProvenance there) carried
      obtain ⟨last', found', same⟩ := declared_of_assign assigned found
      rw [← same] at declared
      obtain ⟨known', asked, sub'⟩ := exists_known_of_subsumes sound source_known declared sub
      exact ⟨_, assign_eq_ok_iff.2 ⟨last', needed, known', found', declared, asked, sub', rfl, rfl⟩⟩

/-- **Subsumption is a preorder.**  It is transitive on sets of clauses, and it is reflexive and
transitive on registered patterns.  What is handed on from binding to binding could have been
assigned to the last one at once; for a literal that is evaluated this is so where subsumption is
sound for evaluation. -/
theorem subsumption_is_a_preorder (r : Registry) :
    (∀ s t u, r.subsumes s t = true → r.subsumes t u = true → r.subsumes s u = true) ∧
    (∀ p s, r.resolve? p = some s → r.subsumedBy p p = .ok true) ∧
    (∀ p q o, r.subsumedBy p q = .ok true → r.subsumedBy q o = .ok true →
      r.subsumedBy p o = .ok true) ∧
    (∀ (k : Checker) (source : Source) (via : List String) (target : String),
      (∀ v, source = .literal v → k.catalog.options.literalProofs = true →
        k.catalog.registry.Regular ∧ v.Bounded) →
      (k.handOn source (via ++ [target])).2 = .ok () →
      ∃ after, k.assign target source = (after, .ok .static)) := by
  refine ⟨?_, ?_, ?_, ?_⟩
  · intro s t u hst htu
    exact Registry.subsumes_trans hst htu
  · intro p s known
    exact Registry.subsumedBy_eq_ok_iff.2 ⟨s, s, known, known, Registry.subsumes_refl s⟩
  · intro p q o hpq hqo
    obtain ⟨s, t, hs, ht, first⟩ := Registry.subsumedBy_eq_ok_iff.1 hpq
    obtain ⟨t', u, ht', hu, second⟩ := Registry.subsumedBy_eq_ok_iff.1 hqo
    obtain rfl := Option.some.inj (ht.symm.trans ht')
    exact Registry.subsumedBy_eq_ok_iff.2 ⟨s, u, hs, hu, Registry.subsumes_trans first second⟩
  · intro k source via target sound handed
    exact assign_of_handOn sound handed

/-- A guest who is known to be an account, and a login and a card of which nothing is known. -/
def accounts : Checker :=
  let guest : Binding := ⟨⟨4⟩, .ofList [.typeIs (.pattern ⟨4⟩)]⟩
  { start Catalog.contacts with
    scopes := ⟨[], [("card", ⟨⟨3⟩, .empty⟩), ("guest", guest), ("login", ⟨⟨2⟩, .empty⟩)]⟩ }

/-- An account is a login and a login is a card, so an account is a card; and the guest, who can be
made the login and then the card, can be made the card at once. -/
theorem subsumption_is_a_preorder_accounts :
    let r := Catalog.contacts.registry
    r.subsumedBy ⟨4⟩ ⟨2⟩ = .ok true ∧ r.subsumedBy ⟨2⟩ ⟨3⟩ = .ok true ∧
      r.subsumedBy ⟨4⟩ ⟨3⟩ = .ok true ∧
      (accounts.handOn (.binding "guest") ["login", "card"]).2 = .ok () ∧
      ∃ after, accounts.assign "card" (.binding "guest") = (after, .ok .static) := by
  intro r
  have law := subsumption_is_a_preorder r
  have first : r.subsumedBy ⟨4⟩ ⟨2⟩ = .ok true :=
    Registry.subsumedBy_eq_ok_iff.2 ⟨_, _, rfl, rfl, by decide +kernel⟩
  have second : r.subsumedBy ⟨2⟩ ⟨3⟩ = .ok true :=
    Registry.subsumedBy_eq_ok_iff.2 ⟨_, _, rfl, rfl, by decide +kernel⟩
  have handed : (accounts.handOn (.binding "guest") ["login", "card"]).2.isOk = true := by
    decide +kernel
  obtain ⟨_, done⟩ := isOk_iff.1 handed
  refine ⟨first, second, law.2.2.1 ⟨4⟩ ⟨2⟩ ⟨3⟩ first second, done, ?_⟩
  exact law.2.2.2 accounts (.binding "guest") ["login"] "card" (by simp) done

/-- Entries, which have a title, and drafts, whose title is there behind one more reference. -/
def drafts : Checker :=
  let catalog := Catalog.empty.applyAll
    [.pattern (some "Present") [.required true] [],
      .pattern (some "Filled") [.typeIs (.pattern ⟨0⟩)] [],
      .pattern (some "Draft") [.field "title" ⟨1⟩] [],
      .pattern (some "Entry") [.field "title" ⟨0⟩] []]
  (start catalog).performAll [.declare "draft" ⟨2⟩, .declare "entry" ⟨3⟩]

/-- A draft is an entry, and the empty object passes for a draft, because evaluation looks for
presence at the field's own pattern only.  So it can be made a draft and then an entry, and not an
entry at once. -/
theorem literal_needs_a_detour :
    (drafts.handOn (.literal (.object [])) ["draft", "entry"]).2 = .ok () ∧
      ¬∃ after, drafts.assign "entry" (.literal (.object [])) = (after, .ok .static) := by
  have handed : (drafts.handOn (.literal (.object [])) ["draft", "entry"]).2.isOk = true := by
    decide +kernel
  refine ⟨(isOk_iff.1 handed).elim fun _ done => done, ?_⟩
  rintro ⟨after, assigned⟩
  have refused : (drafts.assign "entry" (.literal (.object []))).2.isOk = false := by decide +kernel
  rw [assigned] at refused
  simp [Except.isOk, Except.toBool] at refused

end Checker

end ProvenShapes
