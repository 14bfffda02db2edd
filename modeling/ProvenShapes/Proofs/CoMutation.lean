/-
**Co-mutation is connectivity.**

Which fields of a composite are written together is asked for by the clauses of their patterns: a
clause that a field changes with some names draws an edge to each of them.  The fields that are
written together with a field are those that it is connected to when the direction of the edges is
forgotten.

The joints of a composite are collected from the clauses field by field, and here they are seen to
be the edges in both directions, no more and no less.  What was shown of the searches along joints
then speaks of the clauses: a commit is accepted just when no edge leads out of the fields that it
writes, and one that is refused is told, in order and without repetition, what it left out.

Main definitions:

* `Joints.Asks` — the pattern of a field has a clause that the field changes with a name;
* `Composite.Follows` — writing together is connectivity along given edges.

Main results:

* `Joints.extend_ok`, `Joints.extend_error` — the joints that are collected are the edges that are
  asked for, and why they may not be collected;
* `Joints.connected_iff_eqvGen` — connectivity is the least equivalence that contains the edges;
* `Composite.follows_ofJoints` — **a composite writes together what its joints connect**;
* `Composite.coMutation_is_connectivity` — **the same for the clauses of its fields**, and when
  their joints cannot be collected.
-/

import Mathlib.Logic.Relation
import ProvenShapes.Proofs.Connectivity
import ProvenShapes.Proofs.Operations

set_option autoImplicit false

namespace ProvenShapes

namespace Joints

variable {r : Registry} {composite : String} {fields part : List (String × PatternId)}
  {a b field : String} {s : ClauseSet} {e : Error}

/-! ### The edges that are asked for -/

/-- The pattern of the field `a` has a clause that the field changes with `b`. -/
def Asks (r : Registry) (fields : List (String × PatternId)) (a b : String) : Prop :=
  ∃ id s names, (a, id) ∈ fields ∧ r.resolve? id = some s ∧ .changesWith names ∈ s.toList ∧
    b ∈ names

theorem mem_peers : b ∈ peers s ↔ ∃ names, .changesWith names ∈ s.toList ∧ b ∈ names := by
  simp only [peers, List.mem_flatMap]
  constructor
  · rintro ⟨c, hc, mem⟩
    cases c with
    | changesWith names => exact ⟨names, hc, mem⟩
    | _ => simp at mem
  · rintro ⟨names, hc, mem⟩
    exact ⟨_, hc, mem⟩

theorem asks_cons {id : PatternId} (known : r.resolve? id = some s) :
    Asks r ((field, id) :: part) a b ↔ (a = field ∧ b ∈ peers s) ∨ Asks r part a b := by
  simp only [mem_peers, Asks, List.mem_cons, Prod.mk.injEq]
  constructor
  · rintro ⟨id', t, names, ⟨rfl, rfl⟩ | mem, resolved, clause, named⟩
    · obtain rfl := Option.some.inj (known.symm.trans resolved)
      exact .inl ⟨rfl, names, clause, named⟩
    · exact .inr ⟨id', t, names, mem, resolved, clause, named⟩
  · rintro (⟨rfl, names, clause, named⟩ | ⟨id', t, names, mem, rest⟩)
    · exact ⟨id, s, names, .inl ⟨rfl, rfl⟩, known, clause, named⟩
    · exact ⟨id', t, names, .inr mem, rest⟩

/-! ### Collecting the joints -/

variable {j j' : Joints} {names : List String}

/-- The joints from a field lead to all its peers and back, unless one of these is no field. -/
theorem joinAll_ok (h : joinAll composite fields field j names = .ok j') :
    (∀ a b, j'.Joined a b ↔
      j.Joined a b ∨ a = field ∧ b ∈ names ∨ b = field ∧ a ∈ names) ∧
      ∀ b ∈ names, b ∈ fields.map Prod.fst := by
  induction names generalizing j with
  | nil =>
      obtain rfl := Except.ok.inj h
      simp
  | cons peer rest ih =>
      unfold joinAll at h
      split at h
      · next here =>
          obtain ⟨edges, inside⟩ := ih h
          refine ⟨fun a b => ?_, List.forall_mem_cons.2 ⟨by simpa using here, inside⟩⟩
          rw [edges, joined_join, List.mem_cons, List.mem_cons]
          grind
      · simp at h

theorem joinAll_error (h : joinAll composite fields field j names = .error e) :
    ∃ b ∈ names, b ∉ fields.map Prod.fst ∧ e = .unknownField composite b := by
  induction names generalizing j with
  | nil => simp [joinAll] at h
  | cons peer rest ih =>
      unfold joinAll at h
      split at h
      · obtain ⟨b, mem, absent⟩ := ih h
        exact ⟨b, List.mem_cons_of_mem _ mem, absent⟩
      · next absent =>
          exact ⟨peer, List.mem_cons_self, by simpa using absent, (Except.error.inj h).symm⟩

/-- **The joints are the edges that are asked for, in both directions**; these lead to fields, and
all patterns are known. -/
theorem extend_ok (h : extend r composite fields j part = .ok j') :
    (∀ a b, j'.Joined a b ↔ j.Joined a b ∨ Asks r part a b ∨ Asks r part b a) ∧
      (∀ a b, Asks r part a b → b ∈ fields.map Prod.fst) ∧
      ∀ f ∈ part, ∃ s, r.resolve? f.2 = some s := by
  induction part generalizing j with
  | nil =>
      obtain rfl := Except.ok.inj h
      simp [Asks]
  | cons entry rest ih =>
      obtain ⟨field, id⟩ := entry
      obtain ⟨s, resolved, h⟩ := bind_eq_ok_iff.1 h
      obtain ⟨more, joined, h⟩ := bind_eq_ok_iff.1 h
      obtain ⟨own, inside⟩ := joinAll_ok joined
      obtain ⟨edges, closed, patterns⟩ := ih h
      have known := Registry.resolve?_of_resolve resolved
      simp only [asks_cons known]
      refine ⟨fun a b => ?_, ?_, List.forall_mem_cons.2 ⟨⟨s, known⟩, patterns⟩⟩
      · rw [edges, own]
        grind
      · rintro a b (⟨-, mem⟩ | asks)
        · exact inside b mem
        · exact closed a b asks

/-- The joints cannot be collected because a pattern is unknown, or a clause names something else
than a field. -/
theorem extend_error (h : extend r composite fields j part = .error e) :
    (∃ f ∈ part, r.resolve? f.2 = none ∧ e = .unknownPattern f.2.display) ∨
      ∃ a b, Asks r part a b ∧ b ∉ fields.map Prod.fst ∧ e = .unknownField composite b := by
  induction part generalizing j with
  | nil => simp [extend] at h
  | cons entry rest ih =>
      obtain ⟨field, id⟩ := entry
      unfold extend Registry.resolve at h
      cases known : r.resolve? id with
      | none =>
          rw [known] at h
          exact .inl ⟨_, List.mem_cons_self, known, (Except.error.inj h).symm⟩
      | some s =>
          rw [known] at h
          simp only [asks_cons known]
          cases joined : joinAll composite fields field j (peers s) with
          | error e' =>
              obtain ⟨b, mem, absent, rfl⟩ := joinAll_error joined
              simp only [bind, Except.bind, joined] at h
              exact .inr ⟨field, b, .inl ⟨rfl, mem⟩, absent, (Except.error.inj h).symm⟩
          | ok more =>
              simp only [bind, Except.bind, joined] at h
              rcases ih h with ⟨f, mem, unknown⟩ | ⟨a, b, asks, absent⟩
              · exact .inl ⟨f, List.mem_cons_of_mem _ mem, unknown⟩
              · exact .inr ⟨a, b, .inr asks, absent⟩

/-! ### Connected fields -/

variable {edge : String → String → Prop}

/-- Connectivity is the least equivalence that contains the edges. -/
theorem connected_iff_eqvGen (edges : ∀ a b, j.Joined a b ↔ edge a b ∨ edge b a) :
    j.Connected a b ↔ Relation.EqvGen edge a b := by
  constructor
  · intro connected
    induction connected with
    | refl => exact .refl a
    | tail _ joined ih =>
        rcases (edges _ _).1 joined with forth | back
        · exact .trans _ _ _ ih (.rel _ _ forth)
        · exact .trans _ _ _ ih (.symm _ _ (.rel _ _ back))
  · intro equivalent
    induction equivalent with
    | rel _ _ step => exact .single ((edges _ _).2 (.inl step))
    | refl => exact .refl
    | symm _ _ _ ih => exact ih.symm fun a b joined => (edges b a).2 ((edges a b).1 joined).symm
    | trans _ _ _ _ _ first second => exact Relation.ReflTransGen.trans first second

end Joints

namespace CoMutation

variable {r : Registry} {composite : String} {fields : List (String × PatternId)}

theorem ofFields_ok {g : CoMutation} (h : ofFields r composite fields = .ok g) :
    ∃ j, g = ofJoints j ∧
      (∀ a b, j.Joined a b ↔ Joints.Asks r fields a b ∨ Joints.Asks r fields b a) ∧
      (∀ a b, Joints.Asks r fields a b → b ∈ fields.map Prod.fst) ∧
      ∀ f ∈ fields, ∃ s, r.resolve? f.2 = some s := by
  obtain ⟨j, collected, done⟩ := bind_eq_ok_iff.1 h
  obtain ⟨edges, closed, patterns⟩ := Joints.extend_ok collected
  refine ⟨j, (Except.ok.inj done).symm, fun a b => ?_, closed, patterns⟩
  rw [edges, or_iff_right]
  simp [Joints.Joined, Joints.neighbours, Keyed.find?]

theorem ofFields_error {e : Error} (h : ofFields r composite fields = .error e) :
    (∃ f ∈ fields, r.resolve? f.2 = none ∧ e = .unknownPattern f.2.display) ∨
      ∃ a b, Joints.Asks r fields a b ∧ b ∉ fields.map Prod.fst ∧
        e = .unknownField composite b := by
  unfold ofFields at h
  cases collected : Joints.ofFields r composite fields with
  | ok j => simp [collected, bind, Except.bind, pure, Except.pure] at h
  | error e' =>
      simp only [collected, bind, Except.bind] at h
      exact Except.error.inj h ▸ Joints.extend_error collected

end CoMutation

/-- Names are closed under connection just when no edge leads out of them. -/
theorem closed_iff_edges {edge : String → String → Prop} {written : List String} :
    (∀ f ∈ written, ∀ x, Relation.EqvGen edge f x → x ∈ written) ↔
      ∀ a b, edge a b → (a ∈ written ↔ b ∈ written) := by
  constructor
  · intro closed a b step
    exact ⟨fun mem => closed a mem b (.rel _ _ step),
      fun mem => closed b mem a (.symm _ _ (.rel _ _ step))⟩
  · intro even f mem x connected
    have level : ∀ y z, Relation.EqvGen edge y z → (y ∈ written ↔ z ∈ written) := by
      intro y z connected
      induction connected with
      | rel y z step => exact even y z step
      | refl => exact Iff.rfl
      | symm _ _ _ ih => exact ih.symm
      | trans _ _ _ _ _ first second => exact first.trans second
    exact (level f x connected).1 mem

/-! ### Writing together -/

namespace Composite

/-- Writing together is connectivity along some edges: the fields that are written together with a
field are those connected to it, a commit is accepted just when no edge leads out of what it writes,
and one that is refused is told what it left out. -/
structure Follows (d : Composite) (edge : String → String → Prop) : Prop where
  ascending : ∀ f, (d.coMutationSet f).Pairwise fun a b => compare a b = .lt
  mem_iff : ∀ f x, x ∈ d.coMutationSet f ↔ Relation.EqvGen edge f x
  alone : ∀ f, (∀ x, ¬edge f x ∧ ¬edge x f) → d.coMutationSet f = [f]
  accepted_iff : ∀ written, d.checkCommit written = .ok () ↔
    ∀ a b, edge a b → (a ∈ written ↔ b ∈ written)
  refused : ∀ written e, d.checkCommit written = .error e →
    ∃ missing, e = .incompleteCoMutation d.name missing ∧
      (missing.Pairwise fun a b => compare a b = .lt) ∧
      ∀ x, x ∈ missing ↔ x ∉ written ∧ ∃ f ∈ written, Relation.EqvGen edge f x

theorem checkCommit_error {d : Composite} {written : List String} {e : Error}
    (h : d.checkCommit written = .error e) :
    e = .incompleteCoMutation d.name (d.coMutation.missing written) := by
  unfold checkCommit at h
  split at h
  · simp at h
  · exact (Except.error.inj h).symm

/-- An ascending list with one member. -/
theorem eq_singleton_of_ascending {l : List String} {a : String}
    (ascending : l.Pairwise fun a b => compare a b = .lt) (mem_iff : ∀ x, x ∈ l ↔ x = a) :
    l = [a] := by
  cases l with
  | nil => simpa using (mem_iff a).2 rfl
  | cons first rest =>
      obtain ⟨least, -⟩ := List.pairwise_cons.1 ascending
      obtain rfl := (mem_iff first).1 List.mem_cons_self
      have none : rest = [] := by
        refine List.eq_nil_iff_forall_not_mem.2 fun x mem => ?_
        obtain rfl := (mem_iff x).1 (List.mem_cons_of_mem _ mem)
        simpa using least x mem
      rw [none]

/-- A composite writes together what its joints connect. -/
theorem follows_ofJoints {d : Composite} {j : Joints} {edge : String → String → Prop}
    (built : d.coMutation = .ofJoints j) (edges : ∀ a b, j.Joined a b ↔ edge a b ∨ edge b a) :
    d.Follows edge := by
  have twoWay : j.TwoWay := fun a b joined => (edges b a).2 ((edges a b).1 joined).symm
  have mem_iff : ∀ f x, x ∈ d.coMutationSet f ↔ Relation.EqvGen edge f x := by
    intro f x
    rw [coMutationSet, built, CoMutation.mem_component_iff twoWay, Joints.connected_iff_eqvGen edges]
  have ascending : ∀ f, (d.coMutationSet f).Pairwise fun a b => compare a b = .lt := by
    intro f
    rw [coMutationSet, built]
    exact CoMutation.ascending_component twoWay f
  refine ⟨ascending, mem_iff, fun f none => ?_, fun written => ?_, fun written e failed => ?_⟩
  · -- a class without edges has one member
    refine eq_singleton_of_ascending (ascending f) fun x => ?_
    rw [mem_iff, ← Joints.connected_iff_eqvGen edges, Joints.Connected,
      Relation.ReflTransGen.cases_head_iff, eq_comm, or_iff_left]
    rintro ⟨y, joined, -⟩
    exact ((edges f y).1 joined).elim (none y).1 (none y).2
  · rw [checkCommit_eq_ok_iff, ← closed_iff_edges]
    simp only [mem_iff]
  · refine ⟨d.coMutation.missing written, checkCommit_error failed, Names.ascending_ofList _, ?_⟩
    intro x
    simp only [CoMutation.mem_missing, ← mem_iff, coMutationSet]

/-- **Co-mutation is connectivity.**  If the joints of some fields can be collected, the composite
writes together what the clauses of its fields connect.  They cannot be collected just when the
pattern of a field is unknown or a clause names something else than a field; a declaration looks for
the patterns first, and where all are known the second reason is the only one.  The error names what
is unknown. -/
theorem coMutation_is_connectivity (r : Registry) (name : String)
    (fields : List (String × PatternId)) :
    (∀ g, CoMutation.ofFields r name fields = .ok g → ∀ pattern,
      (Composite.mk name fields pattern g).Follows (Joints.Asks r fields)) ∧
    ((∃ e, CoMutation.ofFields r name fields = .error e) ↔
      (∃ f ∈ fields, r.resolve? f.2 = none) ∨
        ∃ a b, Joints.Asks r fields a b ∧ b ∉ fields.map Prod.fst) ∧
    ((∀ f ∈ fields, ∃ s, r.resolve? f.2 = some s) →
      ((∃ e, CoMutation.ofFields r name fields = .error e) ↔
        ∃ a b, Joints.Asks r fields a b ∧ b ∉ fields.map Prod.fst)) ∧
    (∀ e, CoMutation.ofFields r name fields = .error e →
      (∃ f ∈ fields, r.resolve? f.2 = none ∧ e = .unknownPattern f.2.display) ∨
      ∃ a b, Joints.Asks r fields a b ∧ b ∉ fields.map Prod.fst ∧
        e = .unknownField name b) := by
  have fails_iff : (∃ e, CoMutation.ofFields r name fields = .error e) ↔
      (∃ f ∈ fields, r.resolve? f.2 = none) ∨
        ∃ a b, Joints.Asks r fields a b ∧ b ∉ fields.map Prod.fst := by
    constructor
    · rintro ⟨e, failed⟩
      rcases CoMutation.ofFields_error failed with ⟨f, mem, unknown, -⟩ | ⟨a, b, asks, absent, -⟩
      · exact .inl ⟨f, mem, unknown⟩
      · exact .inr ⟨a, b, asks, absent⟩
    · intro reason
      cases done : CoMutation.ofFields r name fields with
      | error e => exact ⟨e, rfl⟩
      | ok g =>
          obtain ⟨j, -, -, closed, patterns⟩ := CoMutation.ofFields_ok done
          rcases reason with ⟨f, mem, unknown⟩ | ⟨a, b, asks, absent⟩
          · obtain ⟨s, known⟩ := patterns f mem
            simp [unknown] at known
          · exact absurd (closed a b asks) absent
  refine ⟨fun g done pattern => ?_, fails_iff, fun known => ?_, fun e failed =>
    CoMutation.ofFields_error failed⟩
  · obtain ⟨j, built, edges, -⟩ := CoMutation.ofFields_ok done
    exact follows_ofJoints built edges
  · rw [fails_iff, or_iff_right]
    rintro ⟨f, mem, unknown⟩
    obtain ⟨s, there⟩ := known f mem
    simp [unknown] at there

/-- Titles that change with a body, bodies that change with tags, and plain texts. -/
def articles : Registry :=
  let title : ClauseSet := .ofList [.typeIs (.primitive .string), .changesWith ["body"]]
  let body : ClauseSet := .ofList [.typeIs (.primitive .string), .changesWith ["tags"]]
  let text : ClauseSet := .ofList [.typeIs (.primitive .string)]
  Registry.empty
    |>.push (some "Title") title (by decide)
    |>.push (some "Body") body (by decide)
    |>.push (some "Text") text (by decide)

/-- The title and the tags of an article are connected through its body, so a commit that writes the
title alone leaves out both.  Without a body, a title is no field that an article can have. -/
theorem coMutation_is_connectivity_articles :
    let fields : List (String × PatternId) :=
      [("title", ⟨0⟩), ("body", ⟨1⟩), ("tags", ⟨2⟩), ("note", ⟨2⟩)]
    let g : CoMutation := ⟨[("body", 0), ("tags", 0), ("title", 0)], [["body", "tags", "title"]]⟩
    let article : Composite := ⟨"Article", fields, ⟨3⟩, g⟩
    let bare : List (String × PatternId) := [("title", ⟨0⟩)]
    CoMutation.ofFields articles "Article" fields = .ok g ∧
      article.coMutationSet "tags" = ["body", "tags", "title"] ∧
      Relation.EqvGen (Joints.Asks articles fields) "tags" "title" ∧
      article.checkCommit ["title"] = .error (.incompleteCoMutation "Article" ["body", "tags"]) ∧
      (∃ a b, Joints.Asks articles fields a b ∧ ¬(a ∈ ["title"] ↔ b ∈ ["title"])) ∧
      CoMutation.ofFields articles "Article" bare = .error (.unknownField "Article" "body") ∧
      ∃ a b, Joints.Asks articles bare a b ∧ b ∉ bare.map Prod.fst := by
  intro fields g article bare
  have collected : Joints.ofFields articles "Article" fields =
      .ok [("body", ["tags", "title"]), ("tags", ["body"]), ("title", ["body"])] := rfl
  have searched : CoMutation.ofJoints
      [("body", ["tags", "title"]), ("tags", ["body"]), ("title", ["body"])] = g := by
    decide +kernel
  have built : CoMutation.ofFields articles "Article" fields = .ok g := by
    rw [CoMutation.ofFields, collected, ← searched]
    rfl
  have follows := (coMutation_is_connectivity articles "Article" fields).1 g built ⟨3⟩
  have together : article.coMutationSet "tags" = ["body", "tags", "title"] := by decide +kernel
  have left : article.coMutation.missing ["title"] = ["body", "tags"] := by decide +kernel
  have refused : article.checkCommit ["title"] =
      .error (.incompleteCoMutation "Article" ["body", "tags"]) := by
    rw [checkCommit, left]
  have failed : CoMutation.ofFields articles "Article" bare =
      .error (.unknownField "Article" "body") := rfl
  refine ⟨built, together, ?_, refused, ?_, failed, ?_⟩
  · exact (follows.mem_iff "tags" "title").1 (by rw [together]; decide)
  · by_contra even
    have accepted := (follows.accepted_iff ["title"]).2 fun a b asks => by
      by_contra uneven
      exact even ⟨a, b, asks, uneven⟩
    rw [refused] at accepted
    simp at accepted
  · have law := (coMutation_is_connectivity articles "Article" bare).2.2.1
    refine (law fun f mem => ?_).1 ⟨_, failed⟩
    rw [List.mem_singleton.1 mem]
    exact ⟨_, rfl⟩

end Composite

end ProvenShapes
