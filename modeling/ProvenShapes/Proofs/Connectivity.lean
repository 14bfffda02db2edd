/-
**Fields that are written together.**

The components of a composite are found by searches along its joints.  Everything that a search has
found or is about to visit is connected to the field where it began, and the neighbours of what is
found are found too or about to be visited.  One visit keeps this, so a whole search does, and when
nothing is left to visit, what is found is what is connected to the beginning.

A search begins only at a field without a place.  The components found before it are whole, so it
meets none of their fields: every field is given its place once, and the components are disjoint.

Main definitions:

* `Joints.Joined`, `Joints.Connected` — one joint apart, and any number of joints apart;
* `Search.Seen`, `Search.Explores` — the fields that a search knows of, and what holds all along it;
* `CoMutation.Partitions` — each component is all that its fields are connected to, and a field has
  the place of the component that it is in.

Main results:

* `Search.Explores.visit`, `Search.Explores.run` — a visit keeps what holds along a search, and so
  does a search to its end;
* `CoMutation.Partitions.explore`, `CoMutation.partitions_ofJoints` — so the tables are a partition;
* `CoMutation.mem_component_iff` — **the component of a field is what is connected to it**;
* `Composite.checkCommit_eq_ok_iff` — a commit may be made just when it writes whole components.
-/

import Mathlib.Logic.Relation
import Mathlib.Tactic.ByContra
import ProvenShapes.Composite.Basic

set_option autoImplicit false

namespace ProvenShapes

/-! ### Joints -/

namespace Joints

variable {j : Joints} {a b x y : String}

/-- The second field is a neighbour of the first. -/
def Joined (j : Joints) (a b : String) : Prop := b ∈ j.neighbours a

/-- Two fields are any number of joints apart. -/
def Connected (j : Joints) : String → String → Prop := Relation.ReflTransGen j.Joined

/-- Every joint leads back. -/
def TwoWay (j : Joints) : Prop := ∀ a b, j.Joined a b → j.Joined b a

theorem Connected.symm (twoWay : j.TwoWay) (h : j.Connected a b) : j.Connected b a := by
  induction h with
  | refl => exact .refl
  | tail _ joined ih => exact .head (twoWay _ _ joined) ih

theorem joined_join : (j.join x y).Joined a b ↔ j.Joined a b ∨ a = x ∧ b = y ∨ a = y ∧ b = x := by
  unfold Joined neighbours join
  rw [Names.mem_insertAt, Names.mem_insertAt]
  grind

/-- Only fields that are listed have neighbours. -/
theorem Joined.mem_fields (h : j.Joined a b) : a ∈ j.map Prod.fst := by
  unfold Joined neighbours at h
  cases found : Keyed.find? a j with
  | none => simp [found] at h
  | some names => exact List.mem_map_of_mem (Keyed.mem_of_find? found)

end Joints

/-! ### One search -/

namespace Search

variable {j : Joints} {start field x : String} {place : Nat} {before : List (String × Nat)}
  {q : Search} {waiting : List String}

/-- The search has found the field or is going to visit it. -/
def Seen (q : Search) (x : String) : Prop := x ∈ q.component ∨ x ∈ q.pending

theorem mem_component_visit :
    x ∈ (q.visit j place field waiting).component ↔ x = field ∨ x ∈ q.component := by
  unfold visit
  split
  · next again =>
      have found : field ∈ q.component := by simpa using again
      exact ⟨.inr, fun h => h.elim (fun same => same ▸ found) id⟩
  · exact Names.mem_insert

/-- A visit loses no field, and it pushes the neighbours of a field that is new. -/
theorem seen_visit (next : q.pending = field :: waiting) :
    (q.visit j place field waiting).Seen x ↔
      q.Seen x ∨ field ∉ q.component ∧ j.Joined field x := by
  rw [Seen, mem_component_visit, Seen, next, List.mem_cons]
  unfold visit
  split
  · next again =>
      have found : field ∈ q.component := by simpa using again
      grind
  · next fresh =>
      have new : field ∉ q.component := by simpa using fresh
      simp only [List.mem_append, List.mem_reverse, List.mem_filter, Bool.not_eq_true',
        List.contains_eq_mem, decide_eq_false_iff_not, Names.mem_insert, Joints.Joined]
      grind

theorem find?_places_visit :
    Keyed.find? x (q.visit j place field waiting).places =
      if x = field ∧ field ∉ q.component then some place else Keyed.find? x q.places := by
  unfold visit
  split
  · next again => simp_all
  · next fresh => simp_all [Keyed.find?_put]

/-- What holds along a search that begins at a field and gives a place to what it finds. -/
structure Explores (j : Joints) (start : String) (place : Nat) (before : List (String × Nat))
    (q : Search) : Prop where
  ascending : q.component.Pairwise fun a b => compare a b = .lt
  begun : q.Seen start
  connected : ∀ x, q.Seen x → j.Connected start x
  closed : ∀ x ∈ q.component, ∀ y, j.Joined x y → q.Seen y
  placed : ∀ x, Keyed.find? x q.places =
    if x ∈ q.component then some place else Keyed.find? x before

theorem explores_start (j : Joints) (start : String) (place : Nat) (before : List (String × Nat)) :
    Explores j start place before ⟨[start], [], before⟩ where
  ascending := .nil
  begun := .inr List.mem_cons_self
  connected x seen := by
    obtain rfl : x = start := by simpa [Seen] using seen
    exact .refl
  closed x mem := by simp at mem
  placed x := by simp

/-- **A visit keeps what holds along a search.** -/
theorem Explores.visit (h : Explores j start place before q) (next : q.pending = field :: waiting) :
    Explores j start place before (q.visit j place field waiting) where
  ascending := by
    unfold Search.visit
    split
    · exact h.ascending
    · exact Names.ascending_insert h.ascending
  begun := (seen_visit next).2 (.inl h.begun)
  connected x seen := by
    rcases (seen_visit next).1 seen with old | ⟨-, joined⟩
    · exact h.connected x old
    · have here : q.Seen field := .inr (next ▸ List.mem_cons_self)
      exact .tail (h.connected field here) joined
  closed x mem y joined := by
    by_cases found : x ∈ q.component
    · exact (seen_visit next).2 (.inl (h.closed x found y joined))
    · -- a field that was not found before is the one that is visited
      obtain rfl : x = field := (mem_component_visit.1 mem).resolve_right found
      exact (seen_visit next).2 (.inr ⟨found, joined⟩)
  placed x := by
    rw [find?_places_visit, h.placed]
    simp only [mem_component_visit]
    grind

/-- **So does a search to its end**, where nothing is left to visit. -/
theorem Explores.run (h : Explores j start place before q) :
    Explores j start place before (q.run j place) ∧ (q.run j place).pending = [] := by
  fun_induction Search.run j place q with
  | case1 q done => exact ⟨h, done⟩
  | case2 q field waiting next ih => exact ih (h.visit next)

/-- What a search finds is what is connected to its beginning. -/
theorem Explores.mem_component_iff (h : Explores j start place before q) (done : q.pending = []) :
    x ∈ q.component ↔ j.Connected start x := by
  have seen : ∀ y, q.Seen y → y ∈ q.component := fun y mem =>
    mem.resolve_right (by simp [done])
  constructor
  · exact fun mem => h.connected x (.inl mem)
  · intro connected
    induction connected with
    | refl => exact seen _ h.begun
    | tail _ joined ih => exact seen _ (h.closed _ ih _ joined)

end Search

/-! ### All searches -/

namespace CoMutation

variable {j : Joints} {g : CoMutation} {a b start x : String} {place : Nat}

/-- Each component is all that its fields are connected to, and the place of a field is that of the
component that it is in. -/
structure Partitions (j : Joints) (g : CoMutation) : Prop where
  ascending : ∀ fields ∈ g.components, fields.Pairwise fun a b => compare a b = .lt
  whole : ∀ fields ∈ g.components, ∀ x ∈ fields, ∀ y, y ∈ fields ↔ j.Connected x y
  place_iff : ∀ x place, Keyed.find? x g.places = some place ↔
    ∃ fields, g.components[place]? = some fields ∧ x ∈ fields

theorem partitions_nil (j : Joints) : Partitions j ⟨[], []⟩ := ⟨by simp, by simp, by simp [Keyed.find?]⟩

/-- What is connected to a field with a place has that place too. -/
theorem Partitions.place_congr (h : Partitions j g) (connected : j.Connected a b)
    (placed : Keyed.find? a g.places = some place) : Keyed.find? b g.places = some place := by
  obtain ⟨fields, there, mem⟩ := (h.place_iff a place).1 placed
  refine (h.place_iff b place).2 ⟨fields, there, ?_⟩
  exact (h.whole fields (List.mem_of_getElem? there) a mem b).2 connected

/-- A field is in a component of a longer list if it is in one of the list or in the last one. -/
theorem exists_getElem?_concat {components : List (List String)} {last : List String} :
    (∃ fields, (components ++ [last])[place]? = some fields ∧ x ∈ fields) ↔
      (∃ fields, components[place]? = some fields ∧ x ∈ fields) ∨
        place = components.length ∧ x ∈ last := by
  rcases Nat.lt_trichotomy place components.length with lt | rfl | gt
  · simp [List.getElem?_append_left lt, Nat.ne_of_lt lt]
  · simp
  · have beyond : (components ++ [last])[place]? = none :=
      List.getElem?_eq_none (by simpa [Nat.succ_le_iff] using gt)
    simp [beyond, List.getElem?_eq_none (Nat.le_of_lt gt), Nat.ne_of_gt gt]

/-- What a search from a field without a place finds. -/
theorem explore_eq (h : Keyed.contains start g.places = false) :
    ∃ found : Search, g.explore j start = ⟨found.places, g.components ++ [found.component]⟩ ∧
      found.component.Pairwise (fun a b => compare a b = .lt) ∧
      (∀ x, x ∈ found.component ↔ j.Connected start x) ∧
      ∀ x, Keyed.find? x found.places =
        if x ∈ found.component then some g.components.length else Keyed.find? x g.places := by
  obtain ⟨explores, done⟩ := (Search.explores_start j start g.components.length g.places).run
  refine ⟨_, ?_, explores.ascending, fun x => explores.mem_component_iff done, explores.placed⟩
  simp [explore, h]

/-- **A search from a field without a place adds a component that is disjoint from all others.** -/
theorem Partitions.explore (h : Partitions j g) (twoWay : j.TwoWay) (start : String) :
    Partitions j (g.explore j start) := by
  cases fresh : Keyed.contains start g.places with
  | true => simpa [CoMutation.explore, fresh] using h
  | false =>
      obtain ⟨found, explored, ascending, mem_iff, placed⟩ := explore_eq (j := j) fresh
      -- a field of the new component has no place yet, or its beginning would have one
      have apart : ∀ x ∈ found.component, Keyed.find? x g.places = none := by
        intro x mem
        by_contra placed
        obtain ⟨place, old⟩ := Option.ne_none_iff_exists'.1 placed
        have back := ((mem_iff x).1 mem).symm twoWay
        simp [Keyed.contains, h.place_congr back old] at fresh
      rw [explored]
      refine ⟨fun fields mem => ?_, fun fields mem x hx y => ?_, fun x place => ?_⟩
      · rcases List.mem_append.1 mem with old | new
        · exact h.ascending fields old
        · rwa [List.mem_singleton.1 new]
      · rcases List.mem_append.1 mem with old | new
        · exact h.whole fields old x hx y
        · rw [List.mem_singleton.1 new] at hx ⊢
          have toStart := ((mem_iff x).1 hx).symm twoWay
          rw [mem_iff]
          exact ⟨fun h => Relation.ReflTransGen.trans toStart h,
            fun h => Relation.ReflTransGen.trans ((mem_iff x).1 hx) h⟩
      · rw [placed, exists_getElem?_concat, ← h.place_iff]
        by_cases mem : x ∈ found.component
        · simp [mem, apart x mem, eq_comm]
        · simp [mem]

theorem isSome_find?_explore (h : x = start ∨ (Keyed.find? x g.places).isSome) :
    (Keyed.find? x (g.explore j start).places).isSome := by
  cases fresh : Keyed.contains start g.places with
  | true =>
      simp only [explore, fresh, if_pos]
      exact h.elim (fun same => same ▸ fresh) id
  | false =>
      obtain ⟨found, explored, -, mem_iff, placed⟩ := explore_eq (j := j) fresh
      rw [explored, placed]
      split
      · rfl
      · next missed =>
          rcases h with rfl | old
          · exact absurd ((mem_iff x).2 .refl) missed
          · exact old

/-- **The tables that are built are a partition**, in which every joined field has a place. -/
theorem partitions_ofJoints (twoWay : j.TwoWay) :
    Partitions j (ofJoints j) ∧
      ∀ x ∈ j.map Prod.fst, (Keyed.find? x (ofJoints j).places).isSome := by
  suffices run : ∀ (starts : List String) (g : CoMutation), Partitions j g →
      Partitions j (starts.foldl (explore j) g) ∧
        ∀ x, x ∈ starts ∨ (Keyed.find? x g.places).isSome →
          (Keyed.find? x (starts.foldl (explore j) g).places).isSome by
    obtain ⟨partitions, placed⟩ := run (j.map Prod.fst) ⟨[], []⟩ (partitions_nil j)
    exact ⟨partitions, fun x mem => placed x (.inl mem)⟩
  intro starts
  induction starts with
  | nil => exact fun g h => ⟨h, fun x mem => by simpa using mem⟩
  | cons start rest ih =>
      intro g h
      obtain ⟨partitions, placed⟩ := ih (g.explore j start) (h.explore twoWay start)
      refine ⟨partitions, fun x mem => placed x ?_⟩
      rw [List.mem_cons, or_right_comm, or_comm] at mem
      exact mem.imp_right isSome_find?_explore

/-- **The component of a field is the set of the fields connected to it.** -/
theorem mem_component_iff (twoWay : j.TwoWay) :
    b ∈ (ofJoints j).component a ↔ j.Connected a b := by
  obtain ⟨partitions, placed⟩ := partitions_ofJoints twoWay
  unfold component
  cases found : Keyed.find? a (ofJoints j).places with
  | some place =>
      obtain ⟨fields, there, mem⟩ := (partitions.place_iff a place).1 found
      simpa [there] using partitions.whole fields (List.mem_of_getElem? there) a mem b
  | none =>
      -- a field without a place has no neighbours
      have alone : ∀ x, ¬j.Joined a x := fun x joined => by
        simpa [found] using placed a joined.mem_fields
      rw [List.mem_singleton]
      constructor
      · rintro rfl
        exact .refl
      · intro connected
        rcases connected.cases_head with same | ⟨x, joined, -⟩
        · exact same.symm
        · exact absurd joined (alone x)

theorem ascending_component (twoWay : j.TwoWay) (a : String) :
    ((ofJoints j).component a).Pairwise fun a b => compare a b = .lt := by
  obtain ⟨partitions, -⟩ := partitions_ofJoints twoWay
  unfold component
  cases found : Keyed.find? a (ofJoints j).places with
  | some place =>
      obtain ⟨fields, there, -⟩ := (partitions.place_iff a place).1 found
      simpa [there] using partitions.ascending fields (List.mem_of_getElem? there)
  | none => simp

theorem mem_missing {written : List String} :
    b ∈ g.missing written ↔ b ∉ written ∧ ∃ f ∈ written, b ∈ g.component f := by
  simp only [missing, Names.mem_ofList, List.mem_filter, List.mem_flatMap, Bool.not_eq_true',
    List.contains_eq_mem, decide_eq_false_iff_not]
  exact and_comm

theorem missing_eq_nil_iff {written : List String} :
    g.missing written = [] ↔ ∀ f ∈ written, ∀ x ∈ g.component f, x ∈ written := by
  simp only [List.eq_nil_iff_forall_not_mem, mem_missing]
  constructor
  · intro none f hf x hx
    by_contra missed
    exact none x ⟨missed, f, hf, hx⟩
  · rintro closed x ⟨missed, f, hf, hx⟩
    exact missed (closed f hf x hx)

end CoMutation

/-- A commit may be made just when it writes, with a field, all fields of its component. -/
theorem Composite.checkCommit_eq_ok_iff {d : Composite} {written : List String} :
    d.checkCommit written = .ok () ↔
      ∀ f ∈ written, ∀ x ∈ d.coMutationSet f, x ∈ written := by
  unfold checkCommit coMutationSet
  rw [← CoMutation.missing_eq_nil_iff]
  cases d.coMutation.missing written <;> simp

end ProvenShapes
