/-
**The walks that look for kinds.**

Two walks along references look for kinds.  One asks of a clause whether it leads to a kind at all,
and stops at the first.  The other gathers all of them with their paths.  To gather them, a single
stack and a single map are enough: a field is pushed before the pattern behind it is visited and
popped afterwards, and a kind that is met is written into the map under the stack of that moment.
What a visit writes then depends on the stack that it began with, and it has to leave that stack
behind for the clauses that come next.  Both are said here of every clause and every state of the
walk, so that a pop too few or too many would show.

Main definitions:

* `KindWalk` — a walk in progress, its stack of fields and its map of kinds;
* `Registry.visit`, `Registry.visitAll` — the walk over a clause and over a list of clauses.

Main results:

* `Registry.visit_eq` — a visit keeps the stack, and writes below it what the clause pins;
* `Registry.visitAll_effectiveKinds` — the walk over a set ends with the map of kinds of the set;
* `Registry.effectiveKinds_ne_nil_iff` — a set has a kind when one of its clauses carries one;
* `Registry.find?_effectiveKinds_union` — the map of a union is the union of the maps at each path;
* `Registry.kind_walks_agree` — **the walks agree with each other and with the chains of
  references**.
-/

import ProvenShapes.Proofs.Chains

set_option autoImplicit false

namespace ProvenShapes

/-! ### A walk with one stack and one map -/

/-- A walk in progress: the fields that lead to where it stands, the outermost first, and the kinds
that it has met. -/
structure KindWalk where
  path : List String
  kinds : KindPaths

namespace KindWalk

/-- The walk enters a field. -/
def push (w : KindWalk) (name : String) : KindWalk := { w with path := w.path ++ [name] }

/-- The walk leaves the field that it entered last. -/
def pop (w : KindWalk) : KindWalk := { w with path := w.path.dropLast }

/-- The walk meets a kind. -/
def note (w : KindWalk) (kind : String) : KindWalk :=
  { w with kinds := Registry.pin w.kinds w.path kind }

/-- The walk with kinds written below its stack, each at a path of its own. -/
def noteBelow (w : KindWalk) (pinned : List (List String × String)) : KindWalk :=
  { w with kinds := pinned.foldl (fun kinds p => Registry.pin kinds (w.path ++ p.1) p.2) w.kinds }

@[simp] theorem noteBelow_nil (w : KindWalk) : w.noteBelow [] = w := rfl

theorem noteBelow_singleton (w : KindWalk) (kind : String) :
    w.noteBelow [([], kind)] = w.note kind := by
  simp [noteBelow, note]

theorem noteBelow_append (w : KindWalk) (first second : List (List String × String)) :
    w.noteBelow (first ++ second) = (w.noteBelow first).noteBelow second := by
  simp [noteBelow]

/-- What is written below a field is written below the stack at paths that begin with the field, and
the stack is what it was once the field is left. -/
theorem pop_noteBelow_push (w : KindWalk) (name : String) (pinned : List (List String × String)) :
    ((w.push name).noteBelow pinned).pop =
      w.noteBelow (pinned.map fun p => (name :: p.1, p.2)) := by
  simp [noteBelow, push, pop, List.foldl_map]

end KindWalk

namespace Registry

variable {r : Registry} {s : ClauseSet} {path kinds : List String}

/-- The walk over a clause: behind a reference it goes on at the same stack, and behind a field with
the field pushed onto the stack. -/
def visit (r : Registry) (c : Clause) (w : KindWalk) : KindWalk :=
  match c with
  | .kindOf kind => w.note kind
  | .typeIs (.pattern id) =>
      match _ : r.resolve? id with
      | some s => s.toList.attach.foldl (fun w d => r.visit d.val w) w
      | none => w
  | .field name id =>
      match _ : r.resolve? id with
      | some s => (s.toList.attach.foldl (fun w d => r.visit d.val w) (w.push name)).pop
      | none => w
  | _ => w
termination_by c.rank
decreasing_by
  all_goals exact rank_lt rfl (by assumption) d.property

/-- The walk over a list of clauses, one after the other. -/
def visitAll (r : Registry) (clauses : List Clause) (w : KindWalk) : KindWalk :=
  clauses.foldl (fun w c => r.visit c w) w

theorem visit_reference {id : PatternId} (w : KindWalk) :
    r.visit (.typeIs (.pattern id)) w =
      (r.resolve? id).elim w fun s => r.visitAll s.toList w := by
  rw [visit]
  split
  · next s known => simp [known, visitAll]
  · next unknown => simp [unknown]

theorem visit_field {name : String} {id : PatternId} (w : KindWalk) :
    r.visit (.field name id) w =
      (r.resolve? id).elim w fun s => (r.visitAll s.toList (w.push name)).pop := by
  rw [visit]
  split
  · next s known => simp [known, visitAll]
  · next unknown => simp [unknown]

/-- If each clause is visited with the stack kept, then so are all of them. -/
theorem visitAll_eq_of_forall {clauses : List Clause}
    (each : ∀ c ∈ clauses, ∀ w, r.visit c w = w.noteBelow (r.kindPaths c)) (w : KindWalk) :
    r.visitAll clauses w = w.noteBelow (clauses.flatMap r.kindPaths) := by
  induction clauses generalizing w with
  | nil => rfl
  | cons c rest ih =>
      obtain ⟨first, later⟩ := List.forall_mem_cons.1 each
      calc r.visitAll (c :: rest) w
          = r.visitAll rest (r.visit c w) := rfl
        _ = (w.noteBelow (r.kindPaths c)).noteBelow (rest.flatMap r.kindPaths) := by
            rw [ih later, first]
        _ = w.noteBelow ((c :: rest).flatMap r.kindPaths) := by
            rw [List.flatMap_cons, KindWalk.noteBelow_append]

/-- A visit keeps the stack, and writes below it what the clause pins. -/
theorem visit_eq (r : Registry) (c : Clause) (w : KindWalk) :
    r.visit c w = w.noteBelow (r.kindPaths c) := by
  -- references lead to clauses that reach less far; the stack may be any, as fields are pushed
  induction hrank : c.rank using Nat.strongRecOn generalizing c w with
  | _ rank ih =>
      subst hrank
      cases c with
      | typeIs type =>
          cases type with
          | primitive x => simp [visit, kindPaths_type]
          | pattern id =>
              rw [visit_reference, kindPaths_reference]
              cases known : r.resolve? id with
              | none => rfl
              | some s =>
                  exact visitAll_eq_of_forall (fun d hd w => ih _ (rank_lt rfl known hd) d w rfl) w
      | field name id =>
          rw [visit_field, kindPaths_field]
          cases known : r.resolve? id with
          | none => rfl
          | some s =>
              have inside : r.visitAll s.toList (w.push name) =
                  (w.push name).noteBelow (s.toList.flatMap r.kindPaths) :=
                visitAll_eq_of_forall (fun d hd w => ih _ (rank_lt rfl known hd) d w rfl) _
              rw [Option.elim_some, inside, KindWalk.pop_noteBelow_push, List.map_flatMap]
      | kindOf own => simp [visit, kindPaths, KindWalk.noteBelow_singleton]
      | _ => simp [visit, kindPaths]

/-- A walk over a set that begins with an empty stack and an empty map ends with an empty stack and
the map of kinds of the set. -/
theorem visitAll_effectiveKinds (r : Registry) (s : ClauseSet) :
    r.visitAll s.toList ⟨[], []⟩ = ⟨[], r.effectiveKinds s⟩ := by
  rw [visitAll_eq_of_forall fun c _ => r.visit_eq c]
  rfl

/-! ### The search for a kind -/

/-- A set has a kind somewhere when one of its clauses carries a kind. -/
theorem effectiveKinds_ne_nil_iff :
    r.effectiveKinds s ≠ [] ↔ ∃ c ∈ s.toList, r.carriesKind c = true := by
  rw [ne_eq, effectiveKinds_eq_nil_iff]
  constructor
  · intro some
    obtain ⟨path, kind, c, mem, pinned⟩ : ∃ path kind, r.Pins s path kind := by
      simpa using some
    exact ⟨c, mem, carriesKind_of_mem_kindPaths pinned⟩
  · rintro ⟨c, mem, carries⟩ none
    obtain ⟨path, kind, pinned⟩ := exists_mem_kindPaths_of_carriesKind carries
    exact none path kind ⟨c, mem, pinned⟩

/-! ### The map of a union -/

theorem find?_effectiveKinds_eq_none_iff :
    Keyed.find? path (r.effectiveKinds s) = none ↔ ∀ kind, ¬r.Pins s path kind := by
  constructor
  · intro absent kind pins
    obtain ⟨kinds, found, -⟩ := exists_effectiveKinds_of_pins pins
    simp [absent] at found
  · intro none
    cases found : Keyed.find? path (r.effectiveKinds s) with
    | none => rfl
    | some kinds =>
        have mem := Keyed.mem_of_find? found
        obtain ⟨kind, hk⟩ := List.exists_mem_of_ne_nil _
          ((r.records_effectiveKinds s).nonempty _ mem)
        exact absurd (pins_of_mem_effectiveKinds mem kind hk) (none kind)

/-- An entry of the map is the ascending list of all kinds at its path, of which there is one. -/
theorem find?_effectiveKinds_eq_some_iff :
    Keyed.find? path (r.effectiveKinds s) = some kinds ↔
      kinds ≠ [] ∧ kinds.Pairwise (fun a b => compare a b = .lt) ∧
        ∀ kind, kind ∈ kinds ↔ r.Pins s path kind := by
  have entry : ∀ {found}, Keyed.find? path (r.effectiveKinds s) = some found →
      found ≠ [] ∧ found.Pairwise (fun a b => compare a b = .lt) ∧
        ∀ kind, kind ∈ found ↔ r.Pins s path kind := by
    intro found h
    have mem := Keyed.mem_of_find? h
    refine ⟨(r.records_effectiveKinds s).nonempty _ mem,
      (r.records_effectiveKinds s).ascending _ mem, fun kind => ?_⟩
    rw [← mem_kindsAt, kindsAt, h, Option.getD_some]
  refine ⟨entry, ?_⟩
  rintro ⟨nonempty, ascending, all⟩
  obtain ⟨kind, hk⟩ := List.exists_mem_of_ne_nil _ nonempty
  obtain ⟨found, h, -⟩ := exists_effectiveKinds_of_pins ((all kind).1 hk)
  obtain ⟨-, ascending', all'⟩ := entry h
  rw [h, eq_of_ascending id ascending' ascending fun k => (all' k).trans (all k).symm]

/-- At every path the map of a union has the kinds of both maps, and no entry if neither has one. -/
theorem find?_effectiveKinds_union (r : Registry) (s t : ClauseSet) (path : List String) :
    Keyed.find? path (r.effectiveKinds (s.union t)) =
      Option.merge (fun k l => Names.ofList (k ++ l)) (Keyed.find? path (r.effectiveKinds s))
        (Keyed.find? path (r.effectiveKinds t)) := by
  cases hs : Keyed.find? path (r.effectiveKinds s) with
  | none =>
      have left := find?_effectiveKinds_eq_none_iff.1 hs
      have same : ∀ kind, r.Pins (s.union t) path kind ↔ r.Pins t path kind := fun kind => by
        simp [pins_union, left kind]
      cases ht : Keyed.find? path (r.effectiveKinds t) with
      | none =>
          rw [find?_effectiveKinds_eq_none_iff] at ht
          exact find?_effectiveKinds_eq_none_iff.2 fun kind => by rw [same]; exact ht kind
      | some l =>
          rw [find?_effectiveKinds_eq_some_iff] at ht
          refine find?_effectiveKinds_eq_some_iff.2 ⟨ht.1, ht.2.1, fun kind => ?_⟩
          rw [same, ht.2.2]
  | some k =>
      obtain ⟨nonempty, ascending, left⟩ := find?_effectiveKinds_eq_some_iff.1 hs
      cases ht : Keyed.find? path (r.effectiveKinds t) with
      | none =>
          have right := find?_effectiveKinds_eq_none_iff.1 ht
          refine find?_effectiveKinds_eq_some_iff.2 ⟨nonempty, ascending, fun kind => ?_⟩
          simp [pins_union, right kind, left]
      | some l =>
          obtain ⟨-, -, right⟩ := find?_effectiveKinds_eq_some_iff.1 ht
          have both : ∀ kind, kind ∈ Names.ofList (k ++ l) ↔ r.Pins (s.union t) path kind := by
            intro kind
            rw [Names.mem_ofList, List.mem_append, pins_union, left, right]
          obtain ⟨kind, hk⟩ := List.exists_mem_of_ne_nil _ nonempty
          have present : kind ∈ Names.ofList (k ++ l) :=
            Names.mem_ofList.2 (List.mem_append_left _ hk)
          exact find?_effectiveKinds_eq_some_iff.2
            ⟨List.ne_nil_of_mem present, Names.ascending_ofList _, both⟩

/-! ### Agreement -/

/-- **The walks that look for kinds agree.**  The walk with one stack and one map leaves its stack
empty and finds the map of kinds; a clause carries a kind just when the map of this clause alone has
an entry; a kind is in the map at a path just when a chain of references that spells the path leads
to it; and the map of a union has at every path the kinds of both maps. -/
theorem kind_walks_agree (r : Registry) :
    (∀ s, r.visitAll s.toList ⟨[], []⟩ = ⟨[], r.effectiveKinds s⟩) ∧
    (∀ c, r.carriesKind c = true ↔ r.effectiveKinds (.ofList [c]) ≠ []) ∧
    (∀ s path kind, kind ∈ r.kindsAt s path ↔ r.LeadsTo (.kindOf kind) s path) ∧
    (∀ s t path, Keyed.find? path (r.effectiveKinds (s.union t)) =
      Option.merge (fun k l => Names.ofList (k ++ l)) (Keyed.find? path (r.effectiveKinds s))
        (Keyed.find? path (r.effectiveKinds t))) := by
  refine ⟨r.visitAll_effectiveKinds, fun c => ?_, fun s path kind => ?_,
    r.find?_effectiveKinds_union⟩
  · have alone : (ClauseSet.ofList [c]).toList = [c] := rfl
    simp [effectiveKinds_ne_nil_iff, alone]
  · rw [mem_kindsAt, pins_iff_leadsTo]

/-- Names, signatures that refer to them, people with a signature, and parcels between people. -/
def parcels : Registry :=
  let name : ClauseSet := .ofList [.typeIs (.primitive .string), .kindOf "name"]
  let signature : ClauseSet := .ofList [.typeIs (.pattern ⟨0⟩)]
  let person : ClauseSet := .ofList [.kindOf "person", .field "signed" ⟨1⟩]
  let parcel : ClauseSet := .ofList [.field "from" ⟨2⟩, .field "to" ⟨2⟩]
  Registry.empty
    |>.push (some "Name") name (by decide)
    |>.push (some "Signature") signature (by decide)
    |>.push (some "Person") person (by decide)
    |>.push (some "Parcel") parcel (by decide)

/-- The walk over a parcel comes back from the signatures of both people, and a chain of references
leads to the name in the second.  A parcel that is a gift has that kind besides. -/
theorem kind_walks_agree_parcels :
    let parcel := ClauseSet.ofList [.typeIs (.pattern ⟨3⟩)]
    let gift := ClauseSet.ofList [.kindOf "gift"]
    parcels.visitAll parcel.toList ⟨[], []⟩ =
        ⟨[], [(["from"], ["person"]), (["from", "signed"], ["name"]), (["to"], ["person"]),
          (["to", "signed"], ["name"])]⟩ ∧
      parcels.carriesKind (.typeIs (.pattern ⟨3⟩)) = true ∧
      parcels.LeadsTo (.kindOf "name") parcel ["to", "signed"] ∧
      Keyed.find? [] (parcels.effectiveKinds (parcel.union gift)) = some ["gift"] := by
  intro parcel gift
  obtain ⟨walks, carries, chains, unions⟩ := kind_walks_agree parcels
  have found : parcels.effectiveKinds parcel =
      [(["from"], ["person"]), (["from", "signed"], ["name"]), (["to"], ["person"]),
        (["to", "signed"], ["name"])] := by decide +kernel
  have own : parcels.effectiveKinds gift = [([], ["gift"])] := by decide +kernel
  refine ⟨by rw [walks, found], (carries _).2 (by rw [found]; simp), ?_, ?_⟩
  · rw [← chains, kindsAt, found]
    decide
  · rw [unions, found, own]
    rfl

end Registry

end ProvenShapes
