/-
**Which kinds a set of clauses pins.**

The map from paths to kinds that is computed of a set is described by a relation: a kind is pinned at
a path when some clause of the set leads to it.  In these terms the union of sets pins what either of
them pins, and a clause pins at least what the clauses that it entails pin.

Main definitions:

* `Registry.Pins` — a set pins a kind at a path;
* `Registry.OneKind` — no path has two kinds.

Main results:

* `Registry.records_effectiveKinds` — the computed map records exactly what is pinned;
* `Registry.pins_union`, `Registry.Pins.of_subsumes` — what unions pin, and sets that subsume others;
* `Registry.oneKind_iff_length_le` — no path has two kinds just when no entry of the map does;
* `Checker.checkKinds_eq_ok_iff` — **the check of kinds passes just when the union of both sets
  still has one kind at every path**.
-/

import ProvenShapes.Checker.Plan
import ProvenShapes.Proofs.Entailment

set_option autoImplicit false

namespace ProvenShapes

/-! ### The computed map -/

/-- A map from paths to kinds records a list of pinned kinds: its entries are ascending lists of such
kinds, none of them empty, and no pinned kind is lost. -/
structure KindPaths.Records (m : KindPaths) (pinned : List (List String × String)) : Prop where
  ascending : ∀ entry ∈ m, entry.2.Pairwise fun a b => compare a b = .lt
  nonempty : ∀ entry ∈ m, entry.2 ≠ []
  sound : ∀ entry ∈ m, ∀ kind ∈ entry.2, (entry.1, kind) ∈ pinned
  complete : ∀ p ∈ pinned, ∃ kinds, Keyed.find? p.1 m = some kinds ∧ p.2 ∈ kinds

namespace KindPaths.Records

variable {m : KindPaths} {pinned : List (List String × String)}

theorem getD (h : m.Records pinned) (path : List String) :
    ((Keyed.find? path m).getD []).Pairwise (fun a b => compare a b = .lt) ∧
      ∀ kind ∈ (Keyed.find? path m).getD [], (path, kind) ∈ pinned := by
  cases found : Keyed.find? path m with
  | none => simp
  | some kinds =>
      have mem := Keyed.mem_of_find? found
      exact ⟨h.ascending _ mem, h.sound _ mem⟩

theorem pin (h : m.Records pinned) (path : List String) (kind : String) :
    (Registry.pin m path kind).Records (pinned ++ [(path, kind)]) := by
  obtain ⟨ascending, sound⟩ := h.getD path
  refine ⟨fun entry mem => ?_, fun entry mem => ?_, fun entry mem k hk => ?_, fun p mem => ?_⟩
  · rcases Keyed.mem_put mem with rfl | mem
    · exact Names.ascending_insert ascending
    · exact h.ascending entry mem
  · rcases Keyed.mem_put mem with rfl | mem
    · exact List.ne_nil_of_mem (Names.mem_insert.2 (.inl rfl))
    · exact h.nonempty entry mem
  · rcases Keyed.mem_put mem with rfl | mem
    · rcases Names.mem_insert.1 hk with rfl | hk
      · simp
      · exact List.mem_append_left _ (sound k hk)
    · exact List.mem_append_left _ (h.sound entry mem k hk)
  · by_cases same : p.1 = path
    · subst same
      refine ⟨_, Keyed.find?_put_self _ _ _, Names.mem_insert.2 ?_⟩
      rcases List.mem_append.1 mem with mem | mem
      · obtain ⟨kinds, found, hk⟩ := h.complete p mem
        exact .inr (by rw [found]; exact hk)
      · exact .inl (by rw [List.mem_singleton.1 mem])
    · have old : p ∈ pinned := by
        rcases List.mem_append.1 mem with mem | mem
        · exact mem
        · exact absurd (by rw [List.mem_singleton.1 mem]) same
      obtain ⟨kinds, found, hk⟩ := h.complete p old
      refine ⟨kinds, ?_, hk⟩
      rw [← found]
      exact Keyed.find?_put_of_ne _ _ fun eq => same (Std.LawfulEqCmp.eq_of_compare eq)

theorem foldl_pin (h : m.Records pinned) (more : List (List String × String)) :
    (more.foldl (fun kinds p => Registry.pin kinds p.1 p.2) m).Records (pinned ++ more) := by
  induction more generalizing m pinned with
  | nil => simpa using h
  | cons p rest ih =>
      have := ih (h.pin p.1 p.2)
      rwa [List.append_assoc] at this

end KindPaths.Records

namespace Registry

variable {r : Registry} {s t : ClauseSet} {path : List String} {kind : String}

/-- Some clause of the set leads to the kind at the path. -/
def Pins (r : Registry) (s : ClauseSet) (path : List String) (kind : String) : Prop :=
  ∃ c ∈ s.toList, (path, kind) ∈ r.kindPaths c

theorem records_effectiveKinds (r : Registry) (s : ClauseSet) :
    (r.effectiveKinds s).Records (s.toList.flatMap r.kindPaths) := by
  have start : KindPaths.Records [] [] := ⟨by simp, by simp, by simp, by simp⟩
  exact start.foldl_pin (s.toList.flatMap r.kindPaths)

theorem pins_of_mem_effectiveKinds {entry : List String × List String}
    (h : entry ∈ r.effectiveKinds s) : ∀ kind ∈ entry.2, r.Pins s entry.1 kind := by
  intro kind hk
  exact List.mem_flatMap.1 ((r.records_effectiveKinds s).sound entry h kind hk)

theorem exists_effectiveKinds_of_pins (h : r.Pins s path kind) :
    ∃ kinds, Keyed.find? path (r.effectiveKinds s) = some kinds ∧ kind ∈ kinds :=
  (r.records_effectiveKinds s).complete (path, kind) (List.mem_flatMap.2 h)

/-! ### What each clause pins -/

theorem mem_kindPaths_reference {id : PatternId} :
    (path, kind) ∈ r.kindPaths (.typeIs (.pattern id)) ↔
      ∃ s, r.resolve? id = some s ∧ r.Pins s path kind := by
  rw [kindPaths]
  split
  · next s known => simp [known, Pins]
  · next unknown => simp [unknown]

theorem mem_kindPaths_field {name : String} {id : PatternId} :
    (path, kind) ∈ r.kindPaths (.field name id) ↔
      ∃ s rest, r.resolve? id = some s ∧ path = name :: rest ∧ r.Pins s rest kind := by
  rw [kindPaths]
  split
  · next s known =>
      simp only [List.mem_flatMap, List.mem_attach, true_and, Subtype.exists, List.mem_map,
        Prod.mk.injEq, Prod.exists, known, Option.some.injEq, Pins]
      constructor
      · rintro ⟨d, hd, rest, k, mem, rfl, rfl⟩
        exact ⟨s, rest, rfl, rfl, d, hd, mem⟩
      · rintro ⟨_, rest, rfl, rfl, d, hd, mem⟩
        exact ⟨d, hd, rest, kind, mem, rfl, rfl⟩
  · next unknown => simp [unknown]

theorem kindPaths_value {op : Comparison} {bound : Number} : r.kindPaths (.value op bound) = [] := by
  simp [kindPaths]

theorem kindPaths_type {x : Primitive} : r.kindPaths (.typeIs (.primitive x)) = [] := by
  simp [kindPaths]

theorem kindPaths_congr {a b : Clause} (same : (a == b) = true) : r.kindPaths a = r.kindPaths b := by
  obtain rfl | ⟨op, x, y, rfl, rfl, -⟩ := Clause.eq_or_value_of_beq same
  · rfl
  · rw [kindPaths_value, kindPaths_value]

/-- Co-mutation, which is not required of values, pins nothing. -/
theorem isValuePredicate_of_mem_kindPaths {c : Clause} {p : List String × String}
    (h : p ∈ r.kindPaths c) : c.isValuePredicate = true := by
  cases c with
  | changesWith names => simp [kindPaths] at h
  | _ => rfl

theorem carriesKind_of_reference {c d : Clause} {id : PatternId} (ref : c.reference? = some id)
    (known : r.resolve? id = some s) (hd : d ∈ s.toList) (h : r.carriesKind d = true) :
    r.carriesKind c = true := by
  have found : ∃ e : { d // d ∈ s.toList }, e ∈ s.toList.attach ∧ r.carriesKind e.val = true :=
    ⟨⟨d, hd⟩, List.mem_attach _ _, h⟩
  cases c with
  | typeIs type =>
      cases type with
      | primitive t => simp [Clause.reference?] at ref
      | pattern id' =>
          obtain rfl := Option.some.inj ref
          unfold carriesKind
          split
          · next t known' =>
              obtain rfl := Option.some.inj (known.symm.trans known')
              exact List.any_eq_true.2 found
          · next unknown => simp [unknown] at known
  | field name id' =>
      obtain rfl := Option.some.inj ref
      unfold carriesKind
      split
      · next t known' =>
          obtain rfl := Option.some.inj (known.symm.trans known')
          exact List.any_eq_true.2 found
      · next unknown => simp [unknown] at known
  | _ => simp [Clause.reference?] at ref

/-- A clause that pins a kind is one that carries a kind. -/
theorem carriesKind_of_mem_kindPaths {c : Clause} (h : (path, kind) ∈ r.kindPaths c) :
    r.carriesKind c = true := by
  -- references lead to clauses that reach less far
  induction hrank : c.rank using Nat.strongRecOn generalizing c path with
  | _ rank ih =>
      subst hrank
      cases c with
      | typeIs type =>
          cases type with
          | primitive t => simp [kindPaths_type] at h
          | pattern id =>
              obtain ⟨s, known, d, hd, pinned⟩ := mem_kindPaths_reference.1 h
              exact carriesKind_of_reference rfl known hd (ih _ (rank_lt rfl known hd) pinned rfl)
      | field name id =>
          obtain ⟨s, rest, known, -, d, hd, pinned⟩ := mem_kindPaths_field.1 h
          exact carriesKind_of_reference rfl known hd (ih _ (rank_lt rfl known hd) pinned rfl)
      | kindOf id => simp [carriesKind]
      | _ => simp [kindPaths] at h

/-- A clause pins at least what the clauses that it entails pin. -/
theorem kindPaths_of_entails {a b : Clause} (h : r.Entails a b) :
    ∀ {path kind}, (path, kind) ∈ r.kindPaths b → (path, kind) ∈ r.kindPaths a := by
  induction h with
  | same h =>
      intro path kind mem
      rwa [kindPaths_congr h]
  | subtype h => simp [kindPaths_type]
  | reference chosen hs ht mem each ih =>
      intro path kind pinned
      obtain ⟨t, ht', c, hc, pinned⟩ := mem_kindPaths_reference.1 pinned
      obtain rfl := Option.some.inj (ht.symm.trans ht')
      have needed := isValuePredicate_of_mem_kindPaths pinned
      exact mem_kindPaths_reference.2 ⟨_, hs, _, mem c hc needed, ih c hc needed pinned⟩
  | behind hs hd plain each ih =>
      intro path kind pinned
      exact mem_kindPaths_reference.2 ⟨_, hs, _, hd, ih pinned⟩
  | length h => simp [kindPaths]
  | value h => simp [kindPaths]
  | presence => simp [kindPaths]
  | coMutation h => simp [kindPaths]
  | field chosen hs ht mem each ih =>
      intro path kind pinned
      obtain ⟨t, rest, ht', rfl, c, hc, pinned⟩ := mem_kindPaths_field.1 pinned
      obtain rfl := Option.some.inj (ht.symm.trans ht')
      have needed := isValuePredicate_of_mem_kindPaths pinned
      exact mem_kindPaths_field.2 ⟨_, rest, hs, rfl, _, mem c hc needed, ih c hc needed pinned⟩

/-! ### What sets pin -/

/-- What a set pins depends on what it contains. -/
theorem pins_iff_contains :
    r.Pins s path kind ↔ ∃ c, s.contains c = true ∧ (path, kind) ∈ r.kindPaths c := by
  constructor
  · rintro ⟨c, mem, pinned⟩
    exact ⟨c, ClauseSet.contains_of_mem mem, pinned⟩
  · rintro ⟨c, contained, pinned⟩
    obtain ⟨d, mem, same⟩ := ClauseSet.contains_iff.1 contained
    exact ⟨d, mem, kindPaths_congr same ▸ pinned⟩

theorem pins_union : r.Pins (s.union t) path kind ↔ r.Pins s path kind ∨ r.Pins t path kind := by
  simp only [pins_iff_contains, ClauseSet.contains_union, or_and_right, exists_or]

/-- A set pins at least what the sets that it subsumes pin. -/
theorem Pins.of_subsumes (sub : r.subsumes s t = true) (h : r.Pins t path kind) :
    r.Pins s path kind := by
  obtain ⟨c, mem, pinned⟩ := h
  have needed := isValuePredicate_of_mem_kindPaths pinned
  obtain ⟨d, hd, entails⟩ := subsumes_iff.1 sub c mem needed
  exact ⟨d, hd, kindPaths_of_entails entails pinned⟩

/-! ### One kind at every path -/

/-- No path has two kinds. -/
def OneKind (r : Registry) (s : ClauseSet) : Prop :=
  ∀ path k l, r.Pins s path k → r.Pins s path l → k = l

/-- Where a set pins one kind only, the computed map has this kind and no other. -/
theorem eq_singleton_of_forall_pins {entry : List String × List String}
    (h : entry ∈ r.effectiveKinds s) (all : ∀ k, r.Pins s entry.1 k → k = kind) :
    entry.2 = [kind] := by
  have ascending := (r.records_effectiveKinds s).ascending entry h
  have nonempty := (r.records_effectiveKinds s).nonempty entry h
  have pinned := pins_of_mem_effectiveKinds h
  obtain ⟨path, kinds⟩ := entry
  match kinds with
  | [] => exact absurd rfl nonempty
  | [k] => rw [all k (pinned k (by simp))]
  | k :: l :: rest =>
      obtain rfl := all k (pinned k (by simp))
      obtain rfl := all l (pinned l (by simp))
      have less : compare l l = .lt := (List.pairwise_cons.1 ascending).1 l (by simp)
      simp at less

/-- Where no path has two kinds, the entries of the computed map are single kinds. -/
theorem OneKind.exists_singleton {entry : List String × List String} (one : r.OneKind s)
    (h : entry ∈ r.effectiveKinds s) : ∃ kind, entry.2 = [kind] ∧ r.Pins s entry.1 kind := by
  obtain ⟨kind, mem⟩ := List.exists_mem_of_ne_nil _
    ((r.records_effectiveKinds s).nonempty entry h)
  have pinned := pins_of_mem_effectiveKinds h kind mem
  exact ⟨kind, eq_singleton_of_forall_pins h fun k hk => one _ k kind hk pinned, pinned⟩

theorem oneKind_iff_length_le :
    r.OneKind s ↔ ∀ entry ∈ r.effectiveKinds s, entry.2.length ≤ 1 := by
  constructor
  · intro one entry mem
    obtain ⟨kind, single, -⟩ := one.exists_singleton mem
    simp [single]
  · intro short path k l hk hl
    obtain ⟨kinds, found, mem⟩ := exists_effectiveKinds_of_pins hk
    obtain ⟨kinds', found', mem'⟩ := exists_effectiveKinds_of_pins hl
    obtain rfl := Option.some.inj (found.symm.trans found')
    have short : kinds.length ≤ 1 := short _ (Keyed.mem_of_find? found)
    match kinds with
    | [] => simp at mem
    | [kind] => rw [List.mem_singleton.1 mem, List.mem_singleton.1 mem']
    | _ :: _ :: _ => simp at short

theorem oneKind_union (hs : r.OneKind s) (ht : r.OneKind t) :
    r.OneKind (s.union t) ↔ ∀ path k l, r.Pins s path k → r.Pins t path l → k = l := by
  constructor
  · intro one path k l hk hl
    exact one path k l (pins_union.2 (.inl hk)) (pins_union.2 (.inr hl))
  · intro agree path k l hk hl
    rcases pins_union.1 hk with hk | hk <;> rcases pins_union.1 hl with hl | hl
    · exact hs path k l hk hl
    · exact agree path k l hk hl
    · exact (agree path l k hl hk).symm
    · exact ht path k l hk hl

/-- What a set subsumes adds no kind to it. -/
theorem OneKind.union_of_subsumes (hs : r.OneKind s) (sub : r.subsumes s t = true) :
    r.OneKind (s.union t) := by
  intro path k l hk hl
  have from_s : ∀ {kind}, r.Pins (s.union t) path kind → r.Pins s path kind := fun h =>
    (pins_union.1 h).elim id (Pins.of_subsumes sub)
  exact hs path k l (from_s hk) (from_s hl)

/-- A set without contradictions has one kind at every path. -/
theorem oneKind_of_contradiction?_eq_none (h : r.contradiction? s = none) : r.OneKind s := by
  rw [oneKind_iff_length_le]
  rintro ⟨path, kinds⟩ mem
  unfold contradiction? at h
  dsimp only at h
  split at h
  · simp at h
  · have clear := List.findSome?_eq_none_iff.1 h (path, kinds) mem
    rcases kinds with _ | ⟨k, _ | ⟨l, rest⟩⟩
    · simp
    · simp
    · simp at clear

end Registry

namespace Checker

variable {r : Registry} {s t : ClauseSet} {name : String}

theorem checkKinds_eq_ok_iff_forall {held wanted : KindPaths} :
    checkKinds name held wanted = .ok () ↔
      ∀ entry ∈ wanted, ∀ present, Keyed.find? entry.1 held = some present → present = entry.2 := by
  induction wanted with
  | nil => simp [checkKinds]
  | cons entry rest ih =>
      obtain ⟨path, want⟩ := entry
      rw [checkKinds, List.forall_mem_cons, ← ih]
      cases found : Keyed.find? path held with
      | none => simp
      | some present =>
          by_cases same : present = want
          · simp [same]
          · simp [same]

/-- The check of kinds passes just when no kind that is held differs from one that is wanted. -/
theorem checkKinds_eq_ok_iff_pins (ht : r.OneKind t) :
    checkKinds name (r.effectiveKinds s) (r.effectiveKinds t) = .ok () ↔
      ∀ path k l, r.Pins s path k → r.Pins t path l → k = l := by
  rw [checkKinds_eq_ok_iff_forall]
  constructor
  · intro agree path k l hk hl
    obtain ⟨present, held, mem⟩ := Registry.exists_effectiveKinds_of_pins hk
    obtain ⟨want, wanted, mem'⟩ := Registry.exists_effectiveKinds_of_pins hl
    have wanted := Keyed.mem_of_find? wanted
    obtain rfl : present = want := agree _ wanted present held
    exact ht path k l (Registry.pins_of_mem_effectiveKinds wanted k mem) hl
  · intro agree entry mem present held
    obtain ⟨l, want, hl⟩ := ht.exists_singleton mem
    rw [want]
    exact Registry.eq_singleton_of_forall_pins (Keyed.mem_of_find? held) fun k hk =>
      agree _ k l hk hl

/-- The check of kinds passes just when both sets together have one kind at every path. -/
theorem checkKinds_eq_ok_iff (hs : r.OneKind s) (ht : r.OneKind t) :
    checkKinds name (r.effectiveKinds s) (r.effectiveKinds t) = .ok () ↔ r.OneKind (s.union t) := by
  rw [checkKinds_eq_ok_iff_pins ht, Registry.oneKind_union hs ht]

end Checker

end ProvenShapes
