/-
**Type clashes behind references.**

A type clause may be a reference, and the pattern behind it may have several type clauses, some of
them references again.  The search for contradictions does not look at all of these types.  It takes
a reference for the first type that it meets behind it, in the order of clauses.  Among types other
than that of all values, overlapping is an equivalence, and the types of a registered pattern
overlap; so one of them speaks for all.  The type of all values overlaps everything and speaks for
nothing, and it is the first in the order of types.  A pattern masks a type if this one is met first
while it pins values to another type, too.  Where a pattern masks a type a clash goes unseen, and
where none does no clash is hidden behind any reference.

Main definitions:

* `Registry.PinsType` — a type that a set of clauses pins values to, behind references too;
* `Registry.MasksType` — a pattern that is taken for one of all values and pins them to a type;
* `Registry.Shows` — the type that a clause is taken for speaks for another type.

Main results:

* `Registry.overlaps_of_contradiction?_eq_none` — the types of a set without contradiction overlap;
* `Registry.shows_of_pinsType` — **where no type is masked, the first type speaks for all**;
* `Registry.contradiction?_eq_none_of_any` — what is taken for a pattern of all values clashes with
  no type;
* `Catalog.references_hide_no_clash_iff` — **no clash is hidden exactly if no pattern masks a type**;
* `Catalog.masked_types_hide_clashes` — clashes that are hidden.
-/

import ProvenShapes.Proofs.Contradiction
import ProvenShapes.Proofs.Stability

set_option autoImplicit false

namespace ProvenShapes

/-! ### Overlapping types -/

namespace Primitive

@[simp] theorem overlaps_self (t : Primitive) : t.overlaps t = true := by cases t <;> rfl

@[simp] theorem any_overlaps (t : Primitive) : any.overlaps t = true := by cases t <;> rfl

@[simp] theorem overlaps_any (t : Primitive) : t.overlaps any = true := by cases t <;> rfl

/-- Overlapping is transitive through every type other than that of all values. -/
theorem overlaps_trans {s t u : Primitive} (proper : t ≠ any) (hst : s.overlaps t = true)
    (htu : t.overlaps u = true) : s.overlaps u = true := by
  revert proper hst htu
  cases s <;> cases t <;> cases u <;> decide

/-- Only the type of all values overlaps everything. -/
theorem exists_apart {t : Primitive} (proper : t ≠ any) : ∃ u, t.overlaps u = false := by
  by_cases text : t = string
  · exact ⟨boolean, by rw [text]; rfl⟩
  · refine ⟨string, ?_⟩
    revert proper text
    cases t <;> decide

end Primitive

/-- Two members of a list make a pair, in one order or in the other. -/
theorem mem_pairs_or {α : Type} {l : List α} {a b : α} (ha : a ∈ l) (hb : b ∈ l) (h : a ≠ b) :
    (a, b) ∈ pairs l ∨ (b, a) ∈ pairs l := by
  induction l with
  | nil => simp at ha
  | cons d rest ih =>
      simp only [pairs, List.mem_append, List.mem_map, Prod.mk.injEq]
      rcases List.mem_cons.1 ha with rfl | later
      · rcases List.mem_cons.1 hb with rfl | later'
        · exact absurd rfl h
        · exact .inl (.inl ⟨b, later', rfl, rfl⟩)
      · rcases List.mem_cons.1 hb with rfl | later'
        · exact .inr (.inl ⟨a, later, rfl, rfl⟩)
        · exact (ih later later').imp .inr .inr

/-- A type clause of a list is one of the set that the list makes. -/
theorem ClauseSet.mem_ofList_of_typeIs {l : List Clause} {x : TypeRef} (mem : .typeIs x ∈ l) :
    .typeIs x ∈ (ofList l).toList :=
  (contains_iff_mem (by simp)).1 (contains_ofList mem)

namespace Registry

variable {r : Registry} {s : ClauseSet} {c : Clause} {p : PatternId} {t u : Primitive}

theorem primitiveOf?_primitive (t : Primitive) :
    r.primitiveOf? (.typeIs (.primitive t)) = some t := by
  rw [primitiveOf?]

/-- Clauses whose types do not overlap are in conflict. -/
theorem conflicts_of_apart {a b : Clause} (ha : r.primitiveOf? a = some t)
    (hb : r.primitiveOf? b = some u) (apart : t.overlaps u = false) : r.conflicts (a, b) = true := by
  cases a with
  | typeIs x =>
      cases b with
      | typeIs y => simp [conflicts, conflict, Clause.subject, ha, hb, apart]
      | _ => simp [primitiveOf?] at hb
  | _ => simp [primitiveOf?] at ha

/-- A type is in conflict only with clauses of a type that it does not overlap. -/
theorem exists_apart_of_conflicts {x : TypeRef}
    (h : r.conflicts (.typeIs x, .typeIs (.primitive t)) = true) :
    ∃ w, r.primitiveOf? (.typeIs x) = some w ∧ w.overlaps t = false := by
  simp only [conflicts, conflict, primitiveOf?_primitive, Bool.and_eq_true, Bool.or_eq_true] at h
  cases taken : r.primitiveOf? (.typeIs x) with
  | none => cases x <;> simp [taken] at h
  | some w => exact ⟨w, rfl, by cases x <;> simpa [taken] using h.2⟩

/-- In a set without a contradiction no two clauses are in conflict, in one order or the other. -/
theorem not_conflicts_of_contradiction?_eq_none {a b : Clause} (free : r.contradiction? s = none)
    (ha : a ∈ s.toList) (hb : b ∈ s.toList) (different : a ≠ b) :
    r.conflicts (a, b) = false ∨ r.conflicts (b, a) = false := by
  have peaceful : ∀ pair ∈ pairs s.toList, ¬r.conflicts pair = true := by
    rw [contradiction?_eq] at free
    split at free
    · simp at free
    · next nothing => simpa using nothing
  rcases mem_pairs_or ha hb different with mem | mem
  · exact .inl (by simpa using peaceful _ mem)
  · exact .inr (by simpa using peaceful _ mem)

/-- In a set without a contradiction all types overlap. -/
theorem overlaps_of_contradiction?_eq_none {a b : Clause} (free : r.contradiction? s = none)
    (ha : a ∈ s.toList) (hb : b ∈ s.toList) (ta : r.primitiveOf? a = some t)
    (tb : r.primitiveOf? b = some u) : t.overlaps u = true := by
  by_contra apart
  have apart : t.overlaps u = false := by simpa using apart
  by_cases same : a = b
  · subst same
    obtain rfl := Option.some.inj (ta.symm.trans tb)
    simp at apart
  · rcases not_conflicts_of_contradiction?_eq_none free ha hb same with peace | peace
    · simp [conflicts_of_apart ta tb apart] at peace
    · simp [conflicts_of_apart tb ta (by rwa [Primitive.overlaps_comm])] at peace

/-! ### Types behind references -/

/-- The clauses pin values to a type, themselves or behind references. -/
def PinsType (r : Registry) (s : ClauseSet) (t : Primitive) : Prop :=
  r.LeadsTo (.typeIs (.primitive t)) s []

/-- A pattern masks a type if it is taken for one of all values although it pins values to another
type. -/
def MasksType (r : Registry) (p : PatternId) : Prop :=
  r.primitiveOf? (.typeIs (.pattern p)) = some .any ∧
    ∃ s t, r.resolve? p = some s ∧ r.PinsType s t ∧ t ≠ .any

/-- The type that a clause is taken for speaks for another type: it overlaps what that type overlaps,
as far as this is not the type of all values. -/
def Shows (r : Registry) (c : Clause) (t : Primitive) : Prop :=
  ∃ w, r.primitiveOf? c = some w ∧ w.overlaps t = true ∧ (t ≠ .any → w ≠ .any)

/-- A clause shows the type that it is taken for. -/
theorem shows_of_primitiveOf? (h : r.primitiveOf? c = some t) : r.Shows c t :=
  ⟨t, h, t.overlaps_self, id⟩

/-- The type that a clause of a set is taken for is one that the set pins values to. -/
theorem pinsType_of_primitiveOf? (mem : c ∈ s.toList) (h : r.primitiveOf? c = some t) :
    r.PinsType s t := by
  -- references lead to clauses that reach less far
  induction hrank : c.rank using Nat.strongRecOn generalizing c s with
  | _ rank ih =>
      subst hrank
      cases c with
      | typeIs type =>
          cases type with
          | primitive own =>
              obtain rfl := Option.some.inj ((primitiveOf?_primitive own).symm.trans h)
              exact .here mem
          | pattern id =>
              rw [primitiveOf?_reference] at h
              cases known : r.resolve? id with
              | none => simp [known] at h
              | some further =>
                  rw [known] at h
                  obtain ⟨d, hd, pins⟩ := List.exists_of_findSome?_eq_some h
                  exact .behind mem known (ih _ (rank_lt rfl known hd) hd pins rfl)
      | _ => simp [primitiveOf?] at h

/-- Clauses that show types which do not overlap make a set contradictory. -/
theorem contradiction?_ne_none_of_shows {a b : Clause} (ha : a ∈ s.toList) (hb : b ∈ s.toList)
    (ta : r.Shows a t) (tb : r.Shows b u) (apart : t.overlaps u = false) :
    r.contradiction? s ≠ none := by
  intro free
  obtain ⟨x, hx, overlap, properA⟩ := ta
  obtain ⟨y, hy, overlap', properB⟩ := tb
  have proper : t ≠ .any := by
    rintro rfl
    simp at apart
  have proper' : u ≠ .any := by
    rintro rfl
    simp at apart
  -- what is not the type of all values can be passed through
  have meet := overlaps_of_contradiction?_eq_none free ha hb hx hy
  rw [Primitive.overlaps_comm] at overlap
  have first := Primitive.overlaps_trans (properA proper) overlap meet
  have second := Primitive.overlaps_trans (properB proper') first overlap'
  simp [second] at apart

/-- A pattern without contradiction that does not mask a type is taken for a type that speaks for
every type that one of its clauses shows. -/
theorem shows_reference (free : r.contradiction? s = none) (known : r.resolve? p = some s)
    (unmasked : ¬r.MasksType p) (pins : r.PinsType s t) (mem : c ∈ s.toList) (shows : r.Shows c t) :
    r.Shows (.typeIs (.pattern p)) t := by
  obtain ⟨x, hx, overlap, proper⟩ := shows
  obtain ⟨first, met⟩ : ∃ first, s.toList.findSome? r.primitiveOf? = some first := by
    rw [← Option.isSome_iff_exists, List.isSome_findSome?]
    exact List.any_eq_true.2 ⟨c, mem, by simp [hx]⟩
  have taken : r.primitiveOf? (.typeIs (.pattern p)) = some first := by
    rw [primitiveOf?_reference, known]
    exact met
  obtain ⟨d, hd, hfirst⟩ := List.exists_of_findSome?_eq_some met
  have meet := overlaps_of_contradiction?_eq_none free hd mem hfirst hx
  refine ⟨first, taken, ?_, ?_⟩
  · by_cases all : t = .any
    · simp [all]
    · exact Primitive.overlaps_trans (proper all) meet overlap
  · rintro specific rfl
    exact unmasked ⟨taken, s, t, known, pins, specific⟩

/-- A type that a registered pattern pins values to is shown by one of its clauses, if references to
earlier patterns show the types that these pin values to. -/
theorem exists_shows_of_pinsType (known : r.resolve? p = some s) (pins : r.PinsType s t)
    (earlier : ∀ q further, q.index < p.index → r.resolve? q = some further →
      r.PinsType further t → r.Shows (.typeIs (.pattern q)) t) :
    ∃ x, .typeIs x ∈ s.toList ∧ r.Shows (.typeIs x) t := by
  cases pins with
  | here mem => exact ⟨_, mem, shows_of_primitiveOf? (primitiveOf?_primitive t)⟩
  | behind mem further rest =>
      obtain ⟨before, -⟩ := exists_resolve?_of_reference? known mem rfl
      exact ⟨_, mem, earlier _ _ before further rest⟩

/-- Where no type is masked, a reference shows every type that is pinned behind it. -/
theorem shows_of_pinsType (consistent : ∀ q s, r.resolve? q = some s → r.contradiction? s = none)
    (known : r.resolve? p = some s) (unmasked : ∀ q, q.index ≤ p.index → ¬r.MasksType q)
    (pins : r.PinsType s t) : r.Shows (.typeIs (.pattern p)) t := by
  -- the patterns that are referred to were registered earlier
  induction hindex : p.index using Nat.strongRecOn generalizing p s with
  | _ index ih =>
      subst hindex
      obtain ⟨x, mem, shows⟩ := exists_shows_of_pinsType known pins
        fun q further before resolved pinned =>
          ih _ before resolved (fun q' le => unmasked q' (by omega)) pinned rfl
      exact shows_reference (consistent p s known) known (unmasked p (Nat.le_refl _)) pins mem shows

/-- The kinds of a reference and a type are those behind the reference. -/
theorem pins_of_reference_and_type {kind : String} {path : List String}
    (known : r.resolve? p = some s)
    (h : r.Pins (.ofList [.typeIs (.pattern p), .typeIs (.primitive t)]) path kind) :
    r.Pins s path kind := by
  rw [pins_iff_leadsTo] at h ⊢
  cases h with
  | here mem => simpa using ClauseSet.mem_ofList mem
  | inside mem => simpa using ClauseSet.mem_ofList mem
  | @behind _ s' q _ mem known' rest =>
      obtain rfl : q = p := by simpa using ClauseSet.mem_ofList mem
      obtain rfl := Option.some.inj (known.symm.trans known')
      exact rest

/-- A reference to a pattern that is taken for one of all values is in conflict with no type. -/
theorem contradiction?_eq_none_of_any (free : r.contradiction? s = none)
    (known : r.resolve? p = some s) (taken : r.primitiveOf? (.typeIs (.pattern p)) = some .any)
    (t : Primitive) :
    r.contradiction? (.ofList [.typeIs (.pattern p), .typeIs (.primitive t)]) = none := by
  by_contra found
  cases clashes_of_contradiction? (Option.isSome_iff_ne_none.2 found) with
  | types hx hy tx ty apart =>
      have either : ∀ {x w},
          .typeIs x ∈ (ClauseSet.ofList [.typeIs (.pattern p), .typeIs (.primitive t)]).toList →
          r.primitiveOf? (.typeIs x) = some w → w = .any ∨ w = t := by
        intro x w mem pins
        obtain rfl | rfl : x = .pattern p ∨ x = .primitive t := by
          simpa using ClauseSet.mem_ofList mem
        · exact .inl (Option.some.inj (pins.symm.trans taken))
        · exact .inr (Option.some.inj (pins.symm.trans (primitiveOf?_primitive t)))
      rcases either hx tx with rfl | rfl
      · simp at apart
      · rcases either hy ty with rfl | rfl
        · simp at apart
        · simp at apart
  | lengths h₁ => simpa using ClauseSet.mem_ofList h₁
  | values h₁ => simpa using ClauseSet.mem_ofList h₁
  | fields hp => simpa using ClauseSet.mem_ofList hp
  | @references _ _ _ q q' hp hq different =>
      obtain rfl : q = p := by simpa using ClauseSet.mem_ofList hp
      obtain rfl : q' = q := by simpa using ClauseSet.mem_ofList hq
      exact different rfl
  | kinds hk hl different =>
      have one := oneKind_of_contradiction?_eq_none free
      exact different (one _ _ _ (pins_of_reference_and_type known hk)
        (pins_of_reference_and_type known hl))

/-! ### Clashes behind references -/

section

variable (consistent : ∀ q s, r.resolve? q = some s → r.contradiction? s = none)

include consistent

/-- If every type that is in conflict with a clause of a registered pattern is in conflict with a
reference to the pattern, then no pattern masks a type. -/
theorem not_masksType_of_found
    (found : ∀ p s x t, r.resolve? p = some s → .typeIs x ∈ s.toList →
      r.conflicts (.typeIs x, .typeIs (.primitive t)) = true →
      r.contradiction? (.ofList [.typeIs (.pattern p), .typeIs (.primitive t)]) ≠ none)
    (p : PatternId) : ¬r.MasksType p := by
  induction hindex : p.index using Nat.strongRecOn generalizing p with
  | _ index ih =>
      subst hindex
      rintro ⟨taken, s, t, known, pins, specific⟩
      -- earlier patterns mask nothing, so that a clause of this one shows the masked type
      have earlier : ∀ q further, q.index < p.index → r.resolve? q = some further →
          r.PinsType further t → r.Shows (.typeIs (.pattern q)) t := by
        intro q further before resolved pinned
        have unmasked : ∀ q', q'.index ≤ q.index → ¬r.MasksType q' := by
          intro q' le
          exact ih q'.index (by omega) q' rfl
        exact shows_of_pinsType consistent resolved unmasked pinned
      obtain ⟨x, mem, w, hw, -, proper⟩ := exists_shows_of_pinsType known pins earlier
      -- what does not overlap the type of that clause overlaps the type of all values
      obtain ⟨u, apart⟩ := Primitive.exists_apart (proper specific)
      have conflict := conflicts_of_apart hw (primitiveOf?_primitive u) apart
      have unseen := contradiction?_eq_none_of_any (consistent p s known) known taken u
      exact found p s x u known mem conflict unseen

variable (unmasked : ∀ q, ¬r.MasksType q)

include unmasked

/-- Where no type is masked, a type is in conflict with a reference if it is in conflict with a clause
of the pattern. -/
theorem contradiction?_reference_type_ne_none {x : TypeRef} (known : r.resolve? p = some s)
    (mem : .typeIs x ∈ s.toList) (conflict : r.conflicts (.typeIs x, .typeIs (.primitive t)) = true) :
    r.contradiction? (.ofList [.typeIs (.pattern p), .typeIs (.primitive t)]) ≠ none := by
  obtain ⟨w, hw, apart⟩ := exists_apart_of_conflicts conflict
  have pins := pinsType_of_primitiveOf? mem hw
  have behind := shows_of_pinsType consistent known (fun q _ => unmasked q) pins
  have own : r.Shows (.typeIs (.primitive t)) t := shows_of_primitiveOf? (primitiveOf?_primitive t)
  exact contradiction?_ne_none_of_shows (ClauseSet.mem_ofList_of_typeIs (by simp))
    (ClauseSet.mem_ofList_of_typeIs (by simp)) behind own apart

/-- Where no type is masked, two references are in conflict if types behind them do not overlap. -/
theorem contradiction?_references_ne_none {q : PatternId} {s' : ClauseSet}
    (hp : r.resolve? p = some s) (hq : r.resolve? q = some s') (ht : r.PinsType s t)
    (hu : r.PinsType s' u) (apart : t.overlaps u = false) :
    r.contradiction? (.ofList [.typeIs (.pattern p), .typeIs (.pattern q)]) ≠ none := by
  have first := shows_of_pinsType consistent hp (fun q _ => unmasked q) ht
  have second := shows_of_pinsType consistent hq (fun q _ => unmasked q) hu
  exact contradiction?_ne_none_of_shows (ClauseSet.mem_ofList_of_typeIs (by simp))
    (ClauseSet.mem_ofList_of_typeIs (by simp)) first second apart

end

end Registry

namespace Catalog

/-- **No clash of types is hidden behind a reference exactly if no pattern masks a type.**  This is
about every catalog that declarations lead to.  That no clash is hidden means two things: a type that
is in conflict with a type clause of a registered pattern is in conflict with a reference to the
pattern, and references to two patterns are in conflict if some type to which the one pins values
does not overlap some type to which the other does. -/
theorem references_hide_no_clash_iff (ds : List Declaration) :
    let r := (empty.applyAll ds).registry
    ((∀ p s x t, r.resolve? p = some s → .typeIs x ∈ s.toList →
        r.conflicts (.typeIs x, .typeIs (.primitive t)) = true →
        r.contradiction? (.ofList [.typeIs (.pattern p), .typeIs (.primitive t)]) ≠ none) ∧
      (∀ p q s s' t u, r.resolve? p = some s → r.resolve? q = some s' →
        r.PinsType s t → r.PinsType s' u → t.overlaps u = false →
        r.contradiction? (.ofList [.typeIs (.pattern p), .typeIs (.pattern q)]) ≠ none)) ↔
      ∀ p, ¬r.MasksType p := by
  intro r
  have consistent : ∀ q s, r.resolve? q = some s → r.contradiction? s = none :=
    ((reaches_applyAll empty ds).consistent closed_empty consistent_empty).2
  constructor
  · rintro ⟨found, -⟩
    exact Registry.not_masksType_of_found consistent found
  · intro unmasked
    constructor
    · intro p s x t known mem conflict
      exact Registry.contradiction?_reference_type_ne_none consistent unmasked known mem conflict
    · intro p q s s' t u hp hq ht hu apart
      exact Registry.contradiction?_references_ne_none consistent unmasked hp hq ht hu apart

/-- Words, which are declared to be of any type and to be texts, another name for them, and whole
numbers. -/
def words : List Declaration :=
  [.pattern (some "Word") [.typeIs (.primitive .any), .typeIs (.primitive .string)] [],
    .pattern (some "Term") [.typeIs (.pattern ⟨0⟩)] [],
    .pattern (some "Whole") [.typeIs (.primitive .integer)] []]

/-- A word masks that it is a text.  A text that is a whole number is a contradiction, but a word
that is one is not; and the other name for words and the whole numbers are put together without a
contradiction, although the one pins values to texts and the other to whole numbers. -/
theorem masked_types_hide_clashes :
    let r := (empty.applyAll words).registry
    ∃ word term whole, r.resolve? ⟨0⟩ = some word ∧ r.resolve? ⟨1⟩ = some term ∧
      r.resolve? ⟨2⟩ = some whole ∧ .typeIs (.primitive .string) ∈ word.toList ∧
      r.conflicts (.typeIs (.primitive .string), .typeIs (.primitive .integer)) = true ∧
      r.contradiction? (.ofList [.typeIs (.pattern ⟨0⟩), .typeIs (.primitive .integer)]) = none ∧
      r.PinsType term .string ∧ r.PinsType whole .integer ∧
      Primitive.string.overlaps .integer = false ∧
      r.contradiction? (.ofList [.typeIs (.pattern ⟨1⟩), .typeIs (.pattern ⟨2⟩)]) = none := by
  intro r
  have lists : [⟨0⟩, ⟨1⟩, ⟨2⟩].map (fun id => (r.resolve? id).map ClauseSet.toList) =
      [some [.typeIs (.primitive .any), .typeIs (.primitive .string)],
        some [.typeIs (.pattern ⟨0⟩)], some [.typeIs (.primitive .integer)]] := by decide +kernel
  simp only [List.map_cons, List.map_nil, List.cons.injEq, Option.map_eq_some_iff, and_true] at lists
  obtain ⟨⟨word, hword, first⟩, ⟨term, hterm, second⟩, whole, hwhole, third⟩ := lists
  have text : .typeIs (.primitive .string) ∈ word.toList := by simp [first]
  refine ⟨word, term, whole, hword, hterm, hwhole, text, by decide +kernel, by decide +kernel, ?_,
    .here (by simp [third]), rfl, by decide +kernel⟩
  exact .behind (by simp [second]) hword (.here text)

end Catalog

end ProvenShapes
