/-
**Subsumption is sound for evaluation.**

Implication is decided without a value, from the clauses alone.  Here it is shown to keep its promise:
if a clause holds of a value, at some depth and under some nesting limit, then so does every clause
that it entails.  Three things are asked for.  No bound of a value clause is not-a-number, because
nothing compares to it while the intervals place it above everything.  A registered pattern that
demands presence through references demands it itself, because an absent field is judged by the
clauses of its pattern alone.  And lengths are below `2 ^ 63 - 1`, where the arithmetic of bounds is
exact.

Main definitions:

* `Value.Part`, `Value.Bounded` — the values inside a value, and values whose parts are not too long;
* `Clause.NaNFree`, `Registry.DemandsPresence`, `Registry.Regular` — what is asked of clauses and
  registries.

Main results:

* `Evaluator.Holds.of_entails` — **entailment carries truth from clause to clause**;
* `Evaluator.holds_of_subsumes` — the same for sets;
* `Catalog.subsumption_preserves_acceptance` — subsumption is sound at every depth, and a pattern that
  is subsumed by another accepts no more values than the other.
-/

import ProvenShapes.Catalog.Basic
import ProvenShapes.Proofs.Entailment
import ProvenShapes.Proofs.Evaluation
import ProvenShapes.Proofs.Interval

set_option autoImplicit false

namespace ProvenShapes

/-! ### Bounded values -/

namespace Value

/-- The first value is the second, or stands somewhere inside it. -/
inductive Part : Value → Value → Prop
  | self (v : Value) : Part v v
  | item {u w : Value} {items : List Value} (mem : w ∈ items) (h : Part u w) : Part u (.array items)
  | field {u w : Value} {name : String} {fields : List (String × Value)} (mem : (name, w) ∈ fields)
      (h : Part u w) : Part u (.object fields)

/-- All texts, arrays and objects in the value are shorter than `2 ^ 63 - 1`. -/
def Bounded (v : Value) : Prop := ∀ u, Part u v → ∀ n, u.length? = some n → n < 2 ^ 63 - 1

theorem Bounded.length_lt {v : Value} (h : v.Bounded) {n : Nat} (hn : v.length? = some n) :
    n < 2 ^ 63 - 1 := h v (.self v) n hn

theorem bounded_string_iff {s : String} : (string s).Bounded ↔ s.length < 2 ^ 63 - 1 := by
  constructor
  · exact fun h => h.length_lt rfl
  · rintro h u ⟨⟩ n hn
    exact Option.some.inj hn ▸ h

theorem bounded_object_iff {fields : List (String × Value)} :
    (object fields).Bounded ↔ fields.length < 2 ^ 63 - 1 ∧ ∀ entry ∈ fields, entry.2.Bounded := by
  constructor
  · exact fun h => ⟨h.length_lt rfl, fun entry mem u part => h u (.field mem part)⟩
  · rintro ⟨short, each⟩ u part n hn
    cases part with
    | self => exact Option.some.inj hn ▸ short
    | field mem part => exact each _ mem u part n hn

end Value

theorem Value.Bounded.find? {fields : List (String × Value)} {name : String} {w : Value}
    (h : (Value.object fields).Bounded) (found : Keyed.find? name fields = some w) : w.Bounded := by
  have mem := Keyed.mem_of_find? found
  exact fun u part n hn => h u (.field mem part) n hn

/-! ### Regular registries -/

/-- The bound of a value clause is a number. -/
def Clause.NaNFree : Clause → Prop
  | value _ bound => bound.isNaN = false
  | _ => True

instance : DecidablePred Clause.NaNFree := fun c =>
  match c with
  | .value _ bound => inferInstanceAs (Decidable (bound.isNaN = false))
  | .typeIs _ | .length .. | .required _ | .satisfies _ | .kindOf _ | .changesWith _ | .field .. =>
      inferInstanceAs (Decidable True)

namespace Registry

/-- The clauses demand presence, themselves or behind references. -/
inductive DemandsPresence (r : Registry) : ClauseSet → Prop
  | here {s : ClauseSet} (h : .required true ∈ s.toList) : DemandsPresence r s
  | behind {s t : ClauseSet} {id : PatternId} (mem : .typeIs (.pattern id) ∈ s.toList)
      (known : r.resolve? id = some t) (h : DemandsPresence r t) : DemandsPresence r s

/-- No bound is not-a-number, and a pattern that demands presence behind references demands it
itself. -/
structure Regular (r : Registry) : Prop where
  nanFree : ∀ {id : PatternId} {s : ClauseSet}, r.resolve? id = some s → ∀ c ∈ s.toList, c.NaNFree
  presence : ∀ {id : PatternId} {s : ClauseSet}, r.resolve? id = some s → r.DemandsPresence s →
    .required true ∈ s.toList

/-- A pattern that refers to one which demands presence demands it too.  One step along references
is enough to look at. -/
def presenceKept (r : Registry) (s : ClauseSet) : Clause → Bool
  | .typeIs (.pattern id) =>
      match r.resolve? id with
      | some t => !t.contains (.required true) || s.contains (.required true)
      | none => true
  | _ => true

/-- The check that a registry is regular. -/
def isRegular (r : Registry) : Bool :=
  r.patterns.all fun p => p.clauses.toList.all fun c =>
    decide c.NaNFree && r.presenceKept p.clauses c

theorem exists_pattern_of_resolve? {r : Registry} {id : PatternId} {s : ClauseSet}
    (h : r.resolve? id = some s) : ∃ p ∈ r.patterns, p.clauses = s := by
  obtain ⟨p, hp, rfl⟩ := Option.map_eq_some_iff.1 h
  exact ⟨p, List.mem_of_getElem? hp, rfl⟩

theorem regular_of_isRegular {r : Registry} (h : r.isRegular = true) : r.Regular := by
  simp only [isRegular, List.all_eq_true, Bool.and_eq_true, decide_eq_true_eq] at h
  refine ⟨fun known c hc => ?_, fun known demands => ?_⟩
  · obtain ⟨p, hp, rfl⟩ := exists_pattern_of_resolve? known
    exact (h p hp c hc).1
  · obtain ⟨p, hp, eq⟩ := exists_pattern_of_resolve? known
    clear known
    -- the demand moves up along the references, one at a time
    induction demands generalizing p with
    | here mem => exact mem
    | @behind s t id mem known _ ih =>
        subst eq
        obtain ⟨q, hq, eq⟩ := exists_pattern_of_resolve? known
        have demanded := (ClauseSet.contains_iff_mem (by simp)).2 (ih q hq eq)
        have kept := (h p hp _ mem).2
        simp only [presenceKept, known, demanded, Bool.not_true, Bool.false_or] at kept
        exact (ClauseSet.contains_iff_mem (by simp)).1 kept

theorem demandsPresence_of_entails {r : Registry} {d b : Clause} (h : r.Entails d b) :
    b = .required true → ∀ s : ClauseSet, d ∈ s.toList → r.DemandsPresence s := by
  induction h with
  | same h =>
      rintro rfl s mem
      obtain rfl := (Clause.beq_iff_eq_of_not_value (by simp)).1 (Clause.beq_symm h)
      exact .here mem
  | behind hs hd plain h ih =>
      rintro rfl s mem
      exact .behind mem hs (ih rfl _ hd)
  | subtype | reference | length | value | presence | coMutation | field => simp

theorem subsumes_of_subsumedBy {r : Registry} {p q : PatternId} (h : r.subsumedBy p q = .ok true) :
    ∃ s t, r.resolve? p = some s ∧ r.resolve? q = some t ∧ r.subsumes s t = true :=
  subsumedBy_eq_ok_iff.1 h

end Registry

/-! ### Soundness -/

theorem Primitive.subtypeOf_trans {s t u : Primitive} (hst : s.subtypeOf t = true)
    (htu : t.subtypeOf u = true) : s.subtypeOf u = true := by
  simp only [subtypeOf, Bool.or_eq_true, Bool.and_eq_true, beq_iff_eq] at hst htu ⊢
  rcases hst with (rfl | rfl) | ⟨rfl, rfl⟩
  · exact htu
  · rcases htu with (rfl | rfl) | ⟨absurd, -⟩
    · exact .inl (.inr rfl)
    · exact .inl (.inr rfl)
    · simp at absurd
  · rcases htu with (rfl | rfl) | ⟨absurd, -⟩
    · exact .inr ⟨rfl, rfl⟩
    · exact .inl (.inr rfl)
    · simp at absurd

namespace Evaluator

variable {e : Evaluator} {v : Value} {depth : Nat}

theorem holds_of_not_isValuePredicate {c : Clause} (h : ¬c.isValuePredicate = true) :
    e.Holds c v depth := by
  cases c with
  | changesWith names => exact holds_changesWith names
  | _ => simp [Clause.isValuePredicate] at h

theorem hasType_of_subtypeOf {s t : Primitive} (sub : s.subtypeOf t = true)
    (h : hasType s v = true) : hasType t v = true := by
  unfold hasType at h ⊢
  cases type : v.primitive? with
  | none => simp [type] at h
  | some actual =>
      rw [type] at h
      exact Primitive.subtypeOf_trans h sub

theorem lengthCompares_of_isWithin {o₁ o₂ : Comparison} {b₁ b₂ : UInt64} (bounded : v.Bounded)
    (within : (Interval.ofLength o₁ b₁).isWithin (.ofLength o₂ b₂) = true)
    (h : lengthCompares o₁ b₁ v = true) : lengthCompares o₂ b₂ v = true := by
  unfold lengthCompares at h ⊢
  cases length : v.length? with
  | none => simp [length] at h
  | some n =>
      rw [length] at h
      have short := bounded.length_lt length
      have admitted := (Interval.admits_ofLength short).2 h
      exact (Interval.admits_ofLength short).1 (Interval.admits_of_isWithin within admitted)

theorem valueCompares_of_isWithin {o₁ o₂ : Comparison} {b₁ b₂ : Number} (number : b₂.isNaN = false)
    (within : (Interval.ofValue o₁ b₁).isWithin (.ofValue o₂ b₂) = true)
    (h : valueCompares o₁ b₁ v = true) : valueCompares o₂ b₂ v = true := by
  cases v with
  | number n =>
      simp only [valueCompares, Bool.and_eq_true] at h ⊢
      obtain ⟨⟨own, -⟩, compares⟩ := h
      have admitted := Interval.admits_ofValue.2 compares
      have compares := Interval.admits_ofValue.1 (Interval.admits_of_isWithin within admitted)
      exact ⟨⟨own, by simp [number]⟩, compares⟩
  | _ => simp [valueCompares] at h

/-- Entailment carries truth from clause to clause, at every depth and under every limit. -/
theorem Holds.of_entails {a b : Clause} (regular : e.registry.Regular)
    (h : e.registry.Entails a b) (bounded : v.Bounded) (nanFree : b.NaNFree)
    (holds : e.Holds a v depth) : e.Holds b v depth := by
  -- the value changes at fields and the depth at references, so both stay free in the induction
  induction h generalizing v depth with
  | same h => exact holds.congr h
  | subtype sub =>
      rw [holds_type_iff] at holds ⊢
      exact ⟨holds.1, hasType_of_subtypeOf sub holds.2⟩
  | @reference p q s t chosen hs ht mem each ih =>
      rw [holds_reference_iff] at holds ⊢
      obtain ⟨limit, s', hs', all⟩ := holds
      obtain rfl := Option.some.inj (hs.symm.trans hs')
      refine ⟨limit, t, ht, fun c hc => ?_⟩
      by_cases needed : c.isValuePredicate = true
      · exact ih c hc needed bounded (regular.nanFree ht c hc) (all _ (mem c hc needed))
      · exact holds_of_not_isValuePredicate needed
  | behind hs hd plain _ ih =>
      obtain ⟨limit, s', hs', all⟩ := holds_reference_iff.1 holds
      obtain rfl := Option.some.inj (hs.symm.trans hs')
      exact (ih bounded nanFree (all _ hd)).of_le (Nat.le_succ depth)
  | length within =>
      rw [holds_length_iff] at holds ⊢
      exact ⟨holds.1, lengthCompares_of_isWithin bounded within holds.2⟩
  | value within =>
      rw [holds_value_iff] at holds ⊢
      exact ⟨holds.1, valueCompares_of_isWithin nanFree within holds.2⟩
  | presence =>
      rw [holds_required_iff] at holds ⊢
      exact ⟨holds.1, by simp⟩
  | coMutation => exact holds_changesWith _
  | @field name p q s t chosen hs ht mem each ih =>
      rw [holds_field_iff] at holds ⊢
      obtain ⟨limit, fields, s', rfl, hs', present, absent⟩ := holds
      obtain rfl := Option.some.inj (hs.symm.trans hs')
      refine ⟨limit, fields, t, rfl, ht, fun w hw c hc => ?_, fun missing => ?_⟩
      · by_cases needed : c.isValuePredicate = true
        · exact ih c hc needed (bounded.find? hw) (regular.nanFree ht c hc)
            (present w hw _ (mem c hc needed))
        · exact holds_of_not_isValuePredicate needed
      · -- a demand of the weaker pattern would be one of the stronger pattern itself
        have absent := absent missing
        rw [← Bool.not_eq_true, ClauseSet.contains_iff_mem (by simp)] at absent ⊢
        intro demand
        have entails := each _ demand rfl
        have demands := Registry.demandsPresence_of_entails entails rfl s (mem _ demand rfl)
        exact absent (regular.presence hs demands)

/-- What a set subsumes holds of every value of which the set holds. -/
theorem holds_of_subsumes {s t : ClauseSet} (regular : e.registry.Regular)
    (nanFree : ∀ c ∈ t.toList, c.NaNFree) (bounded : v.Bounded)
    (sub : e.registry.subsumes s t = true) (holds : ∀ c ∈ s.toList, e.Holds c v depth) :
    ∀ c ∈ t.toList, e.Holds c v depth := by
  intro c hc
  by_cases needed : c.isValuePredicate = true
  · obtain ⟨d, hd, entails⟩ := Registry.subsumes_iff.1 sub c hc needed
    exact (holds d hd).of_entails regular entails bounded (nanFree c hc)
  · exact holds_of_not_isValuePredicate needed

end Evaluator

namespace Catalog

theorem validate_eq_ok_iff {c : Catalog} {id : PatternId} {v : Value} :
    c.validate id v = .ok () ↔
      ∃ s, c.registry.resolve? id = some s ∧ ∀ b ∈ s.toList, c.evaluator.Holds b v 0 := by
  unfold validate Registry.resolve
  cases known : c.registry.resolve? id with
  | none => simp [bind, Except.bind]
  | some s => simp [bind, Except.bind, Evaluator.validate_eq_ok_iff]

/-- **Subsumption is sound**: at every depth and under every limit, what holds of a value by the
clauses of a set holds by the clauses that the set subsumes; and a value that a pattern accepts is
accepted by every pattern that subsumes it. -/
theorem subsumption_preserves_acceptance (c : Catalog) (regular : c.registry.Regular) :
    (∀ (s t : ClauseSet) (v : Value) (depth : Nat), (∀ b ∈ t.toList, b.NaNFree) → v.Bounded →
      c.registry.subsumes s t = true → (∀ a ∈ s.toList, c.evaluator.Holds a v depth) →
      ∀ b ∈ t.toList, c.evaluator.Holds b v depth) ∧
    (∀ (p q : PatternId) (v : Value), v.Bounded → c.registry.subsumedBy p q = .ok true →
      c.validate p v = .ok () → c.validate q v = .ok ()) := by
  constructor
  · intro s t v depth nanFree bounded sub holds
    exact Evaluator.holds_of_subsumes regular nanFree bounded sub holds
  · intro p q v bounded sub accepts
    obtain ⟨s, t, hs, ht, sub⟩ := Registry.subsumes_of_subsumedBy sub
    obtain ⟨s', hs', holds⟩ := validate_eq_ok_iff.1 accepts
    obtain rfl := Option.some.inj (hs.symm.trans hs')
    refine validate_eq_ok_iff.2 ⟨t, ht, ?_⟩
    exact Evaluator.holds_of_subsumes regular (regular.nanFree ht) bounded sub holds

/-- Two patterns of texts that are always there, two patterns of objects with such a text as a field,
and a reference to the first of these. -/
def contacts : Catalog :=
  let nick : ClauseSet := .ofList [.typeIs (.primitive .string), .length .le 8, .required true]
  let title : ClauseSet := .ofList [.typeIs (.primitive .string), .length .lt 20, .required true]
  let login : ClauseSet := .ofList [.typeIs (.primitive .object), .field "name" ⟨0⟩]
  let card : ClauseSet := .ofList [.typeIs (.primitive .object), .field "name" ⟨1⟩]
  let account : ClauseSet := .ofList [.typeIs (.pattern ⟨2⟩)]
  let registry := Registry.empty
    |>.push (some "Nick") nick (by decide)
    |>.push (some "Title") title (by decide)
    |>.push (some "Login") login (by decide)
    |>.push (some "Card") card (by decide)
    |>.push (some "Account") account (by decide)
  { empty with registry }

theorem contacts_regular : contacts.registry.Regular :=
  Registry.regular_of_isRegular (by decide +kernel)

/-- An object with a short name. -/
def ada : Value := .object [("name", .string "Ada")]

theorem ada_bounded : ada.Bounded := by
  rw [ada, Value.bounded_object_iff]
  refine ⟨by decide, ?_⟩
  rintro entry mem
  obtain rfl := List.mem_singleton.1 mem
  exact Value.bounded_string_iff.2 (by decide)

/-- Behind a reference, a short name is a title, and the object that has it is a card. -/
theorem subsumption_preserves_acceptance_contacts :
    contacts.registry.subsumes (.ofList [.typeIs (.pattern ⟨4⟩)])
        (.ofList [.field "name" ⟨1⟩]) = true ∧
      contacts.evaluator.Holds (.typeIs (.pattern ⟨4⟩)) ada 3 ∧
      ∀ b ∈ (ClauseSet.ofList [.field "name" ⟨1⟩]).toList, contacts.evaluator.Holds b ada 3 := by
  have sub : contacts.registry.subsumes (.ofList [.typeIs (.pattern ⟨4⟩)])
      (.ofList [.field "name" ⟨1⟩]) = true := by decide +kernel
  have holds : ∀ a ∈ (ClauseSet.ofList [.typeIs (.pattern ⟨4⟩)]).toList,
      contacts.evaluator.Holds a ada 3 := by decide +kernel
  refine ⟨sub, by decide +kernel, ?_⟩
  exact (subsumption_preserves_acceptance contacts contacts_regular).1 _ _ ada 3 (by decide +kernel)
    ada_bounded sub holds

end Catalog

end ProvenShapes
