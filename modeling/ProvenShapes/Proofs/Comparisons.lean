/-
**Comparisons with every bound.**

Implication and contradiction of comparisons are decided on intervals, in an order that has a place
for everything: the infinities stand at its ends, and not-a-number above them, equal to itself.  A
comparison itself is evaluated differently, because not-a-number compares to nothing.  A bound may be
any of these.  Reports of a contradiction are right for all of them.  Implication is right as long as
the bound that is implied is a number.  If it is none, the implied comparison admits nothing, and
implication is right only if the other comparison admits nothing either.

Main definitions:

* `Comparison.isVacuous` — no number compares so to the bound.

Main results:

* `Evaluator.exists_valueCompares_iff` — **when a comparison admits a value**;
* `Registry.apart_of_contradiction?` — comparisons reported as contradictory have disjoint intervals;
* `Evaluator.interval_reasoning_respects_evaluation` — **what implication and contradiction of
  comparisons say about values, for every bound**;
* `Evaluator.nan_bound_is_implied` — an implication that evaluation does not bear out.
-/

import ProvenShapes.Proofs.Contradiction
import ProvenShapes.Proofs.Preorder

set_option autoImplicit false

namespace ProvenShapes

/-- No number compares so to the bound: the bound is not a number, or nothing lies beyond it. -/
def Comparison.isVacuous : Comparison → Number → Bool
  | _, .float .nan => true
  | .lt, .float (.infinite true) => true
  | .gt, .float (.infinite false) => true
  | _, _ => false

/-! ### The ends of the order -/

namespace Number

/-- Outside of the finite numbers every class is one point. -/
theorem place_snd_eq_zero {n : Number} (h : n.place.1 ≠ 1) : n.place.2 = 0 := by
  cases n with
  | int value => exact absurd rfl h
  | float d =>
      cases d with
      | finite => exact absurd rfl h
      | infinite => rfl
      | nan => rfl

/-- Nothing lies below negative infinity. -/
theorem compare_ne_lt_of_lowest (n : Number) {bound : Number} (lowest : bound.place.1 = 0) :
    Ord.compare n bound ≠ .lt := by
  intro less
  have one : bound.place.2 = 0 := place_snd_eq_zero (by omega)
  have other : n.place.1 = 0 → n.place.2 = 0 := fun here => place_snd_eq_zero (by omega)
  rw [compare_eq_lt_iff] at less
  omega

/-- No number lies above infinity. -/
theorem compare_ne_gt_of_highest {n bound : Number} (number : n.isNaN = false)
    (highest : bound.place.1 = 2) : Ord.compare n bound ≠ .gt := by
  intro more
  have below := place_fst_lt_three number
  have one : bound.place.2 = 0 := place_snd_eq_zero (by omega)
  have other : n.place.1 = 2 → n.place.2 = 0 := fun here => place_snd_eq_zero (by omega)
  rw [compare_eq_gt_iff] at more
  omega

end Number

/-! ### Comparisons that admit a value -/

namespace Comparison

variable {op : Comparison} {bound : Number}

/-- Vacuity by the place of the bound. -/
theorem isVacuous_iff :
    op.isVacuous bound = true ↔
      bound.isNaN = true ∨ op = .lt ∧ bound.place.1 = 0 ∨ op = .gt ∧ bound.place.1 = 2 := by
  rw [Number.isNaN_iff]
  cases bound with
  | int value =>
      have finite : (Number.int value).place.1 = 1 := rfl
      rw [finite]
      cases op <;> simp [isVacuous]
  | float d =>
      cases d with
      | finite negative mantissa shift canonical =>
          have finite : (Number.float (.finite negative mantissa shift canonical)).place.1 = 1 := rfl
          rw [finite]
          cases op <;> simp [isVacuous]
      | infinite negative => cases negative <;> cases op <;> simp [isVacuous, Number.place]
      | nan => cases op <;> simp [isVacuous, Number.place]

/-- Where a comparison is not vacuous, some number compares so to the bound. -/
theorem exists_apply (h : op.isVacuous bound = false) :
    ∃ n : Number, n.isNaN = false ∧ bound.isNaN = false ∧ op.apply n bound = true := by
  rw [← Bool.not_eq_true, isVacuous_iff, not_or, Bool.not_eq_true] at h
  obtain ⟨number, inside⟩ := h
  have below := Number.place_fst_lt_three number
  cases op with
  | lt =>
      -- negative infinity is below all other numbers
      refine ⟨.float (.infinite true), rfl, number, ?_⟩
      have above : 0 < bound.place.1 := by
        have outside : bound.place.1 ≠ 0 := fun lowest => inside (.inl ⟨rfl, lowest⟩)
        omega
      have less : Ord.compare (Number.float (.infinite true)) bound = .lt :=
        Number.compare_eq_lt_iff.2 (.inl above)
      simp [apply, admits, less]
  | gt =>
      refine ⟨.float (.infinite false), rfl, number, ?_⟩
      have beneath : bound.place.1 < 2 := by
        have outside : bound.place.1 ≠ 2 := fun highest => inside (.inr ⟨rfl, highest⟩)
        omega
      have more : Ord.compare (Number.float (.infinite false)) bound = .gt :=
        Number.compare_eq_gt_iff.2 (.inl beneath)
      simp [apply, admits, more]
  | ne =>
      -- zero and one cannot both be the bound
      by_cases zero : Ord.compare (Number.int 0) bound = .eq
      · refine ⟨.int 1, rfl, number, ?_⟩
        have different : Ord.compare (Number.int 1) bound ≠ .eq := by
          intro one
          have same : Ord.compare (Number.int 0) (.int 1) = .eq :=
            Std.TransCmp.eq_trans zero (Std.OrientedCmp.eq_symm one)
          have apart : Ord.compare (Number.int 0) (.int 1) ≠ .eq := by decide +kernel
          exact apart same
        simp [apply, admits, different]
      · exact ⟨.int 0, rfl, number, by simp [apply, admits, zero]⟩
  | le | ge | eq => exact ⟨bound, number, number, by simp [apply, admits]⟩

/-- Where a comparison is vacuous, no number compares so to the bound. -/
theorem not_apply_of_isVacuous (h : op.isVacuous bound = true) {n : Number}
    (own : n.isNaN = false) (number : bound.isNaN = false) : op.apply n bound = false := by
  rcases isVacuous_iff.1 h with unordered | ⟨rfl, lowest⟩ | ⟨rfl, highest⟩
  · simp [number] at unordered
  · simp [apply, admits, n.compare_ne_lt_of_lowest lowest]
  · simp [apply, admits, Number.compare_ne_gt_of_highest own highest]

end Comparison

/-- Comparisons that are reported as contradictory have disjoint intervals. -/
theorem Registry.apart_of_contradiction? {r : Registry} {s : ClauseSet} {o₁ o₂ : Comparison}
    {b₁ b₂ : Number} (h : r.contradiction? s = some (.value o₁ b₁, .value o₂ b₂)) :
    (Interval.ofValue o₁ b₁).intersects (.ofValue o₂ b₂) = false := by
  rw [contradiction?_eq] at h
  split at h
  · next pair found =>
      obtain rfl := Option.some.inj h
      have conflicts := List.find?_some found
      simp only [Registry.conflicts, Registry.conflict, Bool.and_eq_true, Bool.not_eq_true']
        at conflicts
      exact conflicts.2
  · -- the other reports name kinds
    obtain ⟨entry, -, named⟩ := List.exists_of_findSome?_eq_some h
    split at named <;> simp at named

namespace Evaluator

variable {e : Evaluator} {op : Comparison} {bound : Number}

/-- A comparison admits a value just when it is not vacuous. -/
theorem exists_valueCompares_iff :
    (∃ v, valueCompares op bound v = true) ↔ op.isVacuous bound = false := by
  constructor
  · rintro ⟨v, h⟩
    cases v with
    | number n =>
        simp only [valueCompares, Bool.and_eq_true, Bool.not_eq_true'] at h
        obtain ⟨⟨own, number⟩, compares⟩ := h
        by_contra vacuous
        have vacuous : op.isVacuous bound = true := by simpa using vacuous
        simp [Comparison.not_apply_of_isVacuous vacuous own number] at compares
    | _ => simp [valueCompares] at h
  · intro proper
    obtain ⟨n, own, number, compares⟩ := Comparison.exists_apply proper
    exact ⟨.number n, by simp [valueCompares, own, number, compares]⟩

/-- Comparisons with disjoint intervals hold of no common value. -/
theorem not_holds_of_apart {o₁ o₂ : Comparison} {b₁ b₂ : Number} {v : Value} {depth : Nat}
    (apart : (Interval.ofValue o₁ b₁).intersects (.ofValue o₂ b₂) = false)
    (first : e.Holds (.value o₁ b₁) v depth) : ¬e.Holds (.value o₂ b₂) v depth := by
  intro second
  have meet := intersects_of_valueCompares (holds_value_iff.1 first).2 (holds_value_iff.1 second).2
  simp [meet] at apart

/-- Comparisons that all hold of a value are not contradictory when they are put together. -/
theorem contradiction?_eq_none_of_holds {s : ClauseSet} {v : Value} {depth : Nat}
    (comparisons : ∀ c ∈ s.toList, ∃ op bound, c = .value op bound)
    (holds : ∀ c ∈ s.toList, e.Holds c v depth) : e.registry.contradiction? s = none := by
  by_contra found
  -- comparisons pin no type and no kind and refer to nothing
  cases Registry.clashes_of_contradiction? (Option.isSome_iff_ne_none.2 found) with
  | values h₁ h₂ apart => exact not_holds_of_apart apart (holds _ h₁) (holds _ h₂)
  | types hx => obtain ⟨_, _, ⟨⟩⟩ := comparisons _ hx
  | lengths h₁ => obtain ⟨_, _, ⟨⟩⟩ := comparisons _ h₁
  | references hp => obtain ⟨_, _, ⟨⟩⟩ := comparisons _ hp
  | fields hp => obtain ⟨_, _, ⟨⟩⟩ := comparisons _ hp
  | kinds hk =>
      obtain ⟨c, mem, pinned⟩ := hk
      obtain ⟨_, _, rfl⟩ := comparisons c mem
      simp [Registry.kindPaths_value] at pinned

/-- Two comparisons that are contradictory when they are put together hold of no common value. -/
theorem not_holds_of_contradiction? {o₁ o₂ : Comparison} {b₁ b₂ : Number} {v : Value} {depth : Nat}
    (h : e.registry.contradiction? (.ofList [.value o₁ b₁, .value o₂ b₂]) ≠ none)
    (first : e.Holds (.value o₁ b₁) v depth) : ¬e.Holds (.value o₂ b₂) v depth := by
  intro second
  have either : ∀ c ∈ (ClauseSet.ofList [.value o₁ b₁, .value o₂ b₂]).toList,
      (∃ op bound, c = .value op bound) ∧ e.Holds c v depth := by
    intro c mem
    obtain rfl | rfl : c = .value o₁ b₁ ∨ c = .value o₂ b₂ := by
      simpa using ClauseSet.mem_ofList mem
    · exact ⟨⟨_, _, rfl⟩, first⟩
    · exact ⟨⟨_, _, rfl⟩, second⟩
  have comparisons := fun c mem => (either c mem).1
  have holds := fun c mem => (either c mem).2
  exact h (contradiction?_eq_none_of_holds comparisons holds)

/-- A comparison that is implied holds wherever the other one does exactly if its bound is a number or
the other one is vacuous. -/
theorem forall_holds_iff_of_implies {o₁ o₂ : Comparison} {b₁ b₂ : Number}
    (h : e.registry.implies (.value o₁ b₁) (.value o₂ b₂) = true) :
    (∀ v depth, e.Holds (.value o₁ b₁) v depth → e.Holds (.value o₂ b₂) v depth) ↔
      b₂.isNaN = false ∨ o₁.isVacuous b₁ = true := by
  obtain ⟨_, _, ⟨⟩, within⟩ := (Registry.entails_of_implies h).of_value
  constructor
  · -- not-a-number admits nothing, so the first comparison must not admit a value
    intro carried
    by_contra neither
    rw [not_or, Bool.not_eq_false, Bool.not_eq_true] at neither
    obtain ⟨unordered, proper⟩ := neither
    obtain ⟨v, compares⟩ := exists_valueCompares_iff.2 proper
    have second := carried v 0 (holds_value_iff.2 ⟨Nat.zero_le _, compares⟩)
    have proper₂ := exists_valueCompares_iff.1 ⟨v, (holds_value_iff.1 second).2⟩
    rw [← Bool.not_eq_true, Comparison.isVacuous_iff] at proper₂
    exact proper₂ (.inl unordered)
  · rintro (number | vacuous) v depth holds
    · rw [holds_value_iff] at holds ⊢
      exact ⟨holds.1, valueCompares_of_isWithin number within holds.2⟩
    · have proper := exists_valueCompares_iff.1 ⟨v, (holds_value_iff.1 holds).2⟩
      simp [vacuous] at proper

/-- **What implication and contradiction of comparisons say about values, for every bound.**  Let a
comparison imply another.  Every value that the first admits is admitted by the second exactly if the
bound of the second is a number, or the first admits nothing.  Two comparisons that are contradictory
when they are put together, or that are named as the contradiction of a larger set, admit no common
value, whatever their bounds are. -/
theorem interval_reasoning_respects_evaluation (e : Evaluator) (o₁ o₂ : Comparison)
    (b₁ b₂ : Number) :
    (e.registry.implies (.value o₁ b₁) (.value o₂ b₂) = true →
      ((∀ v depth, e.Holds (.value o₁ b₁) v depth → e.Holds (.value o₂ b₂) v depth) ↔
        b₂.isNaN = false ∨ o₁.isVacuous b₁ = true)) ∧
    (∀ s, e.registry.contradiction? s = some (.value o₁ b₁, .value o₂ b₂) →
      ∀ v depth, ¬(e.Holds (.value o₁ b₁) v depth ∧ e.Holds (.value o₂ b₂) v depth)) ∧
    (e.registry.contradiction? (.ofList [.value o₁ b₁, .value o₂ b₂]) ≠ none →
      ∀ v depth, ¬(e.Holds (.value o₁ b₁) v depth ∧ e.Holds (.value o₂ b₂) v depth)) := by
  refine ⟨forall_holds_iff_of_implies, ?_, ?_⟩
  · rintro s reported v depth ⟨first, second⟩
    exact not_holds_of_apart (Registry.apart_of_contradiction? reported) first second
  · rintro contradictory v depth ⟨first, second⟩
    exact not_holds_of_contradiction? contradictory first second

/-- Below negative infinity there is nothing, so that it rightly implies to be below not-a-number.
And nothing is below 5 and at least not-a-number, which are contradictory. -/
theorem interval_reasoning_respects_evaluation_extremes :
    let e := Catalog.empty.evaluator
    let lowest : Clause := .value .lt (.float (.infinite true))
    let unordered : Clause := .value .lt (.float .nan)
    let five : Clause := .value .lt (.int 5)
    let highest : Clause := .value .ge (.float .nan)
    e.registry.implies lowest unordered = true ∧
      (∀ v depth, e.Holds lowest v depth → e.Holds unordered v depth) ∧
      e.registry.contradiction? (.ofList [five, highest]) ≠ none ∧
      ∀ v depth, ¬(e.Holds five v depth ∧ e.Holds highest v depth) := by
  intro e lowest unordered five highest
  have implies : e.registry.implies lowest unordered = true := by decide +kernel
  have contradictory : e.registry.contradiction? (.ofList [five, highest]) ≠ none := by
    decide +kernel
  have carried := (interval_reasoning_respects_evaluation e .lt .lt _ _).1 implies
  have apart := (interval_reasoning_respects_evaluation e .lt .ge _ _).2.2 contradictory
  exact ⟨implies, carried.2 (.inr rfl), contradictory, apart⟩

/-- Below 5 is taken to imply below not-a-number, but 3 is below 5 and compares to no such bound. -/
theorem nan_bound_is_implied :
    let e := Catalog.empty.evaluator
    let five : Clause := .value .lt (.int 5)
    let unordered : Clause := .value .lt (.float .nan)
    e.registry.implies five unordered = true ∧ e.Holds five (.number (.int 3)) 0 ∧
      ¬e.Holds unordered (.number (.int 3)) 0 := by
  decide +kernel

end Evaluator

end ProvenShapes
