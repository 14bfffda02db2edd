/-
**When clauses hold.**

Evaluating a clause gives a truth value or an error, together with a count.  Here the count is left
aside: a clause *holds* of a value at a depth when evaluating it there ends with true.  For every sort
of clause one lemma says when it holds, and the rest of the theory uses only these.

Main definitions:

* `Evaluator.Holds` — evaluating the clause ends with true;
* `Evaluator.found`, `Evaluator.report` — the clauses that a validation finds not to hold, and what it
  reports of them.

Main results:

* `Evaluator.holds_reference_iff`, `Evaluator.holds_field_iff` and their siblings — when a clause of
  each sort holds;
* `Evaluator.Holds.of_le` — **what holds at some depth holds at every smaller one**;
* `Evaluator.Holds.congr` — equal clauses hold of the same values;
* `Evaluator.tally_eq`, `Evaluator.validate_eq` — what the loop of a validation comes to;
* `Evaluator.validate_eq_ok_iff` — **validation succeeds just when all clauses hold**;
* `Evaluator.result_validate_filter` — clauses that hold may be left out of a validation.
-/

import ProvenShapes.Evaluation.Basic
import ProvenShapes.Proofs.Clause
import ProvenShapes.Proofs.Number.Order

set_option autoImplicit false

namespace ProvenShapes

namespace Counted

/-! ### Counted results without their count -/

variable {α : Type}

theorem result_firstFalse? {f : α → Counted Bool} {l : List α} :
    (firstFalse? f l).result = .ok none ↔ ∀ a ∈ l, (f a).result = .ok true := by
  induction l with
  | nil => simp [firstFalse?]
  | cons a rest ih =>
      simp only [firstFalse?, result_bind, List.forall_mem_cons]
      cases h : (f a).result with
      | error err => simp [Except.bind]
      | ok b => cases b <;> simp [Except.bind, ih]

theorem result_allTrue {f : α → Counted Bool} {l : List α} :
    (allTrue f l).result = .ok true ↔ ∀ a ∈ l, (f a).result = .ok true := by
  rw [allTrue_eq, result_map, ← result_firstFalse?]
  rcases (firstFalse? f l).result with _ | _ | _ <;> simp [Except.map]

/-- Members that satisfy the condition may be left out of the search. -/
theorem result_firstFalse?_filter {f : α → Counted Bool} {keep : α → Bool} {l : List α}
    (h : ∀ a ∈ l, keep a = false → (f a).result = .ok true) :
    (firstFalse? f (l.filter keep)).result = (firstFalse? f l).result := by
  induction l with
  | nil => rfl
  | cons a rest ih =>
      have ih := ih fun b hb => h b (List.mem_cons_of_mem a hb)
      cases kept : keep a with
      | true =>
          simp only [List.filter_cons_of_pos kept, firstFalse?, result_bind]
          refine congrArg _ (funext fun b => ?_)
          cases b <;> simp [ih]
      | false =>
          rw [List.filter_cons_of_neg (by simp [kept]), ih]
          simp [firstFalse?, h a List.mem_cons_self kept, Except.bind]

/-- What is evaluated up to a limit only is true when it is so within the limit. -/
theorem result_guarded {limit depth : Nat} {x : Counted Bool} :
    (if limit < depth then pure false else do tick; x).result = .ok true ↔
      depth ≤ limit ∧ x.result = .ok true := by
  split
  · next beyond => simp [Nat.not_le.2 beyond]
  · next within => simp [Nat.not_lt.1 within, tick, Except.bind]

end Counted

namespace Evaluator

/-- Evaluating the clause on the value, with some references followed already, ends with true. -/
def Holds (e : Evaluator) (c : Clause) (v : Value) (depth : Nat) : Prop :=
  (e.holds c v depth).result = .ok true

instance (e : Evaluator) (c : Clause) (v : Value) (depth : Nat) : Decidable (e.Holds c v depth) :=
  match h : (e.holds c v depth).result with
  | .ok true => isTrue h
  | .ok false => isFalse fun t => by simp [Holds, h] at t
  | .error _ => isFalse fun t => by simp [Holds, h] at t

variable {e : Evaluator} {v : Value} {depth : Nat}

/-! ### When a clause of each sort holds -/

theorem holds_kindOf (kind : String) : e.Holds (.kindOf kind) v depth := by
  simp [Holds, holds]

theorem holds_changesWith (names : List String) : e.Holds (.changesWith names) v depth := by
  simp [Holds, holds]

theorem holds_type_iff {t : Primitive} :
    e.Holds (.typeIs (.primitive t)) v depth ↔
      depth ≤ e.options.maxNesting ∧ hasType t v = true := by
  rw [Holds, holds, Counted.result_guarded]
  simp

theorem holds_length_iff {op : Comparison} {bound : UInt64} :
    e.Holds (.length op bound) v depth ↔
      depth ≤ e.options.maxNesting ∧ lengthCompares op bound v = true := by
  rw [Holds, holds, Counted.result_guarded]
  simp

theorem holds_value_iff {op : Comparison} {bound : Number} :
    e.Holds (.value op bound) v depth ↔
      depth ≤ e.options.maxNesting ∧ valueCompares op bound v = true := by
  rw [Holds, holds, Counted.result_guarded]
  simp

theorem holds_required_iff {always : Bool} :
    e.Holds (.required always) v depth ↔
      depth ≤ e.options.maxNesting ∧ (always = true → v.isUndefined = false) := by
  rw [Holds, holds, Counted.result_guarded]
  cases always <;> simp

theorem holds_satisfies_iff {id : String} :
    e.Holds (.satisfies id) v depth ↔
      depth ≤ e.options.maxNesting ∧ e.satisfies id v = .ok true := by
  rw [Holds, holds, Counted.result_guarded]
  simp [Counted.lift]

/-- A reference holds when all clauses of the pattern hold, one level deeper. -/
theorem holds_reference_iff {id : PatternId} :
    e.Holds (.typeIs (.pattern id)) v depth ↔
      depth ≤ e.options.maxNesting ∧
        ∃ s, e.registry.resolve? id = some s ∧ ∀ c ∈ s.toList, e.Holds c v (depth + 1) := by
  rw [Holds, holds, Counted.result_guarded]
  refine and_congr_right fun _ => ?_
  split
  · next unknown => simp [Counted.fail, unknown]
  · next s known =>
      rw [Counted.result_allTrue]
      simp only [List.mem_attach, forall_const, Subtype.forall]
      constructor
      · intro h
        exact ⟨s, known, h⟩
      · rintro ⟨t, ht, h⟩
        obtain rfl := Option.some.inj (known.symm.trans ht)
        exact h

/-- A field clause holds of an object whose field satisfies the pattern one level deeper, or lacks
the field where the pattern does not itself demand it. -/
theorem holds_field_iff {name : String} {id : PatternId} :
    e.Holds (.field name id) v depth ↔
      depth ≤ e.options.maxNesting ∧
        ∃ fields s, v = .object fields ∧ e.registry.resolve? id = some s ∧
          (∀ w, Keyed.find? name fields = some w → ∀ c ∈ s.toList, e.Holds c w (depth + 1)) ∧
          (Keyed.find? name fields = none → s.contains (.required true) = false) := by
  cases v with
  | object fields =>
      rw [Holds, holds, Counted.result_guarded]
      refine and_congr_right fun _ => ?_
      split
      · next unknown => simp [Counted.fail, unknown]
      · next s known =>
          have unique : ∀ t, e.registry.resolve? id = some t → t = s := fun t ht =>
            Option.some.inj (ht.symm.trans known)
          split
          · next w found =>
              rw [Counted.result_allTrue]
              simp only [List.mem_attach, forall_const, Subtype.forall]
              constructor
              · intro h
                refine ⟨fields, s, rfl, known, fun u hu => ?_, by simp [found]⟩
                exact Option.some.inj (found.symm.trans hu) ▸ h
              · rintro ⟨_, t, eq, ht, h, -⟩
                cases eq
                exact unique t ht ▸ h w found
          · next absent =>
              constructor
              · intro h
                refine ⟨fields, s, rfl, known, by simp [absent], fun _ => ?_⟩
                simpa using h
              · rintro ⟨_, t, eq, ht, -, h⟩
                cases eq
                simpa using unique t ht ▸ h absent
  | _ => rw [Holds, holds, Counted.result_guarded] <;> simp

/-! ### Depth -/

/-- What holds at some depth holds at every smaller one. -/
theorem Holds.of_le {c : Clause} {m n : Nat} (h : e.Holds c v n) (le : m ≤ n) : e.Holds c v m := by
  -- references lead to clauses that reach less far
  induction hrank : c.rank using Nat.strongRecOn generalizing c v m n with
  | _ rank ih =>
      subst hrank
      cases c with
      | typeIs type =>
          cases type with
          | primitive t =>
              rw [holds_type_iff] at h ⊢
              exact ⟨by omega, h.2⟩
          | pattern id =>
              rw [holds_reference_iff] at h ⊢
              obtain ⟨limit, s, known, all⟩ := h
              refine ⟨by omega, s, known, fun c hc => ?_⟩
              exact ih _ (Registry.rank_lt rfl known hc) (all c hc) (by omega) rfl
      | length op bound =>
          rw [holds_length_iff] at h ⊢
          exact ⟨by omega, h.2⟩
      | value op bound =>
          rw [holds_value_iff] at h ⊢
          exact ⟨by omega, h.2⟩
      | required always =>
          rw [holds_required_iff] at h ⊢
          exact ⟨by omega, h.2⟩
      | satisfies id =>
          rw [holds_satisfies_iff] at h ⊢
          exact ⟨by omega, h.2⟩
      | kindOf kind => exact holds_kindOf kind
      | changesWith names => exact holds_changesWith names
      | field name id =>
          rw [holds_field_iff] at h ⊢
          obtain ⟨limit, fields, s, rfl, known, present, absent⟩ := h
          refine ⟨by omega, fields, s, rfl, known, fun w hw c hc => ?_, absent⟩
          exact ih _ (Registry.rank_lt rfl known hc) (present w hw c hc) (by omega) rfl

/-! ### Equal clauses -/

theorem valueCompares_congr {op : Comparison} {x y : Number} (same : compare x y = .eq) :
    valueCompares op x v = valueCompares op y v := by
  cases v with
  | number n =>
      have nan : x.isNaN = y.isNaN := Number.isNaN_congr same
      simp only [valueCompares, nan, Comparison.apply, Std.TransCmp.congr_right same]
  | _ => rfl

/-- Equal clauses hold of the same values. -/
theorem Holds.congr {a b : Clause} (same : (a == b) = true) (h : e.Holds a v depth) :
    e.Holds b v depth := by
  obtain rfl | ⟨op, x, y, rfl, rfl, bounds⟩ := Clause.eq_or_value_of_beq same
  · exact h
  · rw [holds_value_iff] at h ⊢
    rwa [← valueCompares_congr bounds]

/-! ### Validation -/

/-- The clauses of a list that do not hold of a value. -/
def failures (e : Evaluator) (v : Value) : List Clause → Counted (List Clause)
  | [] => pure []
  | c :: rest => do
      if ← e.holds c v 0 then e.failures v rest
      else return c :: (← e.failures v rest)

/-- The clauses that a validation finds not to hold: all of them, or the first if it stops there. -/
def found (e : Evaluator) (v : Value) (clauses : List Clause) : Counted (List Clause) :=
  if e.options.shortCircuit then Option.toList <$> e.firstFailure clauses v
  else e.failures v clauses

/-- What is reported of clauses that were found not to hold. -/
def report (v : Value) : List Clause → Except Error Unit
  | [] => .ok ()
  | c :: rest => .error (.invalidData c v (rest.length + 1))

/-- What was met once further clauses were found not to hold. -/
def Tally.add (met : Tally) (failed : List Clause) : Tally :=
  ⟨met.first.or failed.head?, met.failures + failed.length⟩

theorem Tally.add_nil (met : Tally) : met.add [] = met := by simp [add]

theorem Tally.add_cons (met : Tally) (c : Clause) (failed : List Clause) :
    met.add (c :: failed) = (⟨met.first.or (some c), met.failures + 1⟩ : Tally).add failed := by
  cases h : met.first <;> simp [add, h, Nat.add_comm, Nat.add_left_comm]

/-- The loop adds the clauses that it finds not to hold to what was met before. -/
theorem tally_eq {met : Tally} {clauses : List Clause} :
    e.tally v met clauses = met.add <$> e.found v clauses := by
  unfold found
  cases stops : e.options.shortCircuit with
  | true =>
      induction clauses with
      | nil => simp [tally, firstFailure, Counted.firstFalse?, Tally.add_nil]
      | cons c rest ih =>
          simp only [tally, firstFailure, Counted.firstFalse?, map_bind, stops, if_true] at ih ⊢
          refine congrArg _ (funext fun holds => ?_)
          cases holds with
          | true => exact ih
          | false => simp [Tally.add]
  | false =>
      induction clauses generalizing met with
      | nil => simp [tally, failures, Tally.add_nil]
      | cons c rest ih =>
          simp only [tally, failures, map_bind, stops, Bool.false_eq_true, if_false] at ih ⊢
          refine congrArg _ (funext fun holds => ?_)
          cases holds with
          | true => exact ih
          | false => simp [ih, Tally.add_cons]

/-- **A validation reports the clauses that it finds not to hold.** -/
theorem validate_eq {clauses : List Clause} :
    e.validate clauses v = e.found v clauses >>= fun failed => .lift (report v failed) := by
  rw [validate, tally_eq, bind_map_left]
  refine congrArg _ (funext fun failed => ?_)
  cases failed with
  | nil => rfl
  | cons c rest => simp [Tally.add, report, Counted.fail, Counted.lift]

theorem result_validate {clauses : List Clause} :
    (e.validate clauses v).result = (e.found v clauses).result.bind (report v) := by
  rw [validate_eq, Counted.result_bind]
  rfl

theorem result_failures {clauses : List Clause} :
    (e.failures v clauses).result = .ok [] ↔ ∀ c ∈ clauses, e.Holds c v 0 := by
  induction clauses with
  | nil => simp [failures]
  | cons c rest ih =>
      simp only [failures, Counted.result_bind, List.forall_mem_cons]
      cases h : (e.holds c v 0).result with
      | error err => simp [Holds, h, Except.bind]
      | ok b =>
          cases b with
          | true => simp [Holds, h, Except.bind, ih]
          | false =>
              cases others : (e.failures v rest).result <;>
                simp [Holds, h, Except.bind, Except.map, others]

/-- Clauses that hold may be left out of the count of failures. -/
theorem result_failures_filter {keep : Clause → Bool} {clauses : List Clause}
    (h : ∀ c ∈ clauses, keep c = false → e.Holds c v 0) :
    (e.failures v (clauses.filter keep)).result = (e.failures v clauses).result := by
  induction clauses with
  | nil => rfl
  | cons c rest ih =>
      have ih := ih fun d hd => h d (List.mem_cons_of_mem c hd)
      cases kept : keep c with
      | true =>
          simp only [List.filter_cons_of_pos kept, failures, Counted.result_bind]
          refine congrArg _ (funext fun b => ?_)
          cases b <;> simp [ih]
      | false =>
          have holds : (e.holds c v 0).result = .ok true := h c List.mem_cons_self kept
          rw [List.filter_cons_of_neg (by simp [kept]), ih]
          simp [failures, holds, Except.bind]

theorem result_found {clauses : List Clause} :
    (e.found v clauses).result = .ok [] ↔ ∀ c ∈ clauses, e.Holds c v 0 := by
  unfold found
  split
  · have first : (e.firstFailure clauses v).result = .ok none ↔ ∀ c ∈ clauses, e.Holds c v 0 :=
      Counted.result_firstFalse?
    rw [← first, Counted.result_map]
    rcases (e.firstFailure clauses v).result with _ | _ | _ <;> simp [Except.map]
  · exact result_failures

/-- Validation succeeds just when all clauses hold. -/
theorem validate_eq_ok_iff {clauses : List Clause} :
    (e.validate clauses v).result = .ok () ↔ ∀ c ∈ clauses, e.Holds c v 0 := by
  rw [← result_found, result_validate]
  rcases (e.found v clauses).result with _ | _ | _ <;> simp [Except.bind, report]

/-- Leaving out clauses that hold changes neither the verdict of validation nor its error. -/
theorem result_validate_filter {keep : Clause → Bool} {clauses : List Clause}
    (h : ∀ c ∈ clauses, keep c = false → e.Holds c v 0) :
    (e.validate (clauses.filter keep) v).result = (e.validate clauses v).result := by
  have same : (e.found v (clauses.filter keep)).result = (e.found v clauses).result := by
    unfold found
    split
    · have first : (e.firstFailure (clauses.filter keep) v).result =
          (e.firstFailure clauses v).result := Counted.result_firstFalse?_filter h
      rw [Counted.result_map, Counted.result_map, first]
    · exact result_failures_filter h
  rw [result_validate, result_validate, same]

end Evaluator

end ProvenShapes
