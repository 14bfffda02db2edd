/-
**The nesting limit.**

Evaluation follows references down to a limit, and behind the limit nothing holds.  So a limit can
turn every answer into a rejection, and it can do nothing else: evaluation under a limit is rejected,
or it ends as it does under any wider limit, with the same truth value or the same error.  References
lead to earlier patterns, so there are never more of them in a row than there are patterns.  A limit
of that size is no limit at all.

Main definitions:

* `Evaluator.unlimited` — evaluation without a limit;
* `Stricter` — a result is a rejection or the same as another.

Main results:

* `Evaluator.unlimited_eq_ask` — one step of evaluation without a limit;
* `Evaluator.holds_withOptions` — of the options evaluation depends on the limit only;
* `Evaluator.stricter_holds` — **a narrower limit rejects or changes nothing**;
* `Evaluator.holds_eq_unlimited` — within the limit there is none;
* `Evaluator.nesting_limit_only_rejects` — what a limit does, and when it does nothing.
-/

import ProvenShapes.Proofs.Walks

set_option autoImplicit false

namespace ProvenShapes

namespace Evaluator

variable {e : Evaluator} {c : Clause} {v : Value} {depth : Nat}

/-! ### Evaluation without a limit -/

/-- A clause holds of a value, however many references have to be followed. -/
def unlimited (e : Evaluator) (c : Clause) (v : Value) : Counted Bool :=
  match c with
  | .kindOf _ | .changesWith _ => pure true
  | c => do
      Counted.tick
      match c with
      | .typeIs (.primitive t) => pure (hasType t v)
      | .typeIs (.pattern id) =>
          match _ : e.registry.resolve? id with
          | none => .fail (.unknownPattern id.display)
          | some s => Counted.allTrue (fun ⟨d, _⟩ => e.unlimited d v) s.toList.attach
      | .length op bound => pure (lengthCompares op bound v)
      | .value op bound => pure (valueCompares op bound v)
      | .required always => pure (!always || !v.isUndefined)
      | .satisfies id => .lift (e.satisfies id v)
      | .field name id =>
          match v with
          | .object fields =>
              match _ : e.registry.resolve? id with
              | none => .fail (.unknownPattern id.display)
              | some s =>
                  match Keyed.find? name fields with
                  | some w => Counted.allTrue (fun ⟨d, _⟩ => e.unlimited d w) s.toList.attach
                  | none => pure (!s.contains (.required true))
          | _ => pure false
      | .kindOf _ | .changesWith _ => pure true
termination_by c.rank
decreasing_by
  all_goals exact Registry.rank_lt rfl (by assumption) (by assumption)

/-- One step of evaluation without a limit. -/
theorem unlimited_eq_ask :
    e.unlimited c v =
      if c.isTested then do
        Counted.tick
        e.ask e.unlimited c v
      else pure true := by
  cases c with
  | typeIs type =>
      cases type with
      | primitive t => rw [unlimited]; rfl
      | pattern id =>
          rw [unlimited]
          refine congrArg (Counted.tick >>= ·) (funext fun _ => ?_)
          rw [ask]
          split
          · next unknown => simp only [unknown]
          · next s known =>
              simp only [known]
              exact Counted.allTrue_attach (f := fun d => e.unlimited d v)
  | field name id =>
      cases v with
      | object fields =>
          rw [unlimited]
          refine congrArg (Counted.tick >>= ·) (funext fun _ => ?_)
          rw [ask]
          split
          · next unknown => simp only [unknown]
          · next s known =>
              simp only [known]
              cases Keyed.find? name fields with
              | none => rfl
              | some w => exact Counted.allTrue_attach (f := fun d => e.unlimited d w)
      | null | bool | number | string | array | undefined =>
          rw [unlimited]
          · rfl
          all_goals simp
  | length | value | required | satisfies | kindOf | changesWith => rw [unlimited]; rfl

end Evaluator

/-! ### Rejecting more -/

/-- The first result is a rejection, or it is the same as the second. -/
def Stricter (x y : Except Error Bool) : Prop := x = .ok false ∨ x = y

theorem Stricter.refl (x : Except Error Bool) : Stricter x x := .inr rfl

/-- What a stricter result accepts is accepted. -/
theorem Stricter.accepts {x y : Except Error Bool} (h : Stricter x y) (accepted : x = .ok true) :
    y = .ok true := by
  rcases h with rejected | same
  · rw [rejected] at accepted
    simp at accepted
  · rw [← same, accepted]

theorem Counted.stricter_tick {x y : Counted Bool} (h : Stricter x.result y.result) :
    Stricter (do tick; x).result (do tick; y).result := by
  rwa [result_bind, result_bind]

/-- A conjunction of stricter members is stricter: up to the first member that is rejected it takes
the same course. -/
theorem Counted.stricter_allTrue {α : Type} {f g : α → Counted Bool} {l : List α}
    (h : ∀ a ∈ l, Stricter (f a).result (g a).result) :
    Stricter (allTrue f l).result (allTrue g l).result := by
  induction l with
  | nil => exact .refl _
  | cons a rest ih =>
      obtain ⟨first, later⟩ := List.forall_mem_cons.1 h
      simp only [allTrue, result_bind]
      rcases first with rejected | same
      · left
        simp [rejected, Except.bind]
      · rw [same]
        cases (g a).result with
        | error err => exact .refl _
        | ok verdict =>
            cases verdict with
            | true => exact ih later
            | false => exact .refl _

namespace Evaluator

variable {e : Evaluator} {c : Clause} {v : Value} {depth : Nat}

theorem stricter_ask {inner inner' : Clause → Value → Counted Bool}
    (h : ∀ d, e.registry.Behind c d → ∀ w, Stricter (inner d w).result (inner' d w).result) :
    Stricter (e.ask inner c v).result (e.ask inner' c v).result := by
  cases c with
  | typeIs type =>
      cases type with
      | primitive t => exact .refl _
      | pattern id =>
          rw [ask, ask]
          split
          · exact .refl _
          · next s known =>
              refine Counted.stricter_allTrue fun d hd => ?_
              exact h d ⟨id, s, rfl, known, hd⟩ v
  | field name id =>
      cases v with
      | object fields =>
          rw [ask, ask]
          split
          · exact .refl _
          · next s known =>
              split
              · next w found =>
                  refine Counted.stricter_allTrue fun d hd => ?_
                  exact h d ⟨id, s, rfl, known, hd⟩ w
              · exact .refl _
      | null | bool | number | string | array | undefined => exact .refl _
  | length | value | required | satisfies | kindOf | changesWith => exact .refl _

/-! ### Options -/

/-- The evaluator with other options. -/
def withOptions (e : Evaluator) (options : Options) : Evaluator := { e with options }

/-- The evaluator with another nesting limit. -/
def withLimit (e : Evaluator) (limit : Nat) : Evaluator :=
  e.withOptions { e.options with maxNesting := limit }

/-- What a clause asks does not depend on options. -/
theorem ask_withOptions (options : Options) (inner : Clause → Value → Counted Bool) :
    (e.withOptions options).ask inner c v = e.ask inner c v := rfl

/-- Of the options evaluation depends on the limit only. -/
theorem holds_withOptions {options : Options}
    (limit : options.maxNesting = e.options.maxNesting) :
    (e.withOptions options).holds c v depth = e.holds c v depth := by
  induction hrank : c.rank using Nat.strongRecOn generalizing c v depth with
  | _ rank ih =>
      subst hrank
      have limit : (e.withOptions options).options.maxNesting = e.options.maxNesting := limit
      have asked : (e.withOptions options).ask
            (fun d w => (e.withOptions options).holds d w (depth + 1)) c v =
          e.ask (fun d w => e.holds d w (depth + 1)) c v := by
        rw [ask_withOptions]
        exact ask_congr fun d behind w => ih _ behind.rank_lt rfl
      rw [holds_eq_ask, holds_eq_ask, limit, asked]

theorem unlimited_withOptions (options : Options) :
    (e.withOptions options).unlimited c v = e.unlimited c v := by
  induction hrank : c.rank using Nat.strongRecOn generalizing c v with
  | _ rank ih =>
      subst hrank
      have asked : (e.withOptions options).ask (e.withOptions options).unlimited c v =
          e.ask e.unlimited c v := by
        rw [ask_withOptions]
        exact ask_congr fun d behind w => ih _ behind.rank_lt rfl
      rw [unlimited_eq_ask, unlimited_eq_ask, asked]

/-- With no more room below it, evaluation rejects or ends in the same way. -/
theorem stricter_holds {m m' n n' : Nat} (room : m + n' ≤ m' + n) :
    Stricter ((e.withLimit m).holds c v n).result ((e.withLimit m').holds c v n').result := by
  -- a reference takes the same room from both, and leads to clauses that reach less far
  induction hrank : c.rank using Nat.strongRecOn generalizing c v n n' with
  | _ rank ih =>
      subst hrank
      rw [holds_eq_ask, holds_eq_ask]
      split
      · by_cases beyond : m < n
        · left
          rw [if_pos (show (e.withLimit m).options.maxNesting < n from beyond)]
          rfl
        · have within : ¬m' < n' := by omega
          rw [if_neg (show ¬(e.withLimit m).options.maxNesting < n from beyond),
            if_neg (show ¬(e.withLimit m').options.maxNesting < n' from within)]
          refine Counted.stricter_tick ?_
          rw [withLimit, withLimit, ask_withOptions, ask_withOptions]
          refine stricter_ask fun d behind w => ?_
          exact ih _ behind.rank_lt (by omega) rfl
      · exact .refl _

/-- Where the references behind a clause stay within the limit, it is evaluated as without one, with
the same count. -/
theorem holds_eq_unlimited (room : depth + c.rank ≤ e.options.maxNesting) :
    e.holds c v depth = e.unlimited c v := by
  induction hrank : c.rank using Nat.strongRecOn generalizing c v depth with
  | _ rank ih =>
      subst hrank
      have within : ¬e.options.maxNesting < depth := by omega
      have asked : e.ask (fun d w => e.holds d w (depth + 1)) c v = e.ask e.unlimited c v := by
        refine ask_congr fun d behind w => ?_
        have less := behind.rank_lt
        exact ih _ less (by omega) rfl
      rw [holds_eq_ask, unlimited_eq_ask, if_neg within, asked]

/-- So it is under a limit that is not smaller than the number of patterns, for every clause. -/
theorem holds_eq_unlimited_of_size (room : depth + e.registry.size ≤ e.options.maxNesting) :
    e.holds c v depth = e.unlimited c v := by
  have within : ¬e.options.maxNesting < depth := by omega
  -- the clause itself may refer to a pattern that is unknown, but what lies behind it is registered
  have asked : e.ask (fun d w => e.holds d w (depth + 1)) c v = e.ask e.unlimited c v := by
    refine ask_congr fun d behind w => ?_
    obtain ⟨id, s, -, known, hd⟩ := behind
    have registered := Registry.index_lt_of_resolve known
    have reaches := Registry.rank_le known hd
    exact holds_eq_unlimited (by omega)
  rw [holds_eq_ask, unlimited_eq_ask, if_neg within, asked]

/-- Every limit is stricter than none. -/
theorem stricter_unlimited (m : Nat) :
    Stricter ((e.withLimit m).holds c v depth).result (e.unlimited c v).result := by
  have wide : (e.withLimit (m + c.rank)).holds c v 0 = e.unlimited c v := by
    rw [holds_eq_unlimited (show 0 + c.rank ≤ m + c.rank by omega)]
    exact unlimited_withOptions _
  rw [← wide]
  exact stricter_holds (by omega)

/-- **A nesting limit only ever rejects, and a large enough one does nothing.**  What holds under a
limit holds under every wider limit and at every smaller depth.  Under any limit and at any depth
evaluation is rejected, or it ends as it does without a limit, with the same error if there is one.
And under a limit that is not smaller than the number of patterns it is evaluation without a limit,
down to the number of evaluations. -/
theorem nesting_limit_only_rejects (e : Evaluator) (c : Clause) (v : Value) :
    (∀ m m' depth, m ≤ m' → (e.withLimit m).Holds c v depth → (e.withLimit m').Holds c v depth) ∧
    (∀ m depth depth', depth' ≤ depth → (e.withLimit m).Holds c v depth →
      (e.withLimit m).Holds c v depth') ∧
    (∀ m depth, Stricter ((e.withLimit m).holds c v depth).result (e.unlimited c v).result) ∧
    (∀ m, e.registry.size ≤ m → (e.withLimit m).holds c v 0 = e.unlimited c v) := by
  refine ⟨?_, ?_, ?_, ?_⟩
  · intro m m' depth wider holds
    have stricter : Stricter ((e.withLimit m).holds c v depth).result
        ((e.withLimit m').holds c v depth).result := stricter_holds (by omega)
    exact stricter.accepts holds
  · intro m depth depth' le holds
    exact holds.of_le le
  · intro m depth
    exact stricter_unlimited m
  · intro m enough
    have room : 0 + e.registry.size ≤ m := by omega
    calc (e.withLimit m).holds c v 0
        = (e.withLimit m).unlimited c v := holds_eq_unlimited_of_size room
      _ = e.unlimited c v := unlimited_withOptions _

/-- A visit has a pass, and a pass is one reference to a code. -/
def visits : Evaluator where
  registry :=
    let code : ClauseSet := .ofList [.typeIs (.primitive .string), .length .eq 4]
    let pass : ClauseSet := .ofList [.typeIs (.pattern ⟨0⟩)]
    let visit : ClauseSet := .ofList [.typeIs (.primitive .object), .field "pass" ⟨1⟩]
    Registry.empty
      |>.push (some "Code") code (by decide)
      |>.push (some "Pass") pass (by decide)
      |>.push (some "Visit") visit (by decide)
  constraints := []
  options := {}

/-- Three references in a row lead from a visit to the type of its code.  A limit of three lets them
all be followed, so that nothing changes with any wider limit or closer to the surface; a limit of two
rejects what is valid. -/
theorem nesting_limit_only_rejects_visits :
    let visit := Clause.typeIs (.pattern ⟨2⟩)
    let ada := Value.object [("pass", .string "A-17")]
    visits.registry.size ≤ 3 ∧ (visits.withLimit 3).Holds visit ada 0 ∧
      (visits.withLimit 3).holds visit ada 0 = visits.unlimited visit ada ∧
      (∀ m, 3 ≤ m → (visits.withLimit m).Holds visit ada 0) ∧
      (∀ depth, depth ≤ 4 → (visits.withLimit 7).Holds visit ada depth) ∧
      ((visits.withLimit 2).holds visit ada 0).result.toOption = some false := by
  intro visit ada
  obtain ⟨wider, closer, -, enough⟩ := nesting_limit_only_rejects visits visit ada
  have size : visits.registry.size ≤ 3 := by decide
  have holds : (visits.withLimit 3).Holds visit ada 0 := by decide +kernel
  refine ⟨size, holds, enough 3 size, ?_, ?_, by decide +kernel⟩
  · intro m le
    exact wider 3 m 0 le holds
  · intro depth le
    exact closer 7 4 depth le (by decide +kernel)

end Evaluator

end ProvenShapes
