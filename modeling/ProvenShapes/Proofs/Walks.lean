/-
**Walks along references.**

Six questions about clauses are answered by following references: which kinds a clause pins,
whether it carries one, to which primitive type it pins values, whether it implies another clause,
whether a set has a contradiction, and whether a clause holds of a value.  Each of them asks itself
again about clauses of the patterns referred to, and contradictions also ask for types and kinds.
Here the calls that a question makes are a relation, which is well-founded because references lead
down, and the answers are shown to come from nothing but the calls and what is looked up on the spot.
Whatever leaves these alone leaves the answers alone.

Main definitions:

* `Evaluator.ask` — what a clause asks of a value, given the answers of the clauses behind it;
* `Walk`, `Walk.Answer`, `Evaluator.answer` — the questions and their answers;
* `Walk.Calls` — the questions that a question asks in turn;
* `Evaluator.Agrees` — two evaluators look up the same for a question.

Main results:

* `Evaluator.holds_eq_ask` — one step of evaluation;
* `Walk.wellFounded_calls` — **no question is asked for ever**;
* `Evaluator.answer_congr` — an answer comes from the answers to the calls;
* `Evaluator.answer_eq_of_agrees` — where two evaluators agree on all that is asked, so do their
  answers.
-/

import Mathlib.Data.List.Basic
import Mathlib.Data.List.Find
import ProvenShapes.Proofs.Evaluation
import ProvenShapes.Proofs.Kinds

set_option autoImplicit false

namespace ProvenShapes

/-! ### The recursions without their proofs -/

namespace Registry

variable {r : Registry}

theorem kindPaths_reference {id : PatternId} :
    r.kindPaths (.typeIs (.pattern id)) =
      match r.resolve? id with
      | some s => s.toList.flatMap r.kindPaths
      | none => [] := by
  rw [kindPaths]
  split
  · next s known => simp [known]
  · next unknown => simp [unknown]

theorem kindPaths_field {name : String} {id : PatternId} :
    r.kindPaths (.field name id) =
      match r.resolve? id with
      | some s => s.toList.flatMap fun d =>
          (r.kindPaths d).map fun pinned => (name :: pinned.1, pinned.2)
      | none => [] := by
  rw [kindPaths]
  split
  · next s known => simp [known]
  · next unknown => simp [unknown]

theorem carriesKind_reference {c : Clause} {id : PatternId} (ref : c.reference? = some id) :
    r.carriesKind c =
      match r.resolve? id with
      | some s => s.toList.any r.carriesKind
      | none => false := by
  cases c with
  | typeIs type =>
      cases type with
      | primitive t => simp [Clause.reference?] at ref
      | pattern id' =>
          obtain rfl := Option.some.inj ref
          rw [carriesKind]
          split
          · next s known => simp [known]
          · next unknown => simp [unknown]
  | field name id' =>
      obtain rfl := Option.some.inj ref
      rw [carriesKind]
      split
      · next s known => simp [known]
      · next unknown => simp [unknown]
  | _ => simp [Clause.reference?] at ref

theorem primitiveOf?_reference {id : PatternId} :
    r.primitiveOf? (.typeIs (.pattern id)) =
      match r.resolve? id with
      | some s => s.toList.findSome? r.primitiveOf?
      | none => none := by
  rw [primitiveOf?]
  split
  · next s known => simp [known]
  · next unknown => simp [unknown]

/-- The patterns behind two references have a contradiction when they are put together. -/
def clash (r : Registry) (p q : PatternId) : Bool :=
  match r.resolve? p, r.resolve? q with
  | some s, some t => (r.contradiction? (s.union t)).isSome
  | _, _ => false

/-- Two clauses of a set are in conflict. -/
def conflicts (r : Registry) (pair : Clause × Clause) : Bool :=
  pair.1.subject == pair.2.subject && r.conflict pair.1 pair.2 fun p q _ _ => r.clash p q

theorem contradiction?_eq {s : ClauseSet} :
    r.contradiction? s =
      match (pairs s.toList).find? r.conflicts with
      | some pair => some pair
      | none => kindClash? (r.effectiveKinds s) := by
  have plain : ∀ {f : { pair // pair ∈ pairs s.toList } → Bool},
      (∀ pair h, f ⟨pair, h⟩ = r.conflicts pair) →
      (pairs s.toList).find? r.conflicts = ((pairs s.toList).attach.find? f).map Subtype.val := by
    intro f same
    rw [List.find?_subtype same, List.unattach_attach]
  rw [contradiction?, plain]
  · dsimp only
    split <;> rename_i found <;> rw [found] <;> rfl
  · intro pair h
    refine congrArg (_ && r.conflict _ _ ·) ?_
    funext p q _ _
    unfold clash
    split
    · next hs ht => simp [hs, ht]
    · next unknown =>
        split
        · next hs ht => exact absurd ht (unknown _ _ hs)
        · rfl

end Registry

namespace Counted

variable {α β : Type}

theorem allTrue_map {f : β → Counted Bool} {g : α → β} {l : List α} :
    allTrue f (l.map g) = allTrue (fun a => f (g a)) l := by
  induction l with
  | nil => rfl
  | cons a rest ih => simp only [List.map_cons, allTrue, ih]

theorem allTrue_attach {f : α → Counted Bool} {l : List α} :
    allTrue (fun a : { a // a ∈ l } => f a.val) l.attach = allTrue f l := by
  rw [← allTrue_map (f := f) (g := Subtype.val), List.attach_map_subtype_val]

theorem firstFalse?_congr {f g : α → Counted Bool} {l : List α} (h : ∀ a ∈ l, f a = g a) :
    firstFalse? f l = firstFalse? g l := by
  induction l with
  | nil => rfl
  | cons a rest ih =>
      obtain ⟨first, later⟩ := List.forall_mem_cons.1 h
      simp only [firstFalse?, first, ih later]

theorem allTrue_congr {f g : α → Counted Bool} {l : List α} (h : ∀ a ∈ l, f a = g a) :
    allTrue f l = allTrue g l := by
  rw [allTrue_eq, allTrue_eq, firstFalse?_congr h]

end Counted

/-- Evaluation looks at the clause; kinds and co-mutation hold of every value unseen. -/
def Clause.isTested : Clause → Bool
  | kindOf _ | changesWith _ => false
  | _ => true

namespace Evaluator

variable {e : Evaluator} {c : Clause} {v : Value} {depth : Nat}

theorem holds_reference {id : PatternId} :
    e.holds (.typeIs (.pattern id)) v depth =
      (if e.options.maxNesting < depth then pure false
      else do
        Counted.tick
        match e.registry.resolve? id with
        | none => .fail (.unknownPattern id.display)
        | some s => Counted.allTrue (fun d => e.holds d v (depth + 1)) s.toList) := by
  rw [holds]
  split
  · rfl
  · refine congrArg (Counted.tick >>= ·) (funext fun _ => ?_)
    split
    · next unknown => simp [unknown]
    · next s known =>
        simp only [known]
        exact Counted.allTrue_attach (f := fun d => e.holds d v (depth + 1))

theorem holds_field {name : String} {id : PatternId} {fields : List (String × Value)} :
    e.holds (.field name id) (.object fields) depth =
      (if e.options.maxNesting < depth then pure false
      else do
        Counted.tick
        match e.registry.resolve? id with
        | none => .fail (.unknownPattern id.display)
        | some s =>
            match Keyed.find? name fields with
            | some w => Counted.allTrue (fun d => e.holds d w (depth + 1)) s.toList
            | none => pure (!s.contains (.required true))) := by
  rw [holds]
  split
  · rfl
  · refine congrArg (Counted.tick >>= ·) (funext fun _ => ?_)
    split
    · next unknown => simp [unknown]
    · next s known =>
        simp only [known]
        cases Keyed.find? name fields with
        | none => rfl
        | some w => exact Counted.allTrue_attach (f := fun d => e.holds d w (depth + 1))

/-- What a clause asks of a value, where `inner` answers for the clauses of the pattern that it
refers to. -/
def ask (e : Evaluator) (inner : Clause → Value → Counted Bool) (c : Clause) (v : Value) :
    Counted Bool :=
  match c with
  | .typeIs (.primitive t) => pure (hasType t v)
  | .typeIs (.pattern id) =>
      match e.registry.resolve? id with
      | none => .fail (.unknownPattern id.display)
      | some s => Counted.allTrue (fun d => inner d v) s.toList
  | .length op bound => pure (lengthCompares op bound v)
  | .value op bound => pure (valueCompares op bound v)
  | .required always => pure (!always || !v.isUndefined)
  | .satisfies id => .lift (e.satisfies id v)
  | .field name id =>
      match v with
      | .object fields =>
          match e.registry.resolve? id with
          | none => .fail (.unknownPattern id.display)
          | some s =>
              match Keyed.find? name fields with
              | some w => Counted.allTrue (fun d => inner d w) s.toList
              | none => pure (!s.contains (.required true))
      | _ => pure false
  | .kindOf _ | .changesWith _ => pure true

/-- One step of evaluation: a clause that is tested is counted and asked, unless it lies behind the
limit. -/
theorem holds_eq_ask :
    e.holds c v depth =
      if c.isTested then
        if e.options.maxNesting < depth then pure false
        else do
          Counted.tick
          e.ask (fun d w => e.holds d w (depth + 1)) c v
      else pure true := by
  cases c with
  | typeIs type =>
      cases type with
      | primitive t => rw [holds]; rfl
      | pattern id => rw [holds_reference]; rfl
  | field name id =>
      cases v with
      | object fields => rw [holds_field]; rfl
      | null | bool | number | string | array | undefined =>
          rw [holds]
          · rfl
          all_goals simp
  | length | value | required | satisfies | kindOf | changesWith => rw [holds]; rfl

end Evaluator

/-! ### Questions and the questions they ask -/

/-- A question that is answered by following references. -/
inductive Walk where
  | kinds (c : Clause)
  | carriesKind (c : Clause)
  | primitive (c : Clause)
  | implies (a b : Clause)
  | contradiction (s : ClauseSet)
  | holds (c : Clause) (v : Value) (depth : Nat)

namespace Registry

/-- The first clause refers to a pattern that has the second. -/
def Behind (r : Registry) (c d : Clause) : Prop :=
  ∃ id s, c.reference? = some id ∧ r.resolve? id = some s ∧ d ∈ s.toList

theorem Behind.rank_lt {r : Registry} {c d : Clause} (h : r.Behind c d) : d.rank < c.rank := by
  obtain ⟨id, s, ref, known, mem⟩ := h
  exact Registry.rank_lt ref known mem

end Registry

namespace Walk

/-- The clauses whose references a question looks up. -/
def clauses : Walk → List Clause
  | kinds c | carriesKind c | primitive c | holds c _ _ => [c]
  | implies a b => [a, b]
  | contradiction s => s.toList

/-- The first question is asked in the course of answering the second. -/
inductive Calls (r : Registry) : Walk → Walk → Prop
  | kinds {c d : Clause} (h : r.Behind c d) : Calls r (.kinds d) (.kinds c)
  | carriesKind {c d : Clause} (h : r.Behind c d) : Calls r (.carriesKind d) (.carriesKind c)
  | primitive {c d : Clause} (h : r.Behind c d) : Calls r (.primitive d) (.primitive c)
  | implies_both {a a' b b' : Clause} (h : r.Behind a a') (h' : r.Behind b b') :
      Calls r (.implies a' b') (.implies a b)
  | implies_one {a a' b : Clause} (h : r.Behind a a') : Calls r (.implies a' b) (.implies a b)
  /-- The patterns that two clauses of a set refer to are put together. -/
  | contradiction {a b : Clause} {p q : PatternId} {s t u : ClauseSet} (ha : a ∈ s.toList)
      (hb : b ∈ s.toList) (hp : a.reference? = some p) (hq : b.reference? = some q)
      (ht : r.resolve? p = some t) (hu : r.resolve? q = some u) :
      Calls r (.contradiction (t.union u)) (.contradiction s)
  | primitive_of {c : Clause} {s : ClauseSet} (h : c ∈ s.toList) :
      Calls r (.primitive c) (.contradiction s)
  | kinds_of {c : Clause} {s : ClauseSet} (h : c ∈ s.toList) :
      Calls r (.kinds c) (.contradiction s)
  | holds {c d : Clause} {v : Value} {depth : Nat} (h : r.Behind c d) :
      Calls r (.holds d v (depth + 1)) (.holds c v depth)
  | holds_field {name : String} {id : PatternId} {d : Clause} {fields : List (String × Value)}
      {w : Value} {depth : Nat} (h : r.Behind (.field name id) d)
      (found : Keyed.find? name fields = some w) :
      Calls r (.holds d w (depth + 1)) (.holds (.field name id) (.object fields) depth)

/-- How far up the patterns a question reaches. -/
def rank : Walk → Nat
  | kinds c | carriesKind c | primitive c | holds c _ _ => c.rank
  | implies a b => a.rank + b.rank
  | contradiction s => s.rank + 1

theorem Calls.rank_lt {r : Registry} {inner outer : Walk} (h : Calls r inner outer) :
    inner.rank < outer.rank := by
  cases h with
  | kinds h => exact h.rank_lt
  | carriesKind h => exact h.rank_lt
  | primitive h => exact h.rank_lt
  | implies_both h h' => exact Nat.add_lt_add h.rank_lt h'.rank_lt
  | implies_one h => exact Nat.add_lt_add_right h.rank_lt _
  | contradiction ha hb hp hq ht hu =>
      have least := Registry.rank_union_lt hp hq ht hu
      have bound := Nat.max_le.2 ⟨rank_le_rankOf ha, rank_le_rankOf hb⟩
      exact Nat.succ_lt_succ (Nat.lt_of_lt_of_le least bound)
  | primitive_of h => exact Nat.lt_succ_of_le (rank_le_rankOf h)
  | kinds_of h => exact Nat.lt_succ_of_le (rank_le_rankOf h)
  | holds h => exact h.rank_lt
  | holds_field h found => exact h.rank_lt

/-- No question is asked for ever. -/
theorem wellFounded_calls (r : Registry) : WellFounded (Calls r) :=
  Subrelation.wf Calls.rank_lt (measure rank).wf

/-- What answers a question. -/
def Answer : Walk → Type
  | kinds _ => List (List String × String)
  | carriesKind _ => Bool
  | primitive _ => Option Primitive
  | implies _ _ => Bool
  | contradiction _ => Option (Clause × Clause)
  | holds _ _ _ => Counted Bool

end Walk

namespace Evaluator

/-- The answer to a question. -/
def answer (e : Evaluator) : (w : Walk) → w.Answer
  | .kinds c => e.registry.kindPaths c
  | .carriesKind c => e.registry.carriesKind c
  | .primitive c => e.registry.primitiveOf? c
  | .implies a b => e.registry.implies a b
  | .contradiction s => e.registry.contradiction? s
  | .holds c v depth => e.holds c v depth

/-- What a question looks up itself is the same for both evaluators. -/
structure Agrees (e e' : Evaluator) (w : Walk) : Prop where
  options : e'.options = e.options
  references : ∀ c ∈ w.clauses, ∀ id, c.reference? = some id →
    e'.registry.resolve? id = e.registry.resolve? id
  constraints : ∀ c ∈ w.clauses, ∀ id, c = .satisfies id →
    e'.constraints.find? id = e.constraints.find? id

end Evaluator

/-! ### Answers come from the calls -/

namespace Registry

variable {r r' : Registry}

theorem kindPaths_eq_of_calls {c : Clause}
    (same : ∀ id, c.reference? = some id → r'.resolve? id = r.resolve? id)
    (calls : ∀ d, r.Behind c d → r'.kindPaths d = r.kindPaths d) :
    r'.kindPaths c = r.kindPaths c := by
  cases c with
  | typeIs type =>
      cases type with
      | primitive t => rw [kindPaths_type, kindPaths_type]
      | pattern id =>
          rw [kindPaths_reference, kindPaths_reference, same id rfl]
          split
          · next s known => exact List.flatMap_congr fun d hd => calls d ⟨id, s, rfl, known, hd⟩
          · rfl
  | field name id =>
      rw [kindPaths_field, kindPaths_field, same id rfl]
      split
      · next s known =>
          refine List.flatMap_congr fun d hd => ?_
          rw [calls d ⟨id, s, rfl, known, hd⟩]
      · rfl
  | _ => simp [kindPaths]

theorem carriesKind_eq_of_calls {c : Clause}
    (same : ∀ id, c.reference? = some id → r'.resolve? id = r.resolve? id)
    (calls : ∀ d, r.Behind c d → r'.carriesKind d = r.carriesKind d) :
    r'.carriesKind c = r.carriesKind c := by
  cases ref : c.reference? with
  | some id =>
      rw [carriesKind_reference ref, carriesKind_reference ref, same id ref]
      split
      · next s known =>
          rw [Bool.eq_iff_iff, List.any_eq_true, List.any_eq_true]
          refine exists_congr fun d => and_congr_right fun hd => ?_
          rw [calls d ⟨id, s, ref, known, hd⟩]
      · rfl
  | none =>
      cases c with
      | typeIs type =>
          cases type with
          | primitive t => simp [carriesKind]
          | pattern id => simp [Clause.reference?] at ref
      | field name id => simp [Clause.reference?] at ref
      | _ => simp [carriesKind]

theorem primitiveOf?_eq_of_calls {c : Clause}
    (same : ∀ id, c.reference? = some id → r'.resolve? id = r.resolve? id)
    (calls : ∀ d, r.Behind c d → r'.primitiveOf? d = r.primitiveOf? d) :
    r'.primitiveOf? c = r.primitiveOf? c := by
  cases c with
  | typeIs type =>
      cases type with
      | primitive t => simp [primitiveOf?]
      | pattern id =>
          rw [primitiveOf?_reference, primitiveOf?_reference, same id rfl]
          split
          · next s known =>
              have each : s.toList.map r'.primitiveOf? = s.toList.map r.primitiveOf? :=
                List.map_congr_left fun d hd => calls d ⟨id, s, rfl, known, hd⟩
              have first := congrArg (List.findSome? fun found => found) each
              rwa [List.findSome?_map, List.findSome?_map] at first
          · rfl
  | _ => simp [primitiveOf?]

/-- What a clause without a reference implies is seen without the registry. -/
theorem implies_eq_of_plain {a b : Clause} (plain : a.reference? = none) :
    r'.implies a b = r.implies a b := by
  unfold implies
  cases a with
  | typeIs x =>
      cases x with
      | primitive t =>
          cases b with
          | typeIs y => cases y <;> rfl
          | _ => rfl
      | pattern p => simp [Clause.reference?] at plain
  | field m p => simp [Clause.reference?] at plain
  | required x =>
      cases b with
      | required y => cases x <;> cases y <;> rfl
      | _ => cases x <;> rfl
  | _ => cases b <;> rfl

theorem implies_eq_of_calls {a b : Clause}
    (same : ∀ c ∈ [a, b], ∀ id, c.reference? = some id → r'.resolve? id = r.resolve? id)
    (both : ∀ a' b', r.Behind a a' → r.Behind b b' → r'.implies a' b' = r.implies a' b')
    (one : ∀ a', r.Behind a a' → r'.implies a' b = r.implies a' b) :
    r'.implies a b = r.implies a b := by
  have sameA : ∀ id, a.reference? = some id → r'.resolve? id = r.resolve? id := same a (by simp)
  have sameB : ∀ id, b.reference? = some id → r'.resolve? id = r.resolve? id := same b (by simp)
  -- behind two references, the registries agree on whether one set subsumes the other
  have nested : ∀ {p q : PatternId}, a.reference? = some p → b.reference? = some q →
      ((∃ s t, r'.resolve? p = some s ∧ r'.resolve? q = some t ∧ r'.subsumes s t = true) ↔
        ∃ s t, r.resolve? p = some s ∧ r.resolve? q = some t ∧ r.subsumes s t = true) := by
    intro p q hp hq
    rw [sameA p hp, sameB q hq]
    refine exists_congr fun s => exists_congr fun t => and_congr_right fun hs =>
      and_congr_right fun ht => ?_
    rw [subsumes_iff_implies, subsumes_iff_implies]
    refine forall_congr' fun c => forall_congr' fun hc => imp_congr_right fun _ =>
      exists_congr fun d => and_congr_right fun hd => ?_
    rw [both d c ⟨p, s, hp, hs, hd⟩ ⟨q, t, hq, ht, hc⟩]
  rw [Bool.eq_iff_iff]
  cases a with
  | typeIs x =>
      cases x with
      | primitive t => rw [implies_eq_of_plain rfl]
      | pattern p =>
          by_cases plain : ∀ q, b ≠ .typeIs (.pattern q)
          · rw [implies_behind_iff plain, implies_behind_iff plain, sameA p rfl]
            refine exists_congr fun s => and_congr_right fun hs => exists_congr fun d =>
              and_congr_right fun hd => ?_
            rw [one d ⟨p, s, rfl, hs, hd⟩]
          · obtain ⟨q, rfl⟩ : ∃ q, b = .typeIs (.pattern q) := by simpa using plain
            rw [implies_reference_iff, implies_reference_iff, nested rfl rfl]
  | field m p =>
      cases b with
      | field n q => rw [implies_field_iff, implies_field_iff, nested rfl rfl]
      | _ => simp [implies]
  | _ => rw [implies_eq_of_plain rfl]

theorem conflict_congr {a b : Clause}
    {f g : ∀ p q, a.reference? = some p → b.reference? = some q → Bool}
    (ha : r'.primitiveOf? a = r.primitiveOf? a) (hb : r'.primitiveOf? b = r.primitiveOf? b)
    (nested : f = g) : r'.conflict a b f = r.conflict a b g := by
  subst nested
  cases a with
  | typeIs s =>
      cases b with
      | typeIs t => simp only [conflict, ha, hb]
      | _ => rfl
  | _ => cases b <;> rfl

theorem contradiction?_eq_of_calls {s : ClauseSet}
    (same : ∀ c ∈ s.toList, ∀ id, c.reference? = some id → r'.resolve? id = r.resolve? id)
    (unions : ∀ a ∈ s.toList, ∀ b ∈ s.toList, ∀ p q t u, a.reference? = some p →
      b.reference? = some q → r.resolve? p = some t → r.resolve? q = some u →
      r'.contradiction? (t.union u) = r.contradiction? (t.union u))
    (types : ∀ c ∈ s.toList, r'.primitiveOf? c = r.primitiveOf? c)
    (kinds : ∀ c ∈ s.toList, r'.kindPaths c = r.kindPaths c) :
    r'.contradiction? s = r.contradiction? s := by
  have pairwise : (pairs s.toList).find? r'.conflicts = (pairs s.toList).find? r.conflicts := by
    refine List.find?_congr fun pair mem => ?_
    obtain ⟨ha, hb⟩ := mem_of_mem_pairs mem
    refine congrArg (_ && ·) (conflict_congr (types _ ha) (types _ hb) ?_)
    funext p q hp hq
    unfold clash
    rw [same _ ha p hp, same _ hb q hq]
    split
    · next t u ht hu => rw [unions _ ha _ hb p q t u hp hq ht hu]
    · rfl
  have pinned : r'.effectiveKinds s = r.effectiveKinds s := by
    unfold effectiveKinds
    rw [List.flatMap_congr kinds]
  rw [contradiction?_eq, contradiction?_eq, pairwise, pinned]

end Registry

namespace Evaluator

variable {e e' : Evaluator}

theorem holds_eq_of_calls {c : Clause} {v : Value} {depth : Nat} (options : e'.options = e.options)
    (same : ∀ id, c.reference? = some id → e'.registry.resolve? id = e.registry.resolve? id)
    (constraints : ∀ id, c = .satisfies id → e'.constraints.find? id = e.constraints.find? id)
    (calls : ∀ d w, Walk.Calls e.registry (.holds d w (depth + 1)) (.holds c v depth) →
      e'.holds d w (depth + 1) = e.holds d w (depth + 1)) :
    e'.holds c v depth = e.holds c v depth := by
  cases c with
  | typeIs type =>
      cases type with
      | primitive t => rw [holds, holds, options]
      | pattern id =>
          rw [holds_reference, holds_reference, options, same id rfl]
          refine if_congr Iff.rfl rfl (congrArg (Counted.tick >>= ·) (funext fun _ => ?_))
          split
          · rfl
          · next s known =>
              exact Counted.allTrue_congr fun d hd => calls d v (.holds ⟨id, s, rfl, known, hd⟩)
  | field name id =>
      cases v with
      | object fields =>
          rw [holds_field, holds_field, options, same id rfl]
          refine if_congr Iff.rfl rfl (congrArg (Counted.tick >>= ·) (funext fun _ => ?_))
          split
          · rfl
          · next s known =>
              split
              · next w found =>
                  refine Counted.allTrue_congr fun d hd => calls d w ?_
                  exact .holds_field ⟨id, s, rfl, known, hd⟩ found
              · rfl
      | _ => rw [holds, holds, options] <;> simp
  | satisfies id => rw [holds, holds, options, satisfies, satisfies, constraints id rfl]
  | kindOf kind => rw [holds, holds]
  | changesWith names => rw [holds, holds]
  | _ => rw [holds, holds, options]

/-- What a clause asks depends on the answers of the clauses behind it only. -/
theorem ask_congr {c : Clause} {v : Value} {inner inner' : Clause → Value → Counted Bool}
    (same : ∀ d, e.registry.Behind c d → ∀ w, inner d w = inner' d w) :
    e.ask inner c v = e.ask inner' c v := by
  cases c with
  | typeIs type =>
      cases type with
      | primitive t => rfl
      | pattern id =>
          rw [ask, ask]
          split
          · rfl
          · next s known =>
              refine Counted.allTrue_congr fun d hd => ?_
              exact same d ⟨id, s, rfl, known, hd⟩ v
  | field name id =>
      cases v with
      | object fields =>
          rw [ask, ask]
          split
          · rfl
          · next s known =>
              split
              · next w found =>
                  refine Counted.allTrue_congr fun d hd => ?_
                  exact same d ⟨id, s, rfl, known, hd⟩ w
              · rfl
      | null | bool | number | string | array | undefined => rfl
  | length | value | required | satisfies | kindOf | changesWith => rfl

theorem failures_congr {clauses : List Clause} {v : Value}
    (same : ∀ clause ∈ clauses, e'.holds clause v 0 = e.holds clause v 0) :
    e'.failures v clauses = e.failures v clauses := by
  induction clauses with
  | nil => rfl
  | cons clause rest ih =>
      obtain ⟨here, later⟩ := List.forall_mem_cons.1 same
      simp only [failures, here, ih later]

/-- An answer comes from what is looked up on the spot and the answers to the calls. -/
theorem answer_congr {w : Walk} (agrees : e.Agrees e' w)
    (calls : ∀ w', Walk.Calls e.registry w' w → e'.answer w' = e.answer w') :
    e'.answer w = e.answer w := by
  have same := agrees.references
  cases w with
  | kinds c =>
      exact Registry.kindPaths_eq_of_calls (same c List.mem_cons_self) fun d h => calls _ (.kinds h)
  | carriesKind c =>
      exact Registry.carriesKind_eq_of_calls (same c List.mem_cons_self)
        fun d h => calls _ (.carriesKind h)
  | primitive c =>
      exact Registry.primitiveOf?_eq_of_calls (same c List.mem_cons_self)
        fun d h => calls _ (.primitive h)
  | implies a b =>
      exact Registry.implies_eq_of_calls same (fun _ _ h h' => calls _ (.implies_both h h'))
        fun _ h => calls _ (.implies_one h)
  | contradiction s =>
      exact Registry.contradiction?_eq_of_calls same
        (fun _ ha _ hb _ _ _ _ hp hq ht hu => calls _ (.contradiction ha hb hp hq ht hu))
        (fun _ h => calls _ (.primitive_of h)) fun _ h => calls _ (.kinds_of h)
  | holds c v depth =>
      exact holds_eq_of_calls agrees.options (same c List.mem_cons_self)
        (agrees.constraints c List.mem_cons_self) fun _ _ h => calls _ h

/-- Where two evaluators agree on a question and on all that it leads to, they answer alike. -/
theorem answer_eq_of_agrees {Asked : Walk → Prop}
    (closed : ∀ {w w'}, Asked w → Walk.Calls e.registry w' w → Asked w')
    (agrees : ∀ w, Asked w → e.Agrees e' w) {w : Walk} (asked : Asked w) :
    e'.answer w = e.answer w := by
  induction w using (Walk.wellFounded_calls e.registry).induction with
  | _ w ih => exact answer_congr (agrees w asked) fun w' h => ih w' h (closed asked h)

end Evaluator

end ProvenShapes
