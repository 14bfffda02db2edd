/-
**Later declarations change nothing about earlier ones.**

A pattern means what it meant when it was registered, whatever is declared afterwards.  A question
about covered clauses asks about covered clauses only, and for these a catalog that has grown looks
up what it looked up before; so the answers are the same.  This carries over from clauses to sets and
patterns, and since every pattern was free of contradictions when it was registered, it stays so.

Main definitions:

* `Walk.Within` — a question is about covered clauses;
* `Catalog.Consistent` — no registered pattern has a contradiction;
* `Catalog.Preserves` — **a pattern means the same in both catalogs**.

Main results:

* `Catalog.Grows.answer_eq` — growth leaves the answers to questions about covered clauses alone;
* `Catalog.Adds.consistent` — an addition brings no contradiction into any pattern;
* `Catalog.later_declarations_keep_meanings` — what holds of patterns before some declarations holds
  after them.
-/

import ProvenShapes.Proofs.Closure
import ProvenShapes.Proofs.Walks

set_option autoImplicit false

namespace ProvenShapes

/-! ### Walks inside a catalog -/

/-- A question is about covered clauses. -/
def Walk.Within (c : Catalog) (w : Walk) : Prop := ∀ clause ∈ w.clauses, c.Covers clause

namespace Catalog

variable {c d : Catalog}

theorem Closed.covers_of_behind (closed : c.Closed) {outer inner : Clause}
    (h : c.registry.Behind outer inner) : c.Covers inner := by
  obtain ⟨id, s, -, known, mem⟩ := h
  exact closed.covered id s known inner mem

/-- Questions about covered clauses lead to questions about covered clauses. -/
theorem Closed.within_of_calls (closed : c.Closed) {w w' : Walk} (within : w.Within c)
    (h : Walk.Calls c.registry w' w) : w'.Within c := by
  have one : ∀ {clause : Clause}, c.Covers clause → ∀ d ∈ [clause], c.Covers d := by
    intro clause covered d mem
    exact List.mem_singleton.1 mem ▸ covered
  cases h with
  | kinds h => exact one (closed.covers_of_behind h)
  | carriesKind h => exact one (closed.covers_of_behind h)
  | primitive h => exact one (closed.covers_of_behind h)
  | implies_both h h' =>
      exact List.forall_mem_cons.2
        ⟨closed.covers_of_behind h, one (closed.covers_of_behind h')⟩
  | @implies_one a a' b h =>
      have wanted : c.Covers b := within b (List.mem_cons_of_mem a List.mem_cons_self)
      exact List.forall_mem_cons.2 ⟨closed.covers_of_behind h, one wanted⟩
  | contradiction ha hb hp hq ht hu =>
      intro clause mem
      rcases ClauseSet.mem_union mem with mem | mem
      · exact closed.covered _ _ ht clause mem
      · exact closed.covered _ _ hu clause mem
  | primitive_of h => exact one (within _ h)
  | kinds_of h => exact one (within _ h)
  | holds h => exact one (closed.covers_of_behind h)
  | holds_field h found => exact one (closed.covers_of_behind h)

/-- For a question about covered clauses a catalog that has grown looks up the same. -/
theorem Grows.agrees (grows : c.Grows d) {w : Walk} (within : w.Within c) (options : Options) :
    Evaluator.Agrees { c.evaluator with options } { d.evaluator with options } w where
  options := rfl
  references clause mem id ref := by
    obtain ⟨s, known⟩ := (within clause mem).exists_resolve? ref
    exact (grows.resolve? known).trans known.symm
  constraints clause mem id same := by
    subst same
    obtain ⟨constraint, found⟩ := Option.isSome_iff_exists.1 (within _ mem)
    exact (grows.constraint? found).trans found.symm

/-- Growth leaves the answers to questions about covered clauses alone. -/
theorem Grows.answer_eq (grows : c.Grows d) (closed : c.Closed) {w : Walk} (within : w.Within c)
    (options : Options) :
    ({ d.evaluator with options } : Evaluator).answer w =
      ({ c.evaluator with options } : Evaluator).answer w :=
  Evaluator.answer_eq_of_agrees (fun within calls => closed.within_of_calls within calls)
    (fun _ within => grows.agrees within options) within

end Catalog

/-! ### From clauses to sets -/

namespace Evaluator

variable {e e' : Evaluator} {clauses : List Clause} {v : Value}

theorem validate_congr (options : e'.options = e.options)
    (same : ∀ clause ∈ clauses, e'.holds clause v 0 = e.holds clause v 0) :
    e'.validate clauses v = e.validate clauses v := by
  have first : e'.firstFailure clauses v = e.firstFailure clauses v :=
    Counted.firstFalse?_congr same
  rw [validate_eq, validate_eq, found, found, options, first, failures_congr same]

end Evaluator

namespace Catalog

variable {c d : Catalog} {s t : ClauseSet}

section Sets

variable (grows : c.Grows d) (closed : c.Closed) (hs : ∀ clause ∈ s.toList, c.Covers clause)
include grows closed hs

theorem effectiveKinds_eq_of_grows :
    d.registry.effectiveKinds s = c.registry.effectiveKinds s := by
  have each : ∀ clause ∈ s.toList, d.registry.kindPaths clause = c.registry.kindPaths clause := by
    intro clause mem
    have within : (Walk.kinds clause).Within c := by
      simpa [Walk.Within, Walk.clauses] using hs clause mem
    exact grows.answer_eq closed within c.options
  unfold Registry.effectiveKinds
  rw [List.flatMap_congr each]

theorem subsumes_eq_of_grows (ht : ∀ clause ∈ t.toList, c.Covers clause) :
    d.registry.subsumes s t = c.registry.subsumes s t := by
  have each : ∀ a ∈ s.toList, ∀ b ∈ t.toList,
      d.registry.implies a b = c.registry.implies a b := by
    intro a ha b hb
    have within : (Walk.implies a b).Within c := by
      simpa [Walk.Within, Walk.clauses] using ⟨hs a ha, ht b hb⟩
    exact grows.answer_eq closed within c.options
  rw [Bool.eq_iff_iff, Registry.subsumes_iff_implies, Registry.subsumes_iff_implies]
  refine forall_congr' fun b => forall_congr' fun hb => imp_congr_right fun _ =>
    exists_congr fun a => and_congr_right fun ha => ?_
  rw [each a ha b hb]

theorem contradiction?_eq_of_grows :
    d.registry.contradiction? s = c.registry.contradiction? s :=
  grows.answer_eq closed (w := .contradiction s) hs c.options

theorem validate_eq_of_grows (options : Options) (v : Value) :
    ({ d.evaluator with options } : Evaluator).validate s.toList v =
      ({ c.evaluator with options } : Evaluator).validate s.toList v := by
  refine Evaluator.validate_congr rfl fun clause mem => ?_
  have within : (Walk.holds clause v 0).Within c := by
    simpa [Walk.Within, Walk.clauses] using hs clause mem
  exact grows.answer_eq closed within options

end Sets

/-! ### No contradiction comes in later -/

/-- No registered pattern has a contradiction. -/
def Consistent (c : Catalog) : Prop :=
  ∀ id s, c.registry.resolve? id = some s → c.registry.contradiction? s = none

/-- An addition brings no contradiction into any pattern, and none with the pattern it adds. -/
theorem Adds.consistent (h : c.Adds d) (closed : c.Closed) (consistent : c.Consistent) :
    d.Consistent := by
  intro id s known
  rcases h.resolve?_cases known with old | ⟨name, clauses, bases, new⟩
  · rw [contradiction?_eq_of_grows h.grows closed (closed.covered id s old)]
    exact consistent id s old
  · rw [contradiction?_eq_of_grows h.grows closed (covers_of_accepts closed new)]
    exact new.satisfiable

theorem Reaches.consistent (h : c.Reaches d) (closed : c.Closed) (consistent : c.Consistent) :
    d.Closed ∧ d.Consistent :=
  h.induction (Q := fun e => e.Closed ∧ e.Consistent) ⟨closed, consistent⟩ fun added both =>
    ⟨added.closed both.1, added.consistent both.1 both.2⟩

theorem consistent_empty : empty.Consistent := by
  intro id s known
  simp [empty, Registry.empty, Registry.resolve?, Registry.get?] at known

/-! ### Patterns keep their meaning -/

/-- A pattern of the first catalog, with the clauses given, means the same in the second. -/
structure Preserves (c d : Catalog) (id : PatternId) (s : ClauseSet) : Prop where
  resolve : d.registry.resolve id = c.registry.resolve id
  subsumedBy : ∀ other t, c.registry.resolve? other = some t →
    d.registry.subsumedBy id other = c.registry.subsumedBy id other
  interchangeable : ∀ other t, c.registry.resolve? other = some t →
    d.registry.interchangeable id other = c.registry.interchangeable id other
  effectiveKinds : d.registry.effectiveKinds s = c.registry.effectiveKinds s
  checkSatisfiable : ∀ label,
    d.registry.checkSatisfiable label s = c.registry.checkSatisfiable label s
  /-- Validation agrees in result, error and count. -/
  validate : ∀ options v, ({ d.evaluator with options } : Evaluator).validate s.toList v =
    ({ c.evaluator with options } : Evaluator).validate s.toList v
  /-- No contradiction is found. -/
  contradiction : d.registry.contradiction? s = none

theorem Grows.preserves (grows : c.Grows d) (closed : c.Closed) (consistent : c.Consistent)
    {id : PatternId} (known : c.registry.resolve? id = some s) : c.Preserves d id s := by
  have covered := closed.covered id s known
  have resolve : ∀ {other t}, c.registry.resolve? other = some t →
      c.registry.resolve other = .ok t ∧ d.registry.resolve other = .ok t := fun h =>
    ⟨Registry.resolve_of_resolve? h, Registry.resolve_of_resolve? (grows.resolve? h)⟩
  obtain ⟨here, there⟩ := resolve known
  have kinds := effectiveKinds_eq_of_grows grows closed covered
  have contradiction := contradiction?_eq_of_grows grows closed covered
  constructor
  case resolve => rw [here, there]
  case subsumedBy =>
    intro other t other_known
    obtain ⟨other_here, other_there⟩ := resolve other_known
    have same := subsumes_eq_of_grows grows closed covered (closed.covered other t other_known)
    rw [Registry.subsumedBy, Registry.subsumedBy, here, there, other_here, other_there]
    exact congrArg Except.ok same
  case interchangeable =>
    intro other t other_known
    obtain ⟨other_here, other_there⟩ := resolve other_known
    rw [Registry.interchangeable, Registry.interchangeable, here, there, other_here, other_there]
    exact congrArg (fun kinds : KindPaths => Except.ok (s == t && kinds.isEmpty)) kinds
  case effectiveKinds => exact kinds
  case checkSatisfiable =>
    intro label
    rw [Registry.checkSatisfiable, Registry.checkSatisfiable, contradiction]
  case validate => exact fun options v => validate_eq_of_grows grows closed covered options v
  case contradiction => exact contradiction.trans (consistent id s known)

/-- **Whatever is declared later, every pattern resolves, subsumes, pins kinds and validates values as
it did before, and none of them ever has a contradiction.** -/
theorem later_declarations_keep_meanings (before after : List Declaration) (id : PatternId)
    (s : ClauseSet) (known : (empty.applyAll before).registry.resolve? id = some s) :
    (empty.applyAll before).Preserves ((empty.applyAll before).applyAll after) id s := by
  obtain ⟨closed, consistent⟩ :=
    (reaches_applyAll empty before).consistent closed_empty consistent_empty
  exact (reaches_applyAll _ after).grows.preserves closed consistent known

/-- Texts, and short ones. -/
def texts : List Declaration :=
  [.pattern (some "Text") [.typeIs (.primitive .string)] [],
    .pattern (some "Short") [.typeIs (.pattern ⟨0⟩), .length .lt 5] []]

/-- A name that is taken, a pattern on top of another one, and a record with fields of both. -/
def moreTexts : List Declaration :=
  [.pattern (some "Text") [.typeIs (.primitive .integer)] [],
    .pattern (some "Initial") [.length .eq 1] [⟨1⟩],
    .composite "Author" [("name", ⟨0⟩), ("initial", ⟨2⟩)]]

theorem later_declarations_keep_meanings_texts :
    ((empty.applyAll texts).applyAll moreTexts).registry.size = 4 ∧
      ∃ s, (empty.applyAll texts).registry.resolve? ⟨1⟩ = some s ∧
        (empty.applyAll texts).Preserves ((empty.applyAll texts).applyAll moreTexts) ⟨1⟩ s := by
  have registered : ((empty.applyAll texts).registry.resolve? ⟨1⟩).isSome = true := by
    decide +kernel
  obtain ⟨s, known⟩ := Option.isSome_iff_exists.1 registered
  refine ⟨by decide +kernel, s, known, ?_⟩
  exact later_declarations_keep_meanings texts moreTexts ⟨1⟩ s known

end Catalog

end ProvenShapes
