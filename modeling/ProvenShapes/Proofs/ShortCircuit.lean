/-
**Stopping at the first failure.**

Validation goes through clauses in one of two modes.  It may stop at the first clause that does not
hold, or it may go on and count all clauses that do not.  An error of a clause ends both.  So the modes
differ only in what they see of the clauses behind the first failure: how many of them fail, and
whether one of them ends in an error.  Four ways to end are all there are, and each of them says what
both modes answer.  Tags are looked for in the first mode, whatever the options say.

Main definitions:

* `ComesTo` — a member of a list, with a condition on all members before it;
* `Evaluator.Decides` — evaluating a clause gives a truth value, and no error;
* `Evaluator.stopping`, `Catalog.stopping` — with validation that stops at the first failure, or
  goes on;
* `Evaluator.Ends` — **the four ways in which validation ends, with the answers of both modes**;
* `Catalog.judge` — the verdict of a mode.

Main results:

* `Counted.result_firstFalse?_of_comesTo`, `Evaluator.result_failures_of_comesTo`,
  `Evaluator.result_failures_of_evaluated` — what the loops answer;
* `Evaluator.ends` — there is no fifth way;
* `Catalog.validation_modes_agree` — how the modes agree with each other and with tags.
-/

import ProvenShapes.Proofs.Literals
import ProvenShapes.Proofs.Nesting

set_option autoImplicit false

namespace ProvenShapes

/-! ### The first member that is different -/

/-- The list has a member, all before it satisfy a condition, and `after` is what follows it. -/
def ComesTo {α : Type} (P : α → Prop) (l : List α) (a : α) (after : List α) : Prop :=
  ∃ before, l = before ++ a :: after ∧ ∀ b ∈ before, P b

theorem ComesTo.behind {α : Type} {P : α → Prop} {before after later : List α} {a b : α}
    (next : ComesTo P after b later) (passed : ∀ c ∈ before, P c) (passes : P a) :
    ComesTo P (before ++ a :: after) b later := by
  obtain ⟨between, rfl, passed'⟩ := next
  refine ⟨before ++ a :: between, by simp, ?_⟩
  exact List.forall_mem_append.2 ⟨passed, List.forall_mem_cons.2 ⟨passes, passed'⟩⟩

/-- All members of a list satisfy a condition, or there is a first one that does not. -/
theorem forall_or_comesTo {α : Type} (P : α → Prop) (l : List α) :
    (∀ a ∈ l, P a) ∨ ∃ a after, ComesTo P l a after ∧ ¬P a := by
  induction l with
  | nil => exact .inl (by simp)
  | cons b rest ih =>
      by_cases passes : P b
      · rcases ih with all | ⟨a, after, ⟨before, rfl, passed⟩, fails⟩
        · exact .inl (List.forall_mem_cons.2 ⟨passes, all⟩)
        · have passed : ∀ c ∈ b :: before, P c := List.forall_mem_cons.2 ⟨passes, passed⟩
          exact .inr ⟨a, after, ⟨b :: before, rfl, passed⟩, fails⟩
      · exact .inr ⟨b, rest, ⟨[], rfl, by simp⟩, passes⟩

/-! ### What the loops answer -/

/-- The search for a member that is false ends at the first one that is not true, with its error if it
has one. -/
theorem Counted.result_firstFalse?_of_comesTo {α : Type} {f : α → Counted Bool} {l after : List α}
    {a : α} (first : ComesTo (fun b => (f b).result = .ok true) l a after)
    (fails : (f a).result ≠ .ok true) :
    (firstFalse? f l).result = (f a).result.map fun _ => some a := by
  obtain ⟨before, rfl, passed⟩ := first
  induction before with
  | nil =>
      rw [List.nil_append, firstFalse?, result_bind]
      cases evaluated : (f a).result with
      | error err => rfl
      | ok verdict =>
          cases verdict with
          | true => exact absurd evaluated fails
          | false => rfl
  | cons b before ih =>
      obtain ⟨holds, later⟩ := List.forall_mem_cons.1 passed
      rw [List.cons_append, firstFalse?, result_bind, holds]
      exact ih later

namespace Evaluator

variable {e : Evaluator} {v : Value} {clauses after : List Clause} {c d : Clause}

/-- Evaluating the clause gives a truth value. -/
def Decides (e : Evaluator) (v : Value) (c : Clause) : Prop :=
  ∃ verdict, (e.holds c v 0).result = .ok verdict

theorem Holds.decides (h : e.Holds c v 0) : e.Decides v c := ⟨true, h⟩

/-- Counting failures ends with the first error. -/
theorem result_failures_of_comesTo {err : Error}
    (first : ComesTo (e.Decides v) clauses c after)
    (fails : (e.holds c v 0).result = .error err) : (e.failures v clauses).result = .error err := by
  obtain ⟨before, rfl, passed⟩ := first
  induction before with
  | nil =>
      rw [List.nil_append, failures, Counted.result_bind, fails]
      rfl
  | cons d before ih =>
      obtain ⟨⟨verdict, evaluated⟩, later⟩ := List.forall_mem_cons.1 passed
      rw [List.cons_append, failures, Counted.result_bind, evaluated]
      cases verdict with
      | true => exact ih later
      | false => simp [Except.bind, Except.map, ih later]

/-- Without an error the failures are the clauses that are refuted. -/
theorem result_failures_of_evaluated (evaluated : ∀ d ∈ clauses, e.Decides v d) :
    (e.failures v clauses).result = .ok (clauses.filter (e.refutes v)) := by
  induction clauses with
  | nil => rfl
  | cons d rest ih =>
      obtain ⟨⟨verdict, first⟩, later⟩ := List.forall_mem_cons.1 evaluated
      rw [failures, Counted.result_bind, first]
      cases verdict with
      | true =>
          have kept : e.refutes v d = false := Holds.refutes_eq_false first
          rw [List.filter_cons_of_neg (by simp [kept])]
          exact ih later
      | false =>
          rw [List.filter_cons_of_pos (refutes_eq_true_iff.2 first)]
          simp [Except.bind, Except.map, ih later]

/-! ### The two modes -/

/-- The evaluator that stops a validation at the first failure, or goes on. -/
def stopping (e : Evaluator) (stops : Bool) : Evaluator :=
  e.withOptions { e.options with shortCircuit := stops }

theorem holds_stopping (stops : Bool) (depth : Nat) :
    (e.stopping stops).holds c v depth = e.holds c v depth :=
  holds_withOptions rfl

theorem holds_stopping_iff (stops : Bool) {depth : Nat} :
    (e.stopping stops).Holds c v depth ↔ e.Holds c v depth := by
  rw [Holds, Holds, holds_stopping]

/-- Validation that stops looks for the first failure. -/
theorem result_validate_stopping :
    ((e.stopping true).validate clauses v).result =
      (e.firstFailure clauses v).result.bind fun found => report v found.toList := by
  have search : (e.stopping true).firstFailure clauses v = e.firstFailure clauses v :=
    Counted.firstFalse?_congr fun d _ => holds_stopping true 0
  have stops : (e.stopping true).options.shortCircuit = true := rfl
  rw [result_validate, found, if_pos stops, Counted.result_map, search]
  cases (e.firstFailure clauses v).result <;> rfl

/-- Validation that goes on counts the failures. -/
theorem result_validate_going_on :
    ((e.stopping false).validate clauses v).result =
      (e.failures v clauses).result.bind (report v) := by
  have counted : (e.stopping false).failures v clauses = e.failures v clauses :=
    failures_congr fun d _ => holds_stopping false 0
  have goesOn : ¬(e.stopping false).options.shortCircuit = true := Bool.false_ne_true
  rw [result_validate, found, if_neg goesOn, counted]

/-- How validation ends if it stops at the first failure, and if it goes on. -/
inductive Ends (e : Evaluator) (v : Value) (clauses : List Clause) :
    Except Error Unit → Except Error Unit → Prop
  /-- All clauses hold. -/
  | valid (all : ∀ c ∈ clauses, e.Holds c v 0) : Ends e v clauses (.ok ()) (.ok ())
  /-- The first clause that does not hold ends in an error. -/
  | fault {c : Clause} {after : List Clause} {err : Error}
      (first : ComesTo (fun d => e.Holds d v 0) clauses c after)
      (fails : (e.holds c v 0).result = .error err) : Ends e v clauses (.error err) (.error err)
  /-- The first clause that does not hold is false, and no later one ends in an error. -/
  | counted {c : Clause} {after : List Clause}
      (first : ComesTo (fun d => e.Holds d v 0) clauses c after)
      (refuted : (e.holds c v 0).result = .ok false)
      (evaluated : ∀ d ∈ after, e.Decides v d) :
      Ends e v clauses (.error (.invalidData c v 1))
        (.error (.invalidData c v (clauses.countP (e.refutes v))))
  /-- The first clause that does not hold is false, and a later one is the first with an error. -/
  | cutOff {c d : Clause} {after later : List Clause} {err : Error}
      (first : ComesTo (fun d => e.Holds d v 0) clauses c after)
      (refuted : (e.holds c v 0).result = .ok false)
      (next : ComesTo (e.Decides v) after d later)
      (fails : (e.holds d v 0).result = .error err) :
      Ends e v clauses (.error (.invalidData c v 1)) (.error err)

/-- The failures are the first one and the clauses behind it that are refuted. -/
theorem filter_refutes {before : List Clause} (hold : ∀ d ∈ before, e.Holds d v 0)
    (refuted : (e.holds c v 0).result = .ok false) :
    (before ++ c :: after).filter (e.refutes v) = c :: after.filter (e.refutes v) := by
  have none : before.filter (e.refutes v) = [] := by
    refine List.filter_eq_nil_iff.2 fun d mem => ?_
    simp [(hold d mem).refutes_eq_false]
  rw [List.filter_append, none, List.nil_append,
    List.filter_cons_of_pos (refutes_eq_true_iff.2 refuted)]

/-- **Validation ends in one of four ways.** -/
theorem ends (e : Evaluator) (v : Value) (clauses : List Clause) :
    e.Ends v clauses ((e.stopping true).validate clauses v).result
      ((e.stopping false).validate clauses v).result := by
  rw [result_validate_stopping, result_validate_going_on]
  rcases forall_or_comesTo (fun c => e.Holds c v 0) clauses with all | ⟨c, after, first, fails⟩
  · have search : (e.firstFailure clauses v).result = .ok none := Counted.result_firstFalse?.2 all
    rw [search, result_failures.2 all]
    exact .valid all
  have search : (e.firstFailure clauses v).result = (e.holds c v 0).result.map fun _ => some c :=
    Counted.result_firstFalse?_of_comesTo first fails
  rw [search]
  obtain ⟨before, rfl, hold⟩ := id first
  have decided : ∀ d ∈ before, e.Decides v d := fun d mem => (hold d mem).decides
  cases evaluated : (e.holds c v 0).result with
  | error err =>
      rw [result_failures_of_comesTo ⟨before, rfl, decided⟩ evaluated]
      exact .fault first evaluated
  | ok verdict =>
      cases verdict with
      | true => exact absurd evaluated fails
      | false =>
          -- what lies behind the first failure is seen by the second mode only
          have here : e.Decides v c := ⟨false, evaluated⟩
          rcases forall_or_comesTo (e.Decides v) after with all | ⟨d, later, next, undecided⟩
          · have counted := Ends.counted first evaluated all
            rw [List.countP_eq_length_filter, filter_refutes hold evaluated] at counted
            rw [result_failures_of_evaluated, filter_refutes hold evaluated]
            · exact counted
            · exact List.forall_mem_append.2
                ⟨decided, List.forall_mem_cons.2 ⟨here, all⟩⟩
          · cases broken : (e.holds d v 0).result with
            | ok verdict => exact absurd ⟨verdict, broken⟩ undecided
            | error err =>
                rw [result_failures_of_comesTo (next.behind decided here) broken]
                exact .cutOff first evaluated next broken

/-! ### What the modes have in common -/

section Ends

variable {on off : Except Error Unit}

theorem holds_ne_invalidData {w : Value} {n : Nat} :
    (e.holds c v 0).result ≠ .error (.invalidData d w n) := by
  intro fails
  exact Error.not_ofEvaluation_invalidData (e.failsOnly_holds c v 0 _ fails)

/-- Of all failures that are counted the first one is reported. -/
theorem Ends.stopped_of_counted {w : Value} {k : Nat} (h : e.Ends v clauses on off)
    (failed : off = .error (.invalidData d w k)) :
    on = .error (.invalidData d w 1) ∧ w = v ∧ k = clauses.countP (e.refutes v) := by
  cases h with
  | valid all => simp at failed
  | fault first fails | cutOff first refuted next fails =>
      obtain rfl := Except.error.inj failed
      exact absurd fails holds_ne_invalidData
  | counted first refuted evaluated =>
      obtain ⟨rfl, rfl, rfl⟩ : _ = d ∧ v = w ∧ _ = k := by simpa using failed
      exact ⟨rfl, rfl, rfl⟩

/-- The first failure is reported, and stays so in the other mode unless a clause behind it ends in an
error. -/
theorem Ends.counted_of_stopped {w : Value} {n : Nat} (h : e.Ends v clauses on off)
    (failed : on = .error (.invalidData d w n)) :
    w = v ∧ n = 1 ∧ ∃ before after, clauses = before ++ d :: after ∧
      (∀ f ∈ before, e.Holds f v 0) ∧ e.refutes v d = true ∧
      ((∃ k, off = .error (.invalidData d v k)) ∨
        ∃ f ∈ after, ∃ err, (e.holds f v 0).result = .error err ∧ off = .error err) := by
  cases h with
  | valid all => simp at failed
  | fault first fails =>
      obtain rfl := Except.error.inj failed
      exact absurd fails holds_ne_invalidData
  | counted first refuted evaluated =>
      obtain ⟨rfl, rfl, rfl⟩ : _ = d ∧ v = w ∧ 1 = n := by simpa using failed
      obtain ⟨before, split, hold⟩ := first
      refine ⟨rfl, rfl, before, _, split, hold, refutes_eq_true_iff.2 refuted, ?_⟩
      exact .inl ⟨_, rfl⟩
  | cutOff first refuted next fails =>
      obtain ⟨rfl, rfl, rfl⟩ : _ = d ∧ v = w ∧ 1 = n := by simpa using failed
      obtain ⟨before, split, hold⟩ := first
      obtain ⟨evaluated, rfl, -⟩ := next
      refine ⟨rfl, rfl, before, _, split, hold, refutes_eq_true_iff.2 refuted, ?_⟩
      exact .inr ⟨_, by simp, _, fails, rfl⟩

/-- An error that stops the one mode stops the other. -/
theorem Ends.same_fault {err : Error} (h : e.Ends v clauses on off) (fault : err.OfEvaluation)
    (failed : on = .error err) : off = .error err := by
  cases h with
  | valid all => simp at failed
  | fault first fails => exact failed
  | counted first refuted evaluated | cutOff first refuted next fails =>
      obtain rfl := Except.error.inj failed
      exact absurd fault Error.not_ofEvaluation_invalidData

end Ends

end Evaluator

/-! ### Tags -/

/-- The catalog whose validation stops at the first failure, or goes on. -/
def Catalog.stopping (c : Catalog) (stops : Bool) : Catalog :=
  { c with options := { c.options with shortCircuit := stops } }

theorem Tag.failingClause_stopping {e : Evaluator} {v : Value} (t : Tag) (stops : Bool) :
    t.failingClause (e.stopping stops) v = t.failingClause e v := by
  unfold failingClause
  have registry : (e.stopping stops).registry = e.registry := rfl
  rw [registry]
  split
  · exact Counted.firstFalse?_congr fun d _ => Evaluator.holds_stopping stops 0
  · rfl

theorem Tag.failsOnly_failingClause (t : Tag) (e : Evaluator) (v : Value) :
    FailsOnly Error.OfEvaluation (t.failingClause e v).result := by
  unfold failingClause
  split
  · exact Counted.failsOnly_firstFalse? fun d _ => e.failsOnly_holds d v 0
  · next unresolved =>
      unfold Registry.resolve at unresolved
      split at unresolved
      · simp at unresolved
      · rw [← Except.error.inj unresolved]
        exact failsOnly_error (.pattern _)

namespace Catalog

variable {c : Catalog} {v : Value} {tag : String} {t : Tag}

theorem evaluator_stopping (stops : Bool) :
    (c.stopping stops).evaluator = c.evaluator.stopping stops := rfl

theorem id_of_get (known : c.tags.get tag = .ok t) : t.id = tag := by
  unfold Tags.get at known
  split at known
  · next found =>
      obtain rfl := Except.ok.inj known
      simpa using List.find?_some found
  · simp at known

/-- Of a tag it is known which clause of its pattern fails. -/
theorem hasTag_eq (known : c.tags.get tag = .ok t) (stops : Bool) :
    (c.stopping stops).hasTag v tag =
      (t.failingClause c.evaluator v).result.map Option.isNone := by
  have known : (c.stopping stops).tags.get tag = .ok t := known
  rw [hasTag, known, evaluator_stopping]
  show (Except.bind (t.failingClause (c.evaluator.stopping stops) v).result fun found =>
    Except.ok found.isNone) = _
  rw [Tag.failingClause_stopping]
  rfl

theorem requireTag_eq (known : c.tags.get tag = .ok t) (stops : Bool) :
    (c.stopping stops).requireTag v tag =
      (t.failingClause c.evaluator v).result.bind fun
        | none => .ok ()
        | some d => .error (.missingTag tag d) := by
  have given : (c.stopping stops).tags.get tag = .ok t := known
  rw [requireTag, given, evaluator_stopping]
  show (t.require (c.evaluator.stopping stops) v).result = _
  rw [Tag.require, Counted.result_bind, Tag.failingClause_stopping, id_of_get known]
  refine congrArg _ (funext fun found => ?_)
  cases found <;> rfl

/-- Validation that stops at the first failure looks for the clause of a tag that fails. -/
theorem validate_stopping_eq (t : Tag) :
    (c.stopping true).validate t.pattern v =
      (t.failingClause c.evaluator v).result.bind fun found => Evaluator.report v found.toList := by
  have registry : (c.stopping true).registry = c.registry := rfl
  have evaluated : c.evaluator.registry = c.registry := rfl
  rw [validate, Tag.failingClause, registry, evaluated, evaluator_stopping]
  cases c.registry.resolve t.pattern with
  | error err => rfl
  | ok s => exact Evaluator.result_validate_stopping

theorem validate_stopping_eq_ok_iff (stops : Bool) {pattern : PatternId} :
    (c.stopping stops).validate pattern v = .ok () ↔ c.validate pattern v = .ok () := by
  have registry : (c.stopping stops).registry = c.registry := rfl
  simp only [validate_eq_ok_iff, evaluator_stopping, Evaluator.holds_stopping_iff, registry]

theorem hasTag_eq_ok_true_iff (known : c.tags.get tag = .ok t) (stops : Bool) :
    (c.stopping stops).hasTag v tag = .ok true ↔ c.validate t.pattern v = .ok () := by
  rw [hasTag_eq known, ← validate_stopping_eq_ok_iff true, validate_stopping_eq]
  cases (t.failingClause c.evaluator v).result with
  | error err => simp [Except.map, Except.bind]
  | ok found => cases found <;> simp [Except.map, Except.bind, Evaluator.report]

theorem requireTag_eq_missingTag_iff (known : c.tags.get tag = .ok t) (stops : Bool) {id : String}
    {d : Clause} :
    (c.stopping stops).requireTag v tag = .error (.missingTag id d) ↔
      id = tag ∧ ∃ w n, (c.stopping true).validate t.pattern v = .error (.invalidData d w n) := by
  rw [requireTag_eq known, validate_stopping_eq]
  cases failing : (t.failingClause c.evaluator v).result with
  | error err =>
      -- an error of evaluation is neither of the two
      have fault := t.failsOnly_failingClause c.evaluator v err failing
      cases fault <;> simp [Except.bind]
  | ok found =>
      cases found with
      | none => simp [Except.bind, Evaluator.report]
      | some f => simp [Except.bind, Evaluator.report, eq_comm]

/-- The verdict on a value by clauses, in one of the modes. -/
def judge (c : Catalog) (stops : Bool) (clauses : List Clause) (v : Value) : Except Error Unit :=
  ((c.stopping stops).evaluator.validate clauses v).result

/-- In both modes clauses are found to be satisfied when all of them hold. -/
theorem judge_eq_ok_iff (stops : Bool) {clauses : List Clause} :
    c.judge stops clauses v = .ok () ↔ ∀ d ∈ clauses, c.evaluator.Holds d v 0 := by
  simp only [judge, evaluator_stopping, Evaluator.validate_eq_ok_iff, Evaluator.holds_stopping_iff]

/-- **Both modes of validation and the checks of tags agree.**  Validation succeeds in both modes or in
none, and does so when all clauses hold.  Counting fails with the clause that stopping fails with, and
counts the clauses that are false.  Stopping fails with the first clause that is false, and counting
with the same one, unless a clause behind it ends in an error, and then counting ends in such an error.
An error that ends the first mode ends the other.  And whatever the mode, a value has a tag just when it
is valid for the pattern, and a tag is missing for the clause that validation stops at. -/
theorem validation_modes_agree (c : Catalog) (v : Value) :
    (∀ clauses : List Clause,
      (c.judge true clauses v = .ok () ↔ c.judge false clauses v = .ok ()) ∧
      (c.judge true clauses v = .ok () ↔ ∀ d ∈ clauses, c.evaluator.Holds d v 0) ∧
      (∀ d w k, c.judge false clauses v = .error (.invalidData d w k) →
        c.judge true clauses v = .error (.invalidData d w 1) ∧ w = v ∧
          k = clauses.countP (c.evaluator.refutes v)) ∧
      (∀ d w n, c.judge true clauses v = .error (.invalidData d w n) →
        w = v ∧ n = 1 ∧ ∃ before after, clauses = before ++ d :: after ∧
          (∀ f ∈ before, c.evaluator.Holds f v 0) ∧ c.evaluator.refutes v d = true ∧
          ((∃ k, c.judge false clauses v = .error (.invalidData d v k)) ∨
            ∃ f ∈ after, ∃ err, (c.evaluator.holds f v 0).result = .error err ∧
              c.judge false clauses v = .error err)) ∧
      (∀ err : Error, err.OfEvaluation → c.judge true clauses v = .error err →
        c.judge false clauses v = .error err)) ∧
    (∀ tag t, c.tags.get tag = .ok t →
      (∀ stops stops', (c.stopping stops).hasTag v tag = .ok true ↔
        (c.stopping stops').validate t.pattern v = .ok ()) ∧
      (∀ stops id d, (c.stopping stops).requireTag v tag = .error (.missingTag id d) ↔
        id = tag ∧
          ∃ w n, (c.stopping true).validate t.pattern v = .error (.invalidData d w n))) := by
  constructor
  · intro clauses
    have ended : c.evaluator.Ends v clauses (c.judge true clauses v) (c.judge false clauses v) :=
      c.evaluator.ends v clauses
    refine ⟨?_, judge_eq_ok_iff true, ?_, ?_, ?_⟩
    · rw [judge_eq_ok_iff, judge_eq_ok_iff]
    · intro d w k failed
      exact ended.stopped_of_counted failed
    · intro d w n failed
      exact ended.counted_of_stopped failed
    · intro err fault failed
      exact ended.same_fault fault failed
  · intro tag t known
    constructor
    · intro stops stops'
      rw [hasTag_eq_ok_true_iff known, validate_stopping_eq_ok_iff]
    · intro stops id d
      exact requireTag_eq_missingTag_iff known stops

/-- Rations are small and even numbers.  There is no scale to weigh them with. -/
def rations : Catalog :=
  let even : Value → Except Fault Bool
    | .number (.int n) => .ok (n % 2 == 0)
    | _ => .ok false
  let ration : ClauseSet :=
    .ofList [.typeIs (.primitive .number), .value .le (.int 5), .satisfies "even"]
  { empty with
    registry := Registry.empty.push (some "Ration") ration (by decide)
    constraints :=
      [.predicate "even" .number even,
        .predicate "weighed" .number fun _ => .error (.raised "no scale")]
    tags := [⟨"ration", ⟨0⟩⟩] }

/-- Seven is no ration: it is neither small nor even.  Counting finds both, stopping only the first of
them, and the tag is missing for it.  Where seven is also to be weighed, it depends on the place of that
clause whether stopping sees its error; counting always does. -/
theorem validation_modes_agree_rations :
    let seven := Value.number (.int 7)
    let small := Clause.value .le (.int 5)
    let weighed := Clause.satisfies "weighed"
    let fault := Error.constraintFault "weighed" "no scale"
    (rations.judge false [small, .satisfies "even"] seven = .error (.invalidData small seven 2) ∧
      rations.judge true [small, .satisfies "even"] seven = .error (.invalidData small seven 1)) ∧
    (rations.judge true [small, weighed] seven = .error (.invalidData small seven 1) ∧
      rations.judge false [small, weighed] seven = .error fault ∧
      ∃ before after, [small, weighed] = before ++ small :: after ∧
        (∀ f ∈ before, rations.evaluator.Holds f seven 0) ∧
        rations.evaluator.refutes seven small = true ∧
        ((∃ k, rations.judge false [small, weighed] seven = .error (.invalidData small seven k)) ∨
          ∃ f ∈ after, ∃ err, (rations.evaluator.holds f seven 0).result = .error err ∧
            rations.judge false [small, weighed] seven = .error err)) ∧
    (rations.judge true [weighed, small] seven = .error fault ∧
      rations.judge false [weighed, small] seven = .error fault) ∧
    rations.tags.get "ration" = .ok ⟨"ration", ⟨0⟩⟩ ∧
    (∀ stops, (rations.stopping stops).hasTag seven "ration" ≠ .ok true) ∧
    ∀ stops, (rations.stopping stops).requireTag seven "ration" =
      .error (.missingTag "ration" small) := by
  obtain ⟨modes, tags⟩ := validation_modes_agree rations (.number (.int 7))
  have tagged : rations.tags.get "ration" = .ok ⟨"ration", ⟨0⟩⟩ := by cbv
  obtain ⟨has, require⟩ := tags "ration" _ tagged
  have counted : rations.judge false [.value .le (.int 5), .satisfies "even"] (.number (.int 7)) =
      .error (.invalidData (.value .le (.int 5)) (.number (.int 7)) 2) := by cbv
  have stopped : rations.judge true [.value .le (.int 5), .satisfies "weighed"] (.number (.int 7)) =
      .error (.invalidData (.value .le (.int 5)) (.number (.int 7)) 1) := by cbv
  have cutOff : rations.judge false [.value .le (.int 5), .satisfies "weighed"] (.number (.int 7)) =
      .error (.constraintFault "weighed" "no scale") := by cbv
  have faulty : rations.judge true [.satisfies "weighed", .value .le (.int 5)] (.number (.int 7)) =
      .error (.constraintFault "weighed" "no scale") := by cbv
  have invalid : (rations.stopping true).validate ⟨0⟩ (.number (.int 7)) =
      .error (.invalidData (.value .le (.int 5)) (.number (.int 7)) 1) := by cbv
  refine ⟨⟨counted, ?_⟩, ⟨stopped, cutOff, ?_⟩, ⟨faulty, ?_⟩, tagged, ?_, ?_⟩
  · exact ((modes _).2.2.1 _ _ _ counted).1
  · exact ((modes _).2.2.2.1 _ _ _ stopped).2.2
  · exact (modes _).2.2.2.2 _ (.fault _ _) faulty
  · intro stops carried
    rw [has stops true, invalid] at carried
    simp at carried
  · intro stops
    exact (require stops _ _).2 ⟨rfl, _, 1, invalid⟩

end Catalog

end ProvenShapes
