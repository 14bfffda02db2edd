/-
**One identity for every value.**

A kind is an identity, and a value is meant to have one at most, at each of its field paths.  The
operations of a checker keep to this: what is assigned brings its own kinds along and no others, and a
conversion is planned only if the kinds required agree with those that are held.  A plan, however, may
be executed long after it was made.  One that narrows adds what it proves to what the binding has by
then, and the kinds are not compared again.  So two plans made before either was executed can give a
value two identities.

Here a session is a checker with the plans made so far, and its actions make plans and execute them in
any order.  A session keeps to one identity exactly when, each time that a plan narrows a binding, the
check of kinds that was made when it was planned would pass once more.

Main definitions:

* `Session`, `Session.Action`, `Session.run` — checkers with plans, and their runs;
* `Session.OneIdentity` — no binding has two kinds at one path;
* `Session.KindsRecheck` — the check of kinds would pass at the time of execution.

Main results:

* `Checker.oneKind_plan`, `Checker.perform_oneKind` — plans and operations keep to one kind;
* `Checker.execute_oneKind_iff` — when the execution of a plan does;
* `Session.one_identity_iff_kinds_recheck` — **a run keeps to one identity exactly when every
  narrowing passes the check of kinds again**;
* `Session.rival_plans_give_two_identities` — a run that does not.
-/

import ProvenShapes.Proofs.Kinds
import ProvenShapes.Proofs.Operations

set_option autoImplicit false

namespace ProvenShapes

/-! ### Bindings one by one -/

/-- What is proven of every binding has a property. -/
def Scopes.AllProven (P : ClauseSet → Prop) (s : Scopes) : Prop :=
  ∀ p b, s.at? p = some b → P b.provenance

/-- Where one binding is written, the property is kept just when the new one has it. -/
theorem Scopes.AllProven.write_iff {P : ClauseSet → Prop} {s s' : Scopes} {p : Place} {b : Binding}
    (all : s.AllProven P) (bindings : ∀ q, s'.at? q = if q = p then some b else s.at? q) :
    s'.AllProven P ↔ P b.provenance := by
  constructor
  · intro all'
    exact all' p b (by rw [bindings, if_pos rfl])
  · intro new q b' found
    rw [bindings] at found
    split at found
    · exact Option.some.inj found ▸ new
    · exact all q b' found

namespace Checker

variable {k : Checker} {name : String} {v : Value}

theorem proven_of_binding {P : ClauseSet → Prop} {b : Binding} (all : k.scopes.AllProven P)
    (bound : k.binding name = .ok b) : P b.provenance := by
  obtain ⟨q, -, found⟩ := binding_eq_ok_iff.1 bound
  exact all q b found

/-- What is written to a binding alone decides whether the property is kept. -/
theorem allProven_setProvenance_iff {P : ClauseSet → Prop} {b : Binding} {s : ClauseSet}
    (all : k.scopes.AllProven P) (bound : k.binding name = .ok b) :
    (k.setProvenance name b s).scopes.AllProven P ↔ P s := by
  obtain ⟨q, place, -⟩ := binding_eq_ok_iff.1 bound
  exact all.write_iff fun _ => at?_setProvenance place

/-! ### Operations -/

theorem not_pins_typeOnly {r : Registry} {t : Primitive} {path : List String} {kind : String} :
    ¬r.Pins (typeOnly t) path kind := by
  rintro ⟨c, mem, pinned⟩
  obtain rfl := List.mem_singleton.1 mem
  simp [Registry.kindPaths_type] at pinned

theorem not_pins_literal {required known : ClauseSet} {path : List String} {kind : String}
    (h : k.sourceProvenance (.literal v) required = .ok known) :
    ¬k.catalog.registry.Pins known path kind := by
  obtain ⟨proven, rfl, proves⟩ := exists_literalProofs h
  rintro ⟨c, mem, pinned⟩
  rcases List.mem_append.1 (ClauseSet.mem_ofList mem) with mem | mem
  · obtain ⟨t, -, rfl⟩ := List.mem_map.1 mem
    simp [Registry.kindPaths_type] at pinned
  · have none := (literalProves_eq_true_iff.1 (proves c mem)).2.1
    simp [Registry.carriesKind_of_mem_kindPaths pinned] at none

/-- What is known of a source has one kind at every path, if this is so for every binding. -/
theorem oneKind_sourceProvenance {source : Source} {required known : ClauseSet}
    (all : k.scopes.AllProven k.catalog.registry.OneKind)
    (h : k.sourceProvenance source required = .ok known) : k.catalog.registry.OneKind known := by
  cases source with
  | binding name =>
      obtain ⟨b, bound, rfl⟩ := provenance_eq_ok_iff.1 h
      exact proven_of_binding all bound
  | literal v => exact fun path k l pinned => absurd pinned (not_pins_literal h)
  | untyped t =>
      obtain rfl := Except.ok.inj h
      exact fun path k l pinned => absurd pinned not_pins_typeOnly

/-- What a plan proves has one kind at every path, if this is so for what was known. -/
theorem oneKind_plan {mode : Plan.Mode} {known required : ClauseSet} {p : Plan}
    (one : k.catalog.registry.OneKind known) (h : k.plan name mode known required = .ok p) :
    k.catalog.registry.OneKind p.proven := by
  obtain ⟨satisfiable, kinds, rfl⟩ := plan_eq_ok_iff.1 h
  have required_one := Registry.oneKind_of_contradiction?_eq_none satisfiable
  exact (checkKinds_eq_ok_iff one required_one).1 kinds

theorem oneKind_planFor {mode : Plan.Mode} {source : Source} {conversion : Conversion} {p : Plan}
    (all : k.scopes.AllProven k.catalog.registry.OneKind)
    (h : k.planFor name mode source conversion = .ok p) : k.catalog.registry.OneKind p.proven := by
  obtain ⟨required, known, -, source_known, planned⟩ := planFor_eq_ok_iff.1 h
  exact oneKind_plan (oneKind_sourceProvenance all source_known) planned

/-- An operation keeps one kind at every path of every binding. -/
theorem perform_oneKind (all : k.scopes.AllProven k.catalog.registry.OneKind) (op : Operation) :
    (k.perform op).1.scopes.AllProven k.catalog.registry.OneKind := by
  obtain ⟨e, -, same⟩ | ⟨-, change⟩ := k.perform_cases op
  · rwa [same]
  · generalize (k.perform op).1.scopes = scopes at change
    cases change with
    | declare =>
        refine (all.write_iff fun _ => Scopes.at?_declare).2 ?_
        exact fun path k l pinned => absurd pinned (by simp [Registry.Pins, ClauseSet.empty])
    | declareExternal =>
        refine (all.write_iff fun _ => Scopes.at?_declare).2 ?_
        exact fun path k l pinned => absurd pinned not_pins_typeOnly
    | assign bound declared source_known subsumes =>
        refine (allProven_setProvenance_iff all bound).2 ?_
        exact (oneKind_sourceProvenance all source_known).union_of_subsumes subsumes
    | convert planned bound valid =>
        rw [planConversion_eq] at planned
        exact (allProven_setProvenance_iff all bound).2 (oneKind_planFor all planned)
    | narrow planned bound valid =>
        refine (allProven_setProvenance_iff all bound).2 ?_
        have proven := oneKind_planFor all (planNarrowing_eq ▸ planned)
        obtain ⟨b', required, bound', -, made⟩ := planNarrowing_eq_ok_iff.1 planned
        obtain rfl := Except.ok.inj (bound.symm.trans bound')
        obtain ⟨-, -, rfl⟩ := plan_eq_ok_iff.1 made
        -- the plan was made with what the binding has, so it adds to it what it proves and no more
        refine (Registry.oneKind_union (proven_of_binding all bound) proven).2 ?_
        intro path k l hk hl
        exact proven path k l (Registry.pins_union.2 (.inl hk)) hl
    | requireTag => exact all
    | pushScope => exact fun p b found => all p b (by rwa [Scopes.at?_enter] at found)
    | popScope => exact fun p b found => all p b (Scopes.at?_of_leave found)

/-! ### Execution -/

/-- If the plan narrows a binding, the check of kinds that was made when it was planned passes with
what is proven of the binding now. -/
def KindsRecheck (k : Checker) (p : Plan) (v : Value) : Prop :=
  p.mode = .narrow → (k.catalog.evaluator.validate p.residual v).result = .ok () →
    ∀ b, k.binding p.binding = .ok b →
      checkKinds p.binding (k.catalog.registry.effectiveKinds b.provenance)
        (k.catalog.registry.effectiveKinds p.proven) = .ok ()

/-- Executing a plan keeps one kind at every path just when the check of kinds would pass again. -/
theorem execute_oneKind_iff {p : Plan} (all : k.scopes.AllProven k.catalog.registry.OneKind)
    (one : k.catalog.registry.OneKind p.proven) :
    (k.execute p v).1.scopes.AllProven k.catalog.registry.OneKind ↔ k.KindsRecheck p v := by
  obtain ⟨e, failed, same⟩ | ⟨b, outcome, -, bound, valid, scopes⟩ := k.execute_cases p v
  · rw [same]
    refine ⟨fun _ narrows valid b bound => ?_, fun _ => all⟩
    have verdict := execute_verdict (v := v) bound
    simp [failed, valid, Except.map] at verdict
  · -- the plan has one binding, so the check is about what is proven of that one
    have only_here : k.KindsRecheck p v ↔ (p.mode = .narrow →
        checkKinds p.binding (k.catalog.registry.effectiveKinds b.provenance)
          (k.catalog.registry.effectiveKinds p.proven) = .ok ()) := by
      constructor
      · exact fun recheck narrows => recheck narrows valid b bound
      · intro recheck narrows _ b' bound'
        exact Except.ok.inj (bound.symm.trans bound') ▸ recheck narrows
    rw [scopes, allProven_setProvenance_iff all bound, only_here]
    cases mode : p.mode with
    | assign => simpa [provenAfter, mode] using one
    | narrow =>
        rw [checkKinds_eq_ok_iff (proven_of_binding all bound) one]
        simp [provenAfter, mode]

end Checker

/-! ### Sessions -/

/-- A checker, and the plans that were made with it. -/
structure Session where
  checker : Checker
  plans : List Plan

/-- A call of the checker, which refers to a plan made before by its place among the plans. -/
abbrev Session.Action := Call Nat

namespace Session

/-- A session without bindings and without plans. -/
def start (c : Catalog) : Session := ⟨.start c, []⟩

/-- The session with one more plan, if there is one. -/
def keep (t : Session) : Except Error Plan → Session
  | .ok p => { t with plans := t.plans ++ [p] }
  | .error _ => t

/-- Carries out an action.  A plan stays there when it is executed. -/
def act (t : Session) : Action → Session
  | .operate op => { t with checker := (t.checker.perform op).1 }
  | .planConversion target source conversion =>
      t.keep (t.checker.planConversion target source conversion)
  | .planNarrowing name conversion => t.keep (t.checker.planNarrowing name conversion)
  | .execute index v =>
      match t.plans[index]? with
      | some p => { t with checker := (t.checker.execute p v).1 }
      | none => t

/-- The session that actions lead to. -/
def run (t : Session) (actions : List Action) : Session := actions.foldl act t

/-- No binding, in whichever scope, has two kinds at one path. -/
def OneIdentity (t : Session) : Prop :=
  ∀ p b, t.checker.scopes.at? p = some b →
    ∀ entry ∈ t.checker.catalog.registry.effectiveKinds b.provenance, entry.2.length ≤ 1

/-- The check of kinds would pass again for each plan that the action executes. -/
def KindsRecheck (t : Session) : Action → Prop
  | .execute index v => ∀ p, t.plans[index]? = some p → t.checker.KindsRecheck p v
  | _ => True

variable {t : Session} {a : Action}

theorem oneIdentity_iff :
    t.OneIdentity ↔ t.checker.scopes.AllProven t.checker.catalog.registry.OneKind := by
  simp only [OneIdentity, Scopes.AllProven, Registry.oneKind_iff_length_le]

theorem catalog_act : (t.act a).checker.catalog = t.checker.catalog := by
  cases a with
  | operate op => exact Checker.catalog_perform
  | planConversion target source conversion =>
      simp only [act, keep]
      split <;> rfl
  | planNarrowing name conversion =>
      simp only [act, keep]
      split <;> rfl
  | execute index v =>
      simp only [act]
      split
      · exact Checker.catalog_execute
      · rfl

/-- What every plan proves has one kind at every path. -/
def PlansOneKind (t : Session) : Prop :=
  ∀ p ∈ t.plans, t.checker.catalog.registry.OneKind p.proven

theorem PlansOneKind.keep {made : Except Error Plan} (plans : t.PlansOneKind)
    (one : ∀ p, made = .ok p → t.checker.catalog.registry.OneKind p.proven) :
    (t.keep made).PlansOneKind := by
  cases made with
  | error e => exact plans
  | ok p =>
      intro q mem
      rcases List.mem_append.1 mem with mem | mem
      · exact plans q mem
      · exact List.mem_singleton.1 mem ▸ one p rfl

theorem PlansOneKind.act (plans : t.PlansOneKind) (one : t.OneIdentity) (a : Action) :
    (t.act a).PlansOneKind := by
  have all := oneIdentity_iff.1 one
  cases a with
  | operate op =>
      intro p mem
      rw [catalog_act]
      exact plans p mem
  | planConversion target source conversion =>
      exact plans.keep fun p made => Checker.oneKind_planFor all (Checker.planConversion_eq ▸ made)
  | planNarrowing name conversion =>
      exact plans.keep fun p made => Checker.oneKind_planFor all (Checker.planNarrowing_eq ▸ made)
  | execute index v =>
      intro p mem
      rw [catalog_act]
      refine plans p ?_
      simp only [Session.act] at mem
      split at mem <;> exact mem

theorem checker_keep {made : Except Error Plan} : (t.keep made).checker = t.checker := by
  cases made <;> rfl

/-- One action keeps to one identity just when the check of kinds would pass again. -/
theorem oneIdentity_act_iff (one : t.OneIdentity) (plans : t.PlansOneKind) (a : Action) :
    (t.act a).OneIdentity ↔ t.KindsRecheck a := by
  have all := oneIdentity_iff.1 one
  rw [oneIdentity_iff, catalog_act]
  cases a with
  | operate op => exact ⟨fun _ => trivial, fun _ => Checker.perform_oneKind all op⟩
  | planConversion target source conversion =>
      rw [act, checker_keep]
      exact ⟨fun _ => trivial, fun _ => all⟩
  | planNarrowing name conversion =>
      rw [act, checker_keep]
      exact ⟨fun _ => trivial, fun _ => all⟩
  | execute index v =>
      rw [act, KindsRecheck]
      cases found : t.plans[index]? with
      | none => simpa using all
      | some p =>
          simp only [Option.some.injEq, forall_eq']
          exact Checker.execute_oneKind_iff all (plans p (List.mem_of_getElem? found))

/-- From a session with one identity, a run keeps to it just when every action does. -/
theorem oneIdentity_run_iff (one : t.OneIdentity) (plans : t.PlansOneKind) (actions : List Action) :
    (∀ before, before <+: actions → (t.run before).OneIdentity) ↔
      ∀ before a, before ++ [a] <+: actions → (t.run before).KindsRecheck a := by
  -- what the first action leads to is again a session with one identity, on either side
  induction actions generalizing t with
  | nil =>
      constructor
      · intro _ before a h
        simp [List.prefix_nil] at h
      · intro _ before h
        obtain rfl := List.prefix_nil.1 h
        exact one
  | cons first rest ih =>
      have step := oneIdentity_act_iff one plans first
      constructor
      · intro identities before a h
        cases before with
        | nil =>
            obtain rfl : a = first := (List.cons_prefix_cons.1 h).1
            exact step.1 (identities [a] h)
        | cons b before =>
            obtain ⟨rfl, tail⟩ := List.cons_prefix_cons.1 h
            have next : (t.act b).OneIdentity := identities [b] (by simp)
            refine (ih next (plans.act one b)).1 (fun longer hl => ?_) before a tail
            exact identities (b :: longer) (List.cons_prefix_cons.2 ⟨rfl, hl⟩)
      · intro rechecks before h
        cases before with
        | nil => exact one
        | cons b before =>
            obtain ⟨rfl, tail⟩ := List.cons_prefix_cons.1 h
            have next : (t.act b).OneIdentity := step.2 (rechecks [] b (by simp))
            refine (ih next (plans.act one b)).2 (fun longer a hl => ?_) before tail
            exact rechecks (b :: longer) a (List.cons_prefix_cons.2 ⟨rfl, hl⟩)

/-- **A run keeps to one identity exactly when every narrowing passes the check of kinds again**: all
sessions along a run from the start have at most one kind at each path of each binding just when, at
each execution of a plan that narrows a binding, the kinds that the plan proves agree with those that
are proven of the binding at that time. -/
theorem one_identity_iff_kinds_recheck (c : Catalog) (actions : List Action) :
    (∀ before, before <+: actions → ((start c).run before).OneIdentity) ↔
      ∀ before a, before ++ [a] <+: actions → ((start c).run before).KindsRecheck a := by
  have one : (start c).OneIdentity := by
    intro p b found
    simp [start, Checker.start] at found
  have plans : (start c).PlansOneKind := by simp [PlansOneKind, start]
  exact oneIdentity_run_iff one plans actions

/-- Two kinds, and a pattern that every value has. -/
def twoKinds : Catalog :=
  { Catalog.empty with
    kinds := ["citizen", "stranger"]
    registry := Registry.empty.push (some "Thing") (.ofList [.typeIs (.primitive .any)]) (by decide) }

/-- Two plans for one binding are made before either is executed. -/
def rivals : List Action :=
  [.operate (.declare "x" ⟨0⟩),
    .planNarrowing "x" (.constrainedWith [.kindOf "citizen"]),
    .planNarrowing "x" (.constrainedWith [.kindOf "stranger"]),
    .execute 0 .null,
    .execute 1 .null]

/-- Plans that were made independently of each other give a value two identities. -/
theorem rival_plans_give_two_identities : ¬((start twoKinds).run rivals).OneIdentity := by
  intro one
  have both := one ⟨0, "x"⟩ (Option.get _ (by decide +kernel)) (Option.some_get _).symm
    ([], ["citizen", "stranger"]) (by decide +kernel)
  simp at both

end Session

end ProvenShapes
