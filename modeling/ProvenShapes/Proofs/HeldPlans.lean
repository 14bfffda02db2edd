/-
**Plans that are held.**

A plan leaves out the clauses that were implied by what was known of a value when it was made, and it
names its binding.  When it is executed later, the name may mean another binding with another declared
pattern, and the value may be another one, of which less is known.  Execution looks at neither.  Here
plans are kept with the state in which they were made, beside the values that bindings have, and it is
said exactly when an execution is right: what was known then holds of the value given now, and what is
recorded in the end implies what the binding declares.  Both are so if the value is one that the source
had when the plan was made, and the name still means a binding of the same declared pattern.

Main definitions:

* `HeldPlan` — a plan with the checker and the memory that it was made with;
* `World`, `World.Step`, `World.Run` — checkers with memories and held plans, and their runs;
* `World.Keeps` — an execution leaves a binding that proves its declared pattern, and of whose value
  all that is recorded holds;
* `World.Fresh` — what the plan takes for granted is so when it is executed;
* `World.Unmoved` — value and declared pattern are those that the plan was made for.

Main results:

* `World.keeps_iff_fresh`, `World.Unmoved.fresh` — one execution;
* `World.Valid.step` — an action that keeps to this keeps all that is recorded sound;
* `World.held_plans_keep_iff_fresh` — **all executions of a run are right exactly when each finds what
  its plan takes for granted**;
* `World.stale_plans_break_provenance` — a run in which they are not.
-/

import ProvenShapes.Proofs.Identity
import ProvenShapes.Proofs.Provenance

set_option autoImplicit false

namespace ProvenShapes

/-- A plan with the state that it was made in: the checker, the values that bindings had, and what was
known of the source and required of the target.  A narrowing has its own binding as its source. -/
structure HeldPlan where
  checker : Checker
  memory : Memory
  target : String
  source : Source
  conversion : Conversion
  mode : Plan.Mode
  required : ClauseSet
  known : ClauseSet
  plan : Plan
  required_eq : checker.required target conversion = .ok required
  known_eq : checker.sourceProvenance source required = .ok known
  made : checker.plan target mode known required = .ok plan
  own : mode = .narrow → source = .binding target

/-- A checker, the values of its bindings, and the plans that are held. -/
structure World where
  checker : Checker
  memory : Memory
  plans : List HeldPlan

namespace World

/-- The session of a world. -/
def session (w : World) : Session := ⟨w.checker, w.plans.map HeldPlan.plan⟩

/-- A world without bindings and without plans. -/
def start (c : Catalog) (m : Memory) : World := ⟨.start c, m, []⟩

/-- The worlds that an action leads to.  A plan is executed with the value that its source has at the
time, which for a narrowing is the value of the binding itself. -/
inductive Step (w : World) : Session.Action → World → Prop
  | operate {op : Operation} {m : Memory} (done : (w.checker.perform op).2.isOk = true)
      (effect : op.Effect w.checker.scopes w.memory m) :
      Step w (.operate op) { w with checker := (w.checker.perform op).1, memory := m }
  | operate_fails {op : Operation} (failed : (w.checker.perform op).2.isOk = false) :
      Step w (.operate op) { w with checker := (w.checker.perform op).1 }
  | planConversion {h : HeldPlan} (checker : h.checker = w.checker) (memory : h.memory = w.memory)
      (mode : h.mode = .assign) :
      Step w (.planConversion h.target h.source h.conversion) { w with plans := w.plans ++ [h] }
  | planConversion_fails {target : String} {source : Source} {conversion : Conversion}
      (failed : (w.checker.planConversion target source conversion).isOk = false) :
      Step w (.planConversion target source conversion) w
  | planNarrowing {h : HeldPlan} (checker : h.checker = w.checker) (memory : h.memory = w.memory)
      (mode : h.mode = .narrow) :
      Step w (.planNarrowing h.target h.conversion) { w with plans := w.plans ++ [h] }
  | planNarrowing_fails {name : String} {conversion : Conversion}
      (failed : (w.checker.planNarrowing name conversion).isOk = false) :
      Step w (.planNarrowing name conversion) w
  | execute {index : Nat} {h : HeldPlan} {p : Place} {v : Value} (held : w.plans[index]? = some h)
      (done : (w.checker.execute h.plan v).2.isOk = true)
      (yields : h.source.Yields w.checker.scopes w.memory v) (bounded : v.Bounded)
      (place : w.checker.scopes.place? h.target = some p) :
      Step w (.execute index v)
        { w with
          checker := (w.checker.execute h.plan v).1
          memory := w.memory.write p v bounded }
  | execute_fails {index : Nat} {h : HeldPlan} {v : Value} (held : w.plans[index]? = some h)
      (failed : (w.checker.execute h.plan v).2.isOk = false) :
      Step w (.execute index v) { w with checker := (w.checker.execute h.plan v).1 }
  | execute_nothing {index : Nat} {v : Value} (held : w.plans[index]? = none) :
      Step w (.execute index v) w

/-- The action that makes a plan in one of the modes. -/
def planning (target : String) (source : Source) (conversion : Conversion) :
    Plan.Mode → Session.Action
  | .assign => .planConversion target source conversion
  | .narrow => .planNarrowing target conversion

/-- The histories of worlds: each action with the world that it was carried out in. -/
inductive Run (c : Catalog) : List (World × Session.Action) → World → Prop
  | start (m : Memory) : Run c [] (start c m)
  | step {history : List (World × Session.Action)} {w w' : World} {a : Session.Action}
      (run : Run c history w) (next : w.Step a w') : Run c (history ++ [(w, a)]) w'

/-- An execution that succeeds leaves a binding that proves the pattern it declares, and every clause
recorded of it holds of the value given. -/
def Keeps (w : World) : Session.Action → Prop
  | .execute index v => ∀ h, w.plans[index]? = some h →
      (w.checker.execute h.plan v).2.isOk = true →
      ∃ b, (w.checker.execute h.plan v).1.binding h.target = .ok b ∧
        (w.checker.execute h.plan v).1.proves h.target b.declared = .ok true ∧
        ∀ c ∈ b.provenance.toList, w.checker.catalog.evaluator.Holds c v 0
  | _ => True

/-- At an execution that succeeds, what was known when the plan was made holds of the value given, and
what is recorded implies the pattern that the binding of this moment declares. -/
def Fresh (w : World) : Session.Action → Prop
  | .execute index v => ∀ h, w.plans[index]? = some h →
      (w.checker.execute h.plan v).2.isOk = true →
      (∀ c ∈ h.known.toList, w.checker.catalog.evaluator.Holds c v 0) ∧
        ∃ b, w.checker.binding h.target = .ok b ∧
          ∃ declared, w.checker.catalog.registry.resolve b.declared = .ok declared ∧
            w.checker.catalog.registry.subsumes (Checker.provenAfter h.plan b) declared = true
  | _ => True

/-- At an execution, the source of the plan had the value given already when the plan was made, and the
binding of this moment declares the pattern that the binding of that moment declared. -/
def Unmoved (w : World) : Session.Action → Prop
  | .execute index v => ∀ h, w.plans[index]? = some h →
      h.source.Yields h.checker.scopes h.memory v ∧
        ∀ b b', w.checker.binding h.target = .ok b → h.checker.binding h.target = .ok b' →
          b.declared = b'.declared
  | _ => True

end World

/-- No bound that an action writes in place is not-a-number. -/
def Session.Action.NaNFree : Session.Action → Prop
  | .operate op => op.NaNFree
  | .planConversion _ _ conversion | .planNarrowing _ conversion => conversion.NaNFree
  | .execute _ _ => True

theorem Source.Yields.of_value {s : Scopes} {m : Memory} {name : String} {p : Place} {v : Value}
    (place : s.place? name = some p) (value : m.value p = v) : (Source.binding name).Yields s m v :=
  value ▸ .binding place

/-! ### Sets that are contained in others -/

/-- What holds of a value holds of it of every set that is contained. -/
theorem Evaluator.holds_of_contains {e : Evaluator} {s t : ClauseSet} {v : Value}
    (h : ∀ c ∈ t.toList, s.contains c = true) (holds : ∀ c ∈ s.toList, e.Holds c v 0) :
    ∀ c ∈ t.toList, e.Holds c v 0 := by
  intro c mem
  obtain ⟨d, there, same⟩ := ClauseSet.contains_iff.1 (h c mem)
  exact (holds d there).congr (Clause.beq_symm same)

/-! ### Held plans -/

namespace HeldPlan

variable (h : HeldPlan)

theorem plan_eq :
    h.plan.binding = h.target ∧ h.plan.mode = h.mode ∧ h.plan.proven = h.known.union h.required := by
  obtain ⟨-, -, made⟩ := Checker.plan_eq_ok_iff.1 h.made
  rw [made]
  exact ⟨rfl, rfl, rfl⟩

theorem planFor_eq : h.checker.planFor h.target h.mode h.source h.conversion = .ok h.plan :=
  Checker.planFor_eq_ok_iff.2 ⟨_, _, h.required_eq, h.known_eq, h.made⟩

/-- What is recorded after the plan contains what was known and what is required. -/
theorem contains_provenAfter {b : Binding} {c : Clause}
    (there : h.known.contains c = true ∨ h.required.contains c = true) :
    (Checker.provenAfter h.plan b).contains c = true := by
  have proven : h.plan.proven.contains c = true := by
    rw [h.plan_eq.2.2, ClauseSet.contains_union]
    exact there
  unfold Checker.provenAfter
  split
  · exact proven
  · exact ClauseSet.contains_union.2 (.inr proven)

end HeldPlan

/-! ### One execution -/

namespace Checker

variable {k k' : Checker} {h : HeldPlan} {m : Memory} {v : Value} {b : Binding}

/-- What an execution that succeeds finds, and the binding that it leaves. -/
theorem binding_execute (done : (k.execute h.plan v).2.isOk = true) :
    ∃ b, k.binding h.target = .ok b ∧
      (k.catalog.evaluator.validate h.plan.residual v).result = .ok () ∧
      (k.execute h.plan v).1.scopes = (k.setProvenance h.target b (provenAfter h.plan b)).scopes ∧
      (k.execute h.plan v).1.binding h.target =
        .ok { b with provenance := provenAfter h.plan b } := by
  obtain ⟨e, failed, -⟩ | ⟨b, outcome, -, bound, valid, scopes⟩ := k.execute_cases h.plan v
  · simp [isOk_iff, failed] at done
  · rw [h.plan_eq.1] at bound scopes
    refine ⟨b, bound, valid, scopes, ?_⟩
    rw [binding_of_scopes scopes, binding_setProvenance bound]

/-- All that is recorded after an execution holds of the value just when what was known does. -/
theorem holds_provenAfter_iff (regular : k.catalog.registry.Regular)
    (same : h.checker.catalog = k.catalog) (nanFree : h.conversion.NaNFree) (bounded : v.Bounded)
    (sound : k.scopes.Sound k.catalog.evaluator m) (yields : h.source.Yields k.scopes m v)
    (bound : k.binding h.target = .ok b)
    (valid : (k.catalog.evaluator.validate h.plan.residual v).result = .ok ()) :
    (∀ c ∈ (provenAfter h.plan b).toList, k.catalog.evaluator.Holds c v 0) ↔
      ∀ c ∈ h.known.toList, k.catalog.evaluator.Holds c v 0 := by
  constructor
  · intro all
    refine Evaluator.holds_of_contains (fun c mem => ?_) all
    exact h.contains_provenAfter (.inl (ClauseSet.contains_of_mem mem))
  · intro known
    have proven : ∀ c ∈ h.plan.proven.toList, k.catalog.evaluator.Holds c v 0 := by
      have required := nanFree_required (same ▸ regular) nanFree h.required_eq
      rw [← same] at regular valid known ⊢
      exact holds_proven regular required bounded known h.made valid
    unfold provenAfter
    split
    · exact proven
    · next narrows =>
        -- the value is that of the binding, of which what is recorded holds
        have own : h.source = .binding h.target := h.own (h.plan_eq.2.1.symm.trans narrows)
        rw [own] at yields
        cases yields with
        | binding place =>
            obtain ⟨q, place', found⟩ := binding_eq_ok_iff.1 bound
            obtain rfl := Option.some.inj (place.symm.trans place')
            intro c mem
            exact (ClauseSet.mem_union mem).elim (sound _ b found c) (proven c)

end Checker

namespace World

variable {c : Catalog} {w w' : World} {a : Session.Action}

/-- All that is recorded of bindings holds of their values, now and when each plan was made. -/
structure Valid (c : Catalog) (w : World) : Prop where
  catalog : w.checker.catalog = c
  sound : w.checker.scopes.Sound c.evaluator w.memory
  plans : ∀ h ∈ w.plans, h.checker.catalog = c ∧ h.checker.scopes.Sound c.evaluator h.memory ∧
    h.conversion.NaNFree

/-- One execution is right just when it finds what its plan takes for granted. -/
theorem keeps_iff_fresh (regular : c.registry.Regular) (valid : w.Valid c) (next : w.Step a w') :
    w.Keeps a ↔ w.Fresh a := by
  obtain rfl := valid.catalog
  cases next with
  | @execute index h p v held done yields bounded place =>
      obtain ⟨same, -, nanFree⟩ := valid.plans h (List.mem_of_getElem? held)
      obtain ⟨b, bound, checked, -, after⟩ := Checker.binding_execute done
      have recorded := Checker.holds_provenAfter_iff regular same nanFree bounded valid.sound yields
        bound checked
      have declares := Checker.proves_eq_ok_true_iff after b.declared
      rw [Checker.catalog_execute] at declares
      simp only [Keeps, Fresh, held, Option.some.injEq, forall_eq', done, forall_const, after, bound,
        Except.ok.injEq, exists_eq_left', declares, recorded]
      exact And.comm
  | @execute_fails index h v held failed =>
      simp only [Keeps, Fresh, held, Option.some.injEq, forall_eq', failed, Bool.false_eq_true,
        false_implies]
  | execute_nothing held => simp [Keeps, Fresh, held]
  | _ => exact Iff.rfl

/-- Value and declared pattern being those that a plan was made for, it finds what it takes for
granted. -/
theorem Unmoved.fresh (valid : w.Valid c) (unmoved : w.Unmoved a) : w.Fresh a := by
  obtain rfl := valid.catalog
  cases a with
  | execute index v =>
      intro h held done
      obtain ⟨yields, declared⟩ := unmoved h held
      obtain ⟨same, sound, -⟩ := valid.plans h (List.mem_of_getElem? held)
      obtain ⟨b, bound, -⟩ := Checker.binding_execute done
      obtain ⟨b', s, asked, bound', resolved, -, all⟩ := Checker.required_eq_ok_iff.1 h.required_eq
      constructor
      · rw [← same] at sound ⊢
        exact Checker.holds_sourceProvenance sound yields h.known_eq
      · refine ⟨b, bound, s, ?_, Registry.subsumes_of_contains fun clause mem => ?_⟩
        · rw [declared b b' bound bound', ← same]
          exact resolved
        · -- the declared pattern is part of what the plan was to establish
          refine h.contains_provenAfter (.inr ?_)
          rw [all, ClauseSet.contains_union]
          exact .inl (ClauseSet.contains_of_mem mem)
  | _ => trivial

/-! ### Runs -/

/-- A plan that is made in a valid world may be held. -/
theorem Valid.hold {h : HeldPlan} (valid : w.Valid c) (checker : h.checker = w.checker)
    (memory : h.memory = w.memory) (nanFree : h.conversion.NaNFree) :
    ({ w with plans := w.plans ++ [h] } : World).Valid c := by
  refine ⟨valid.catalog, valid.sound, fun h' mem => ?_⟩
  rcases List.mem_append.1 mem with old | new
  · exact valid.plans h' old
  · obtain rfl := List.mem_singleton.1 new
    rw [checker, memory]
    exact ⟨valid.catalog, valid.sound, nanFree⟩

/-- An action that keeps to what is recorded leads to a valid world. -/
theorem Valid.step (regular : c.registry.Regular) (nanFree : a.NaNFree) (valid : w.Valid c)
    (next : w.Step a w') (keeps : w.Keeps a) : w'.Valid c := by
  obtain rfl := valid.catalog
  cases next with
  | @operate op m done effect =>
      obtain ⟨e, failed, -⟩ | ⟨-, change⟩ := w.checker.perform_cases op
      · simp [isOk_iff, failed] at done
      · exact ⟨Checker.catalog_perform, valid.sound.step regular nanFree change effect, valid.plans⟩
  | @operate_fails op failed =>
      obtain ⟨e, -, same⟩ | ⟨done, -⟩ := w.checker.perform_cases op
      · exact ⟨Checker.catalog_perform, same ▸ valid.sound, valid.plans⟩
      · simp [done, Except.isOk, Except.toBool] at failed
  | planConversion checker memory mode => exact valid.hold checker memory nanFree
  | planNarrowing checker memory mode => exact valid.hold checker memory nanFree
  | @execute index h p v held done yields bounded place =>
      obtain ⟨b, bound, -, scopes, after⟩ := Checker.binding_execute done
      obtain ⟨b', bound', -, holds⟩ := keeps h held done
      obtain rfl := Except.ok.inj (after.symm.trans bound')
      refine ⟨Checker.catalog_execute, ?_, valid.plans⟩
      refine valid.sound.write (fun q => ?_) (fun _ => rfl) holds
      rw [scopes]
      exact Checker.at?_setProvenance place
  | @execute_fails index h v held failed =>
      obtain ⟨e, -, same⟩ | ⟨b, outcome, done, -⟩ := w.checker.execute_cases h.plan v
      · exact ⟨Checker.catalog_execute, same ▸ valid.sound, valid.plans⟩
      · simp [done, Except.isOk, Except.toBool] at failed
  | planConversion_fails failed => exact valid
  | planNarrowing_fails failed => exact valid
  | execute_nothing held => exact valid

/-- The checker and the plans of worlds are those of sessions. -/
theorem session_step (next : w.Step a w') : w'.session = w.session.act a := by
  cases next with
  | operate done effect => rfl
  | operate_fails failed => rfl
  | @planConversion h checker memory mode =>
      have made := h.planFor_eq
      rw [checker, mode, ← Checker.planConversion_eq] at made
      simp [session, Session.act, Session.keep, made]
  | @planConversion_fails target source conversion failed =>
      cases planned : w.checker.planConversion target source conversion with
      | ok p => simp [planned, Except.isOk, Except.toBool] at failed
      | error e => simp [session, Session.act, Session.keep, planned]
  | @planNarrowing h checker memory mode =>
      have made := h.planFor_eq
      rw [checker, mode, h.own mode, ← Checker.planNarrowing_eq] at made
      simp [session, Session.act, Session.keep, made]
  | @planNarrowing_fails name conversion failed =>
      cases planned : w.checker.planNarrowing name conversion with
      | ok p => simp [planned, Except.isOk, Except.toBool] at failed
      | error e => simp [session, Session.act, Session.keep, planned]
  | execute held done yields bounded place => simp [session, Session.act, held]
  | execute_fails held failed => simp [session, Session.act, held]
  | execute_nothing held => simp [session, Session.act, held]

namespace Run

variable {history : List (World × Session.Action)}

theorem session_eq (run : Run c history w) :
    (Session.start c).run (history.map Prod.snd) = w.session := by
  induction run with
  | start m => rfl
  | step run next ih =>
      rw [session_step next, ← ih]
      simp [Session.run]

/-- Every plan can be held. -/
theorem hold (run : Run c history w) (mode : Plan.Mode) {target : String} {source : Source}
    {conversion : Conversion} {p : Plan} (own : mode = .narrow → source = .binding target)
    (planned : w.checker.planFor target mode source conversion = .ok p) :
    ∃ h : HeldPlan, h.plan = p ∧ h.target = target ∧ h.source = source ∧ h.checker = w.checker ∧
      h.memory = w.memory ∧ Run c (history ++ [(w, planning target source conversion mode)])
        { w with plans := w.plans ++ [h] } := by
  obtain ⟨required, known, required_eq, known_eq, made⟩ := Checker.planFor_eq_ok_iff.1 planned
  let h : HeldPlan := ⟨w.checker, w.memory, target, source, conversion, mode, required, known, p,
    required_eq, known_eq, made, own⟩
  refine ⟨h, rfl, rfl, rfl, rfl, rfl, run.step ?_⟩
  cases mode with
  | assign => exact .planConversion (h := h) rfl rfl rfl
  | narrow => exact .planNarrowing (h := h) rfl rfl rfl

/-- As long as every action keeps to what is recorded, worlds are valid. -/
theorem valid (run : Run c history w) (regular : c.registry.Regular)
    (nanFree : ∀ m ∈ history, m.2.NaNFree) (keeps : ∀ m ∈ history, m.1.Keeps m.2) : w.Valid c := by
  induction run with
  | start m => exact ⟨rfl, by simp [Scopes.Sound, World.start, Checker.start], by simp [World.start]⟩
  | step run next ih =>
      rw [List.forall_mem_append, List.forall_mem_singleton] at nanFree keeps
      exact (ih nanFree.1 keeps.1).step regular nanFree.2 next keeps.2

theorem valid_of_mem (run : Run c history w) (regular : c.registry.Regular)
    (nanFree : ∀ m ∈ history, m.2.NaNFree) (keeps : ∀ m ∈ history, m.1.Keeps m.2) :
    ∀ m ∈ history, m.1.Valid c ∧ ∃ w', m.1.Step m.2 w' := by
  induction run with
  | start m => simp
  | step run next ih =>
      rw [List.forall_mem_append, List.forall_mem_singleton] at nanFree keeps ⊢
      exact ⟨ih nanFree.1 keeps.1, run.valid regular nanFree.1 keeps.1, _, next⟩

/-- Where a condition makes every action of a valid world right, a run that meets it is right. -/
theorem keeps_of {Q : World → Session.Action → Prop} (run : Run c history w)
    (regular : c.registry.Regular) (nanFree : ∀ m ∈ history, m.2.NaNFree)
    (enough : ∀ {w w' a}, w.Valid c → w.Step a w' → Q w a → w.Keeps a)
    (all : ∀ m ∈ history, Q m.1 m.2) : ∀ m ∈ history, m.1.Keeps m.2 := by
  induction run with
  | start m => simp
  | step run next ih =>
      rw [List.forall_mem_append, List.forall_mem_singleton] at nanFree all ⊢
      have before := ih nanFree.1 all.1
      exact ⟨before, enough (run.valid regular nanFree.1 before) next all.2⟩

end Run

/-- **All executions of a run are right exactly when each finds what its plan takes for granted**, which
it does if the value given and the declared pattern are those that the plan was made for. -/
theorem held_plans_keep_iff_fresh {history : List (World × Session.Action)} (run : Run c history w)
    (regular : c.registry.Regular) (nanFree : ∀ m ∈ history, m.2.NaNFree) :
    (Session.start c).run (history.map Prod.snd) = w.session ∧
      ((∀ m ∈ history, m.1.Keeps m.2) ↔ ∀ m ∈ history, m.1.Fresh m.2) ∧
      ((∀ m ∈ history, m.1.Unmoved m.2) → ∀ m ∈ history, m.1.Keeps m.2) := by
  refine ⟨run.session_eq, ⟨fun keeps => ?_, fun fresh => ?_⟩, fun unmoved => ?_⟩
  · intro m mem
    obtain ⟨valid, w', next⟩ := run.valid_of_mem regular nanFree keeps m mem
    exact (keeps_iff_fresh regular valid next).1 (keeps m mem)
  · exact run.keeps_of regular nanFree
      (fun valid next fresh => (keeps_iff_fresh regular valid next).2 fresh) fresh
  · exact run.keeps_of regular nanFree
      (fun valid next unmoved => (keeps_iff_fresh regular valid next).2 (unmoved.fresh valid)) unmoved

/-- Texts, short texts, and whole numbers. -/
def lengths : Catalog :=
  let text : ClauseSet := .ofList [.typeIs (.primitive .string)]
  let short : ClauseSet := .ofList [.typeIs (.primitive .string), .length .lt 5]
  let whole : ClauseSet := .ofList [.typeIs (.primitive .integer)]
  let registry := Registry.empty
    |>.push (some "Text") text (by decide)
    |>.push (some "Short") short (by decide)
    |>.push (some "Whole") whole (by decide)
  { Catalog.empty with registry }

theorem lengths_regular : lengths.registry.Regular :=
  Registry.regular_of_isRegular (by decide +kernel)

theorem eq_ok_get {ε α : Type} {x : Except ε α} (h : x.toOption.isSome = true) :
    x = .ok (x.toOption.get h) :=
  toOption_eq_some_iff.1 (Option.some_get h).symm

/-- What is computed of the binding that a name means. -/
theorem of_binding {k : Checker} {name : String} {b : Binding} {P : Binding → Prop} [DecidablePred P]
    (known : (k.scopes.find? name).any (fun b => P b) = true) (bound : k.binding name = .ok b) :
    P b := by
  rw [Scopes.find?_eq_some_iff.2 (Checker.binding_eq_ok_iff.1 bound)] at known
  simpa using known

theorem bounded_abc : (Value.string "abc").Bounded := Value.bounded_string_iff.2 (by decide)

/-- A memory of short texts. -/
def shortTexts : Memory := ⟨fun _ => .string "abc", fun _ => bounded_abc⟩

/-- A plan that is executed in an inner scope, with the value that its source had all along. -/
theorem held_plans_keep_iff_fresh_lengths :
    ∃ history w, Run lengths history w ∧ (∀ m ∈ history, m.1.Keeps m.2) ∧
      history.map Prod.snd =
        [.operate (.declareExternal "x" ⟨0⟩ .string), .operate (.declare "y" ⟨1⟩),
          .planConversion "y" (.binding "x") (.constrainedBy ⟨1⟩), .operate .pushScope,
          .execute 0 (.string "abc")] ∧
      (w.checker.scopes.find? "y").any (fun b => b.provenance.contains (.length .lt 5)) = true := by
  have r₀ := Run.start (c := lengths) shortTexts
  have r₁ := r₀.step (a := .operate (.declareExternal "x" ⟨0⟩ .string))
    (.operate (by decide +kernel) (.declareExternal bounded_abc rfl))
  have r₂ := r₁.step (a := .operate (.declare "y" ⟨1⟩))
    (.operate (by decide +kernel) (.declare bounded_abc))
  obtain ⟨h, plan, target, source, checker, memory, r₃⟩ :=
    r₂.hold .assign (by simp) (eq_ok_get (x := Checker.planFor _ "y" .assign (.binding "x")
      (.constrainedBy ⟨1⟩)) (by decide +kernel))
  have r₄ := r₃.step (a := .operate .pushScope) (.operate rfl .pushScope)
  have r₅ := r₄.step (a := .execute 0 (.string "abc")) <| by
    refine .execute (h := h) (p := ⟨0, "y"⟩) rfl ?_ ?_ bounded_abc ?_
    · rw [plan]
      dsimp only
      decide +kernel
    · rw [source]
      exact .binding (p := ⟨0, "x"⟩) (by dsimp only; decide +kernel)
    · rw [target]
      dsimp only
      decide +kernel
  refine ⟨_, _, r₅, ?_, by simp [planning], ?_⟩
  · refine (held_plans_keep_iff_fresh r₅ lengths_regular ?_).2.2 ?_
    · simp [planning, Session.Action.NaNFree, Operation.NaNFree, Conversion.NaNFree]
    · rw [List.forall_mem_append, List.forall_mem_singleton]
      refine ⟨by simp [planning, Unmoved], fun h' held => ?_⟩
      obtain rfl : h = h' := Option.some.inj held
      rw [source, checker, memory, target]
      refine ⟨.binding (p := ⟨0, "x"⟩) (by decide +kernel), fun b b' bound bound' => ?_⟩
      rw [of_binding (P := fun b => b.declared = ⟨1⟩) (by dsimp only; decide +kernel) bound,
        of_binding (P := fun b => b.declared = ⟨1⟩) (by decide +kernel) bound']
  · rw [plan]
    dsimp only
    decide +kernel

theorem bounded_abcdefgh : (Value.string "abcdefgh").Bounded :=
  Value.bounded_string_iff.2 (by decide)

/-- A plan that was made when a text was known to be short is executed when its name means a binding
for whole numbers, and again when the text is a long one.  It succeeds without any check: first a
binding does not prove what it declares, and then a long text is recorded as short. -/
theorem stale_plans_break_provenance :
    ∃ history w w₁ w₂, Run lengths history w ∧
      (w₁, .execute 0 (.string "abc")) ∈ history ∧ ¬w₁.Keeps (.execute 0 (.string "abc")) ∧
      (w₂, .execute 0 (.string "abcdefgh")) ∈ history ∧
      ¬w₂.Keeps (.execute 0 (.string "abcdefgh")) := by
  have r₀ := Run.start (c := lengths) shortTexts
  have r₁ := r₀.step (a := .operate (.declare "x" ⟨0⟩))
    (.operate (by decide +kernel) (.declare bounded_abc))
  have r₂ := r₁.step (a := .operate (.narrow "x" (.constrainedBy ⟨1⟩) (.string "abc")))
    (.operate (by decide +kernel) (.narrow (p := ⟨0, "x"⟩) (by decide +kernel)))
  obtain ⟨h, plan, target, source, -, -, r₃⟩ :=
    r₂.hold .narrow (fun _ => rfl) (eq_ok_get (x := Checker.planFor _ "x" .narrow (.binding "x")
      (.constrainedBy ⟨1⟩)) (by decide +kernel))
  -- another binding takes the name
  have r₄ := r₃.step (a := .operate .pushScope) (.operate rfl .pushScope)
  have r₅ := r₄.step (a := .operate (.declare "x" ⟨2⟩))
    (.operate (by dsimp only; decide +kernel) (.declare bounded_abc))
  have r₆ := r₅.step (a := .execute 0 (.string "abc")) <| by
    refine .execute (h := h) (p := ⟨1, "x"⟩) rfl ?_ ?_ bounded_abc ?_
    · rw [plan]
      dsimp only
      decide +kernel
    · rw [source]
      refine .of_value (p := ⟨1, "x"⟩) (by dsimp only; decide +kernel) ?_
      show (if _ then _ else _) = _
      split <;> rfl
    · rw [target]
      dsimp only
      decide +kernel
  -- the first binding gets another value
  have r₇ := r₆.step (a := .operate .popScope) (.operate rfl .popScope)
  have r₈ := r₇.step (a := .operate (.assign "x" (.literal (.string "abcdefgh")))) <| by
    refine .operate ?_ (.assign (p := ⟨0, "x"⟩) bounded_abcdefgh ?_ (.literal _))
    · rw [plan]
      dsimp only
      decide +kernel
    · rw [plan]
      dsimp only
      decide +kernel
  have r₉ := r₈.step (a := .execute 0 (.string "abcdefgh")) <| by
    refine .execute (h := h) (p := ⟨0, "x"⟩) rfl ?_ ?_ bounded_abcdefgh ?_
    · rw [plan]
      dsimp only
      decide +kernel
    · rw [source]
      exact .binding (p := ⟨0, "x"⟩) (by rw [plan]; dsimp only; decide +kernel)
    · rw [plan, target]
      dsimp only
      decide +kernel
  refine ⟨_, _, _, _, r₉, List.mem_append_left _ (List.mem_append_left _ (List.mem_append_left _
    (List.mem_append_right _ List.mem_cons_self))), fun keeps => ?_,
    List.mem_append_right _ List.mem_cons_self, fun keeps => ?_⟩
  · have kept := keeps h rfl (by rw [plan]; dsimp only; decide +kernel)
    rw [plan, target] at kept
    obtain ⟨b, bound, proves, -⟩ := kept
    rw [of_binding (P := fun b => b.declared = ⟨2⟩) (by dsimp only; decide +kernel) bound] at proves
    have answer := congrArg Except.toOption proves
    revert answer
    dsimp only
    decide +kernel
  · have kept := keeps h rfl (by rw [plan]; dsimp only; decide +kernel)
    rw [plan, target] at kept
    obtain ⟨b, bound, -, holds⟩ := kept
    have recorded := of_binding (P := fun b => b.provenance.contains (.length .lt 5) = true)
      (by dsimp only; decide +kernel) bound
    have short := holds (.length .lt 5) ((ClauseSet.contains_iff_mem (by simp)).1 recorded)
    revert short
    dsimp only
    decide +kernel

end World

end ProvenShapes
