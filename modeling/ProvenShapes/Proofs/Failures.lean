/-
**What a failed declaration leaves behind.**

A declaration is given here as a procedure that writes to a catalog in place: what is written before a
failure stays written.  Some procedures do write before all checks are made: a kind is put among the
kinds before it is known to be new, the traits of a point are opened before the key is looked at, and
the pattern of a composite is registered before the composite.  Nevertheless every procedure that fails
leaves the catalog as it was, for it writes nothing new on the way to a failure.  A document is a
sequence of entries, and one that fails has carried out the entries before the failing one.

Main definitions:

* `Procedure`, `Procedure.Realizes` — procedures, and how one realizes a declaration that either gives
  a new catalog or fails;
* `Document.Entry`, `Document.entries` — the entries of a document in the order of its sections;
* `Document.Entry.declaration` — the declaration that an entry stands for;
* `Document.Performs`, `Document.StopsAt` — entries carried out, and a document that stops midway.

Main results:

* `Procedure.realizes_attach`, `Procedure.realizes_declareComposite` and their siblings — **procedures
  that fail leave the catalog as it was**;
* `Catalog.outcome_inPlace` — declarations in place do what declarations do;
* `Document.Entry.settles`, `Document.stopsAt_of_error` — an entry is carried out as the declaration
  that it stands for, and a document up to an entry that fails;
* `Catalog.declarations_fail_cleanly` — **what declarations and documents leave when they fail**.
-/

import ProvenShapes.Proofs.Declarations

set_option autoImplicit false

namespace ProvenShapes

/-- A procedure on a catalog; what it has written when it fails stays written. -/
abbrev Procedure (ε α : Type) := EStateM ε Catalog α

namespace Procedure

variable {ε α : Type}

/-- A question to the catalog, which may fail. -/
def ask (question : Catalog → Except ε α) : Procedure ε α := fun c =>
  match question c with
  | .ok a => .ok a c
  | .error e => .error e c

/-- A failure, if the catalog is such and such. -/
def failIf (condition : Catalog → Bool) (e : ε) : Procedure ε Unit :=
  ask fun c => if condition c then .error e else .ok ()

/-- A refusal reported as an error of a document. -/
def refusing (context : Option String) (x : Procedure Error α) : Procedure LoadError α :=
  x.adaptExcept (LoadError.refused context)

/-- A procedure without its result. -/
def silently (x : Procedure ε α) : Procedure ε Unit := do
  let _ ← x

/-- The catalog after a procedure, and its result. -/
def outcome (x : Procedure ε Unit) (c : Catalog) : Catalog × Except ε Unit :=
  match x.run c with
  | .ok _ d => (d, .ok ())
  | .error e d => (d, .error e)

/-! ### Declarations in place -/

/-- Adds a constraint. -/
def addConstraint (constraint : Constraint) : Procedure Error Unit := do
  let constraints ← ask fun c => c.constraints.add constraint
  modify fun c => { c with constraints }

/-- Adds the constraint of a regular expression. -/
def addRegex (id source : String) : Procedure Error Unit := do
  addConstraint (← ask fun _ => Constraint.regex id source)

/-- Puts a kind among the kinds, and then fails if it was there before. -/
def declareKind (id : String) : Procedure Error Unit := do
  failIf (fun _ => Text.isBlank id) (.invalidName .kind id)
  let known := (← get).kinds.contains id
  modify fun c => { c with kinds := if known then c.kinds else c.kinds ++ [id] }
  failIf (fun _ => known) (.duplicateKind id)

/-- Registers a pattern. -/
def registerPattern (name : Option String) (clauses : List Clause) (bases : List PatternId) :
    Procedure Error PatternId := do
  let (registry, id) ← ask fun c => c.registry.register c.scope name clauses bases
  modify fun c => { c with registry }
  return id

/-- Declares a tag. -/
def declareTag (id : String) (pattern : PatternId) : Procedure Error Unit := do
  let tags ← ask fun c => c.tags.declare c.registry id pattern
  modify fun c => { c with tags }

/-- Registers the pattern of a composite, and then puts the composite among the composites. -/
def declareComposite (name : String) (fields : List (String × PatternId)) :
    Procedure Error PatternId := do
  failIf (fun c => (c.composite? name).isSome) (.alreadyExists .composite name)
  ask fun c => c.checkFields name [] fields
  let coMutation ← ask fun c => CoMutation.ofFields c.registry name fields
  let pattern ← registerPattern (some name) (Composite.recordClauses fields) []
  modify fun c => { c with composites := c.composites ++ [⟨name, fields, pattern, coMutation⟩] }
  return pattern

/-- The traits with an entry for a point, which is empty if it is new. -/
def opened (ts : Traits) (point : AttachmentPoint) : Traits :=
  if (Keyed.find? point ts).isSome then ts else Keyed.put point [] ts

/-- The traits with one more at the end of those of a point. -/
def attached (ts : Traits) (point : AttachmentPoint) (key : String) (value : Value) : Traits :=
  Keyed.put point (ts.ofPoint point ++ [(key, value)]) ts

/-- Opens the traits of a point, and then attaches a trait there if its key is new. -/
def attach (point : AttachmentPoint) (key : String) (value : Value) : Procedure Error Unit := do
  ask fun c => c.checkPoint point
  failIf (fun _ => Text.isBlank key) (.invalidName .metadata key)
  modify fun c => { c with traits := opened c.traits point }
  failIf (fun c => (c.traits.get? point key).isSome)
    (.alreadyExists .metadata s!"{point.display}: {key}")
  modify fun c => { c with traits := attached c.traits point key value }

/-! ### Failures in place -/

/-- How a procedure ends that gives a new catalog and a result, or fails and leaves the catalog as it
was. -/
def finish (c : Catalog) : Except ε (Catalog × α) → EStateM.Result ε Catalog α
  | .ok (d, a) => .ok a d
  | .error e => .error e c

/-- The procedure gives what the function gives, and where the function fails it leaves the catalog as
it was. -/
def Realizes (x : Procedure ε α) (f : Catalog → Except ε (Catalog × α)) : Prop :=
  ∀ c, x.run c = finish c (f c)

variable {c : Catalog} {β : Type}

/-- A procedure that is realized, and what comes after it. -/
theorem Realizes.run_bind {x : Procedure ε α} {f : Catalog → Except ε (Catalog × α)}
    (h : Realizes x f) (next : α → Procedure ε β) :
    (x >>= next).run c = match f c with
      | .ok (d, a) => (next a).run d
      | .error e => .error e c := by
  rw [EStateM.run_bind, h c]
  cases f c <;> rfl

theorem realizes_ask (question : Catalog → Except ε α) :
    Realizes (ask question) fun c => (question c).map (c, ·) := by
  intro c
  simp only [ask, EStateM.run]
  cases question c <;> rfl

theorem run_ask_bind (question : Catalog → Except ε α) (next : α → Procedure ε β) :
    (ask question >>= next).run c = match question c with
      | .ok a => (next a).run c
      | .error e => .error e c := by
  rw [(realizes_ask question).run_bind]
  cases question c <;> rfl

theorem run_failIf_bind (condition : Catalog → Bool) (e : ε) (next : Unit → Procedure ε β) :
    (failIf condition e >>= next).run c =
      if condition c then .error e c else (next ()).run c := by
  rw [failIf, run_ask_bind]
  cases condition c <;> rfl

theorem Realizes.congr {x : Procedure ε α} {f g : Catalog → Except ε (Catalog × α)}
    (h : Realizes x f) (same : ∀ c, f c = g c) : Realizes x g := by
  intro c
  rw [h c, same]

theorem Realizes.silently {x : Procedure ε α} {f : Catalog → Except ε (Catalog × α)}
    (h : Realizes x f) : Realizes x.silently fun c => (f c).map fun r => (r.1, ()) := by
  intro c
  rw [Procedure.silently, h.run_bind]
  dsimp only
  cases f c <;> rfl

theorem Realizes.refusing {x : Procedure Error α} {f : Catalog → Except Error (Catalog × α)}
    (h : Realizes x f) (context : Option String) :
    Realizes (x.refusing context) fun c => (f c).mapError (LoadError.refused context) := by
  intro c
  show EStateM.adaptExcept _ x c = finish c _
  have ran : x c = finish c (f c) := h c
  rw [EStateM.adaptExcept, ran]
  dsimp only
  cases f c <;> rfl

/-- What comes after a question is realized if it is so for every answer. -/
theorem realizes_ask_bind {question : Catalog → Except ε β} {next : β → Procedure ε α}
    {f : β → Catalog → Except ε (Catalog × α)} (h : ∀ b, Realizes (next b) (f b)) :
    Realizes (ask question >>= next) fun c => question c >>= fun b => f b c := by
  intro c
  rw [run_ask_bind]
  dsimp only
  cases question c with
  | error e => rfl
  | ok b => exact h b c

/-! ### Each declaration -/

theorem realizes_addConstraint (constraint : Constraint) :
    Realizes (addConstraint constraint) fun c => (c.addConstraint constraint).map (·, ()) := by
  intro c
  simp only [addConstraint, run_ask_bind, Catalog.addConstraint]
  cases c.constraints.add constraint <;> rfl

theorem realizes_addRegex (id source : String) :
    Realizes (addRegex id source) fun c => (c.addRegex id source).map (·, ()) := by
  intro c
  simp only [addRegex, run_ask_bind, Catalog.addRegex]
  cases Constraint.regex id source with
  | error e => rfl
  | ok constraint => exact realizes_addConstraint constraint c

/-- A kind that is not new was there before it was put there. -/
theorem realizes_declareKind (id : String) :
    Realizes (declareKind id) fun c => (c.declareKind id).map (·, ()) := by
  intro c
  simp only [declareKind, run_failIf_bind, Catalog.declareKind, Kinds.declare]
  cases Text.isBlank id with
  | true => rfl
  | false =>
      show (failIf (fun _ => c.kinds.contains id) (Error.duplicateKind id)).run
        { c with kinds := if c.kinds.contains id then c.kinds else c.kinds ++ [id] } = _
      cases c.kinds.contains id <;> rfl

theorem realizes_registerPattern (name : Option String) (clauses : List Clause)
    (bases : List PatternId) :
    Realizes (registerPattern name clauses bases) fun c =>
      c.registerPattern name clauses bases := by
  intro c
  simp only [registerPattern, run_ask_bind, Catalog.registerPattern]
  cases c.registry.register c.scope name clauses bases <;> rfl

theorem realizes_declareTag (id : String) (pattern : PatternId) :
    Realizes (declareTag id pattern) fun c => (c.declareTag id pattern).map (·, ()) := by
  intro c
  simp only [declareTag, run_ask_bind, Catalog.declareTag]
  cases c.tags.declare c.registry id pattern <;> rfl

/-- Nothing fails once the pattern of a composite is registered. -/
theorem realizes_declareComposite (name : String) (fields : List (String × PatternId)) :
    Realizes (declareComposite name fields) fun c => c.declareComposite name fields := by
  intro c
  simp only [declareComposite, run_failIf_bind, run_ask_bind,
    (realizes_registerPattern _ _ _).run_bind, Catalog.declareComposite]
  cases (c.composite? name).isSome with
  | true => rfl
  | false =>
      cases c.checkFields name [] fields with
      | error e => rfl
      | ok _ =>
          cases CoMutation.ofFields c.registry name fields with
          | error e => rfl
          | ok coMutation =>
              cases c.registerPattern (some name) (Composite.recordClauses fields) [] <;> rfl

/-- Opening a point changes nothing that is read there. -/
theorem ofPoint_opened (ts : Traits) (point : AttachmentPoint) :
    (opened ts point : Traits).ofPoint point = ts.ofPoint point := by
  unfold opened
  split
  · rfl
  · next absent =>
      have none : Keyed.find? point ts = none := by simpa using absent
      simp [Traits.ofPoint, none]

/-- A point at which a key is found was open before. -/
theorem opened_of_get? {ts : Traits} {point : AttachmentPoint} {key : String}
    (found : (ts.get? point key).isSome) : opened ts point = ts := by
  unfold opened
  split
  · rfl
  · next absent =>
      have none : Keyed.find? point ts = none := by simpa using absent
      simp [Traits.get?, Traits.ofPoint, none, Keyed.find?] at found

/-- Attaching a trait to a point that was opened is attaching it to the point. -/
theorem attached_opened (ts : Traits) (point : AttachmentPoint) (key : String) (value : Value) :
    attached (opened ts point) point key value = attached ts point key value := by
  rw [attached, attached, ofPoint_opened]
  unfold opened
  split
  · rfl
  · exact Keyed.put_put point [] _ ts

/-- The traits of a point are opened in vain only if they were open before. -/
theorem realizes_attach (point : AttachmentPoint) (key : String) (value : Value) :
    Realizes (attach point key value) fun c => (c.addTrait point key value).map (·, ()) := by
  intro c
  simp only [attach, run_ask_bind, run_failIf_bind, Catalog.addTrait, Traits.attach, Traits.get?]
  cases c.checkPoint point with
  | error e => rfl
  | ok _ =>
      cases Text.isBlank key with
      | true => rfl
      | false =>
          -- from here on the traits of the point are open
          show (failIf _ _ >>= _).run { c with traits := opened c.traits point } = _
          simp only [run_failIf_bind, ofPoint_opened]
          by_cases found : (c.traits.get? point key).isSome = true
          · have there : (Keyed.find? key (c.traits.ofPoint point)).isSome = true := found
            simp only [there, opened_of_get? found]
            rfl
          · have absent : ¬ (Keyed.find? key (c.traits.ofPoint point)).isSome = true := found
            simp only [absent]
            show EStateM.Result.ok ()
              { c with traits := attached (opened c.traits point) point key value } = _
            rw [attached_opened]
            rfl

end Procedure

/-! ### Entries of documents -/

namespace Document

/-- An entry of a document. -/
inductive Entry where
  | options (options : Options)
  | constraint (id source : String)
  | kind (id : String)
  | pattern (name : String) (shape : Shape)
  | tag (id pattern : String)
  | composite (name : String) (record : Record)
  | trait (note : Note)

/-- The entries of a document in the order of its sections: the options, constraints, kinds, patterns,
tags, composites and traits. -/
def entries (d : Document) : List Entry :=
  d.options.toList.map .options ++ d.constraints.map (fun e => .constraint e.1 e.2) ++
    d.kinds.map .kind ++ d.patterns.map (fun e => .pattern e.1 e.2) ++
    d.tags.map (fun e => .tag e.1 e.2) ++ d.composites.map (fun e => .composite e.1 e.2) ++
    d.traits.map .trait

/-- The fields of a composite as it is written down, with the handles of their patterns. -/
def fieldsOf (c : Catalog) (record : Record) : Except Error (List (String × PatternId)) :=
  record.fields.mapM fun f => do return (f.1, ← c.registry.lookup f.2)

/-- What a trait is attached to. -/
def pointOf (c : Catalog) : Place → Except Error AttachmentPoint
  | .pattern name => do return .pattern (← c.registry.lookup name)
  | .kind name => .ok (.kind name)
  | .field composite name => .ok (.field composite name)

namespace Entry

/-- Carries out an entry. -/
def step : Entry → Catalog → Except LoadError Catalog
  | .options switches, c => .ok { c with options := switches }
  | .constraint id source, c => LoadError.ofRefusal (c.addRegex id source)
  | .kind id, c => LoadError.ofRefusal (c.declareKind id)
  | .pattern name shape, c => addPattern name shape c
  | .tag id named, c => addTag id named c
  | .composite name record, c => addComposite name record c
  | .trait note, c => addNote note c

/-- Carries out an entry in place. -/
def inPlace : Entry → Procedure LoadError Unit
  | .options switches => modify fun c => { c with options := switches }
  | .constraint id source => (Procedure.addRegex id source).refusing none
  | .kind id => (Procedure.declareKind id).refusing none
  | .pattern name shape => do
      let clauses ← Procedure.ask fun c => shape.conditions.mapM (clause c)
      let bases ← Procedure.ask fun c => lookups c shape.bases
      ((Procedure.registerPattern (some name) clauses bases).refusing (some name)).silently
  | .tag id named => Procedure.refusing none do
      let handle ← Procedure.ask fun c => c.registry.lookup named
      Procedure.declareTag id handle
  | .composite name record => Procedure.refusing none do
      let fields ← Procedure.ask fun c => fieldsOf c record
      (Procedure.declareComposite name fields).silently
  | .trait note => Procedure.refusing none do
      let point ← Procedure.ask fun c => pointOf c note.place
      Procedure.attach point note.key note.value

/-- The declaration that an entry stands for, with the handles of the patterns that it names. -/
def declaration (c : Catalog) : Entry → Except LoadError Declaration
  | .options switches => .ok (.options switches)
  | .constraint id source => .ok (.regex id source)
  | .kind id => .ok (.kind id)
  | .pattern name shape => do
      return .pattern (some name) (← shape.conditions.mapM (clause c)) (← lookups c shape.bases)
  | .tag id named => do return .tag id (← LoadError.ofRefusal (c.registry.lookup named))
  | .composite name record => do return .composite name (← LoadError.ofRefusal (fieldsOf c record))
  | .trait note => do
      return .attach (← LoadError.ofRefusal (pointOf c note.place)) note.key note.value

/-- The pattern that a refusal of the entry is reported with. -/
def context : Entry → Option String
  | .pattern name _ => some name
  | _ => none

/-- The entry cannot be carried out: a name in it is unknown, a bound is not finite, or the declaration
that it stands for is refused. -/
def Fails (entry : Entry) (c : Catalog) (e : LoadError) : Prop :=
  entry.declaration c = .error e ∨
    ∃ declaration cause, entry.declaration c = .ok declaration ∧
      (c.apply declaration).2 = .error (.refused none cause) ∧ e = .refused entry.context cause

variable {entry : Entry} {c : Catalog}

theorem ofRefusal_eq {α : Type} (x : Except Error α) :
    LoadError.ofRefusal x = x.mapError (LoadError.refused none) := by
  cases x <;> rfl

theorem ofRefusal_bind {α β : Type} (x : Except Error α) (f : α → Except Error β) :
    LoadError.ofRefusal (x >>= f) =
      LoadError.ofRefusal x >>= fun a => (f a).mapError (LoadError.refused none) := by
  cases x with
  | error e => rfl
  | ok a => exact ofRefusal_eq (f a)

theorem addPattern_eq (name : String) (shape : Shape) (c : Catalog) :
    addPattern name shape c = (do
      let clauses ← shape.conditions.mapM (clause c)
      let bases ← lookups c shape.bases
      ((c.registerPattern (some name) clauses bases).map Prod.fst).mapError
        (LoadError.refused (some name))) := by
  unfold addPattern
  refine congrArg _ (funext fun clauses => congrArg _ (funext fun bases => ?_))
  cases c.registerPattern (some name) clauses bases <;> rfl

theorem addComposite_eq (name : String) (record : Record) (c : Catalog) :
    addComposite name record c = LoadError.ofRefusal
      (fieldsOf c record >>= fun fields => (c.declareComposite name fields).map Prod.fst) := by
  unfold addComposite
  refine congrArg _ (congrArg _ (funext fun fields => ?_))
  cases c.declareComposite name fields <;> rfl

theorem addNote_eq (note : Note) (c : Catalog) :
    addNote note c = LoadError.ofRefusal
      (pointOf c note.place >>= fun point => c.addTrait point note.key note.value) := by
  unfold addNote pointOf
  cases note.place with
  | pattern name =>
      dsimp only
      cases c.registry.lookup name <;> rfl
  | kind name => rfl
  | field composite name => rfl

/-- An entry in place is the entry, and fails without a trace. -/
theorem realizes_inPlace (entry : Entry) :
    Procedure.Realizes entry.inPlace fun c => (entry.step c).map (·, ()) := by
  cases entry with
  | options switches => exact fun c => rfl
  | constraint id source =>
      refine ((Procedure.realizes_addRegex id source).refusing none).congr fun c => ?_
      rw [step, ofRefusal_eq]
      cases c.addRegex id source <;> rfl
  | kind id =>
      refine ((Procedure.realizes_declareKind id).refusing none).congr fun c => ?_
      rw [step, ofRefusal_eq]
      cases c.declareKind id <;> rfl
  | pattern name shape =>
      refine (Procedure.realizes_ask_bind fun clauses => Procedure.realizes_ask_bind fun bases =>
        ((Procedure.realizes_registerPattern (some name) clauses bases).refusing
          (some name)).silently).congr fun c => ?_
      rw [step, addPattern_eq]
      cases shape.conditions.mapM (clause c) with
      | error e => rfl
      | ok clauses =>
          cases lookups c shape.bases with
          | error e => rfl
          | ok bases =>
              simp only [bind, Except.bind]
              cases c.registerPattern (some name) clauses bases <;> rfl
  | tag id named =>
      refine ((Procedure.realizes_ask_bind fun handle =>
        Procedure.realizes_declareTag id handle).refusing none).congr fun c => ?_
      rw [step, addTag, ofRefusal_eq]
      cases c.registry.lookup named with
      | error e => rfl
      | ok handle =>
          simp only [bind, Except.bind]
          cases c.declareTag id handle <;> rfl
  | composite name record =>
      refine ((Procedure.realizes_ask_bind fun fields =>
        (Procedure.realizes_declareComposite name fields).silently).refusing none).congr fun c => ?_
      rw [step, addComposite_eq, ofRefusal_eq]
      cases fieldsOf c record with
      | error e => rfl
      | ok fields =>
          simp only [bind, Except.bind]
          cases c.declareComposite name fields <;> rfl
  | trait note =>
      refine ((Procedure.realizes_ask_bind fun point =>
        Procedure.realizes_attach point note.key note.value).refusing none).congr fun c => ?_
      rw [step, addNote_eq, ofRefusal_eq]
      cases pointOf c note.place with
      | error e => rfl
      | ok point =>
          simp only [bind, Except.bind]
          cases c.addTrait point note.key note.value <;> rfl

/-- The entry is carried out as the declaration that it stands for, or cannot be carried out. -/
def Settles (entry : Entry) (c : Catalog) : Prop :=
  (∃ declaration d, entry.step c = .ok d ∧ entry.declaration c = .ok declaration ∧
    c.apply declaration = (d, .ok ())) ∨
  ∃ e, entry.step c = .error e ∧ entry.Fails c e

/-- An entry that asks for handles and then makes a declaration with them. -/
theorem settles_of_question {α : Type} (question : Except LoadError α) (make : α → Declaration)
    (made : α → Except Error Catalog) (stands : entry.declaration c = question.map make)
    (stepped : entry.step c =
      question >>= fun a => (made a).mapError (LoadError.refused entry.context))
    (applied : ∀ a, c.apply (make a) = c.settle (made a)) : entry.Settles c := by
  cases question with
  | error e => exact .inr ⟨e, stepped, .inl stands⟩
  | ok a =>
      have stepped : entry.step c = (made a).mapError (LoadError.refused entry.context) := stepped
      have applied := applied a
      cases result : made a with
      | ok d =>
          rw [result] at stepped applied
          exact .inl ⟨make a, d, stepped, stands, applied⟩
      | error cause =>
          rw [result] at stepped applied
          refine .inr ⟨_, stepped, .inr ⟨make a, cause, stands, ?_, rfl⟩⟩
          rw [applied]
          rfl

/-- **Every entry is carried out as the declaration that it stands for, or cannot be carried out.** -/
theorem settles (entry : Entry) (c : Catalog) : entry.Settles c := by
  cases entry with
  | options switches => exact .inl ⟨_, _, rfl, rfl, rfl⟩
  | constraint id source =>
      exact settles_of_question (.ok ()) (fun _ => .regex id source) (fun _ => c.addRegex id source)
        rfl (ofRefusal_eq _) fun _ => rfl
  | kind id =>
      exact settles_of_question (.ok ()) (fun _ => .kind id) (fun _ => c.declareKind id) rfl
        (ofRefusal_eq _) fun _ => rfl
  | pattern name shape =>
      refine settles_of_question
        (do return (← shape.conditions.mapM (clause c), ← lookups c shape.bases))
        (fun parts => .pattern (some name) parts.1 parts.2)
        (fun parts => (c.registerPattern (some name) parts.1 parts.2).map Prod.fst) ?_ ?_
        fun _ => rfl
      · rw [declaration]
        cases shape.conditions.mapM (clause c) with
        | error e => rfl
        | ok clauses => cases lookups c shape.bases <;> rfl
      · rw [step, addPattern_eq]
        cases shape.conditions.mapM (clause c) with
        | error e => rfl
        | ok clauses => cases lookups c shape.bases <;> rfl
  | tag id named =>
      exact settles_of_question (LoadError.ofRefusal (c.registry.lookup named)) (.tag id)
        (c.declareTag id) rfl (ofRefusal_bind _ _) fun _ => rfl
  | composite name record =>
      exact settles_of_question (LoadError.ofRefusal (fieldsOf c record)) (.composite name)
        (fun fields => (c.declareComposite name fields).map Prod.fst) rfl
        ((addComposite_eq name record c).trans (ofRefusal_bind _ _)) fun _ => rfl
  | trait note =>
      exact settles_of_question (LoadError.ofRefusal (pointOf c note.place))
        (fun point => .attach point note.key note.value)
        (fun point => c.addTrait point note.key note.value) rfl
        ((addNote_eq note c).trans (ofRefusal_bind _ _)) fun _ => rfl

end Entry

/-! ### Documents -/

/-- Entries are carried out one after the other, each as the declaration that it stands for in the
catalog of its moment. -/
inductive Performs : Catalog → List Entry → List Declaration → Catalog → Prop
  | nil (c : Catalog) : Performs c [] [] c
  | cons {c d e : Catalog} {entry : Entry} {rest : List Entry} {declaration : Declaration}
      {declarations : List Declaration} (stands : entry.declaration c = .ok declaration)
      (done : c.apply declaration = (d, .ok ())) (later : Performs d rest declarations e) :
      Performs c (entry :: rest) (declaration :: declarations) e

/-- The document stops with an error at an entry, and the catalog is the one that all entries before
it have led to. -/
def StopsAt (document : Document) (c d : Catalog) (e : LoadError) : Prop :=
  ∃ before entry after declarations, document.entries = before ++ entry :: after ∧
    Performs c before declarations d ∧ d = c.applyAll declarations ∧ entry.Fails d e

/-- Carries out a document in place, entry by entry. -/
def inPlace (document : Document) : Procedure LoadError Unit := document.entries.forM Entry.inPlace

variable {document : Document} {c d : Catalog} {entries : List Entry}

theorem steps_eq (document : Document) : document.steps = document.entries.map Entry.step := by
  simp only [steps, Document.entries, List.map_append, List.map_map]
  rfl

theorem Performs.applyAll {declarations : List Declaration}
    (h : Performs c entries declarations d) : d = c.applyAll declarations := by
  induction h with
  | nil c => rfl
  | cons stands done later ih =>
      rw [ih, Catalog.applyAll, Catalog.applyAll, List.foldl_cons, done]

/-- Entries are carried out to their end or up to one that fails. -/
theorem applySteps_cases (entries : List Entry) (c : Catalog) :
    (∃ declarations, (applySteps c (entries.map Entry.step)).2 = .ok () ∧
      Performs c entries declarations (applySteps c (entries.map Entry.step)).1) ∨
    ∃ e before entry after declarations, (applySteps c (entries.map Entry.step)).2 = .error e ∧
      entries = before ++ entry :: after ∧
      Performs c before declarations (applySteps c (entries.map Entry.step)).1 ∧
      entry.Fails (applySteps c (entries.map Entry.step)).1 e := by
  induction entries generalizing c with
  | nil => exact .inl ⟨[], rfl, .nil c⟩
  | cons first rest ih =>
      rw [List.map_cons, applySteps]
      obtain ⟨declaration, d, made, stands, done⟩ | ⟨e, stopped, fails⟩ := first.settles c
      · rw [made]
        obtain ⟨declarations, ended, performs⟩ |
          ⟨e, before, entry, after, declarations, stopped, split, performs, fails⟩ := ih d
        · exact .inl ⟨_, ended, .cons stands done performs⟩
        · refine .inr ⟨e, first :: before, entry, after, _, stopped, ?_,
            .cons stands done performs, fails⟩
          rw [split, List.cons_append]
      · rw [stopped]
        exact .inr ⟨e, [], first, rest, [], rfl, rfl, .nil c, fails⟩

/-- **A document that fails has carried out the entries before the failing one, and nothing else.** -/
theorem stopsAt_of_error {e : LoadError} (failed : (c.addDocument document).2 = .error e) :
    document.StopsAt c (c.addDocument document).1 e := by
  rw [Catalog.addDocument, steps_eq] at failed ⊢
  obtain ⟨declarations, ended, -⟩ |
    ⟨e', before, entry, after, declarations, stopped, split, performs, fails⟩ :=
    applySteps_cases document.entries c
  · rw [ended] at failed
    simp at failed
  · obtain rfl : e' = e := Except.error.inj (stopped.symm.trans failed)
    exact ⟨before, entry, after, declarations, split, performs, performs.applyAll, fails⟩

/-- Entries in place are the entries. -/
theorem outcome_forM (entries : List Entry) (c : Catalog) :
    Procedure.outcome (entries.forM Entry.inPlace) c = applySteps c (entries.map Entry.step) := by
  induction entries generalizing c with
  | nil => rfl
  | cons first rest ih =>
      show Procedure.outcome (first.inPlace >>= fun _ => rest.forM Entry.inPlace) c = _
      rw [Procedure.outcome, first.realizes_inPlace.run_bind, List.map_cons, applySteps]
      cases first.step c with
      | error e => rfl
      | ok d => exact ih d

end Document

/-! ### All declarations -/

/-- Carries out a declaration in place. -/
def Declaration.inPlace : Declaration → Procedure LoadError Unit
  | .options switches => modify fun c => { c with options := switches }
  | .constraint added => (Procedure.addConstraint added).refusing none
  | .regex id source => (Procedure.addRegex id source).refusing none
  | .kind id => (Procedure.declareKind id).refusing none
  | .pattern name clauses bases =>
      (Procedure.registerPattern name clauses bases).silently.refusing none
  | .tag id handle => (Procedure.declareTag id handle).refusing none
  | .composite name fields => (Procedure.declareComposite name fields).silently.refusing none
  | .attach point key value => (Procedure.attach point key value).refusing none
  | .document d => d.inPlace

/-- The declaration is one call, and no document of calls. -/
def Declaration.isCall : Declaration → Bool
  | .document _ => false
  | _ => true

namespace Catalog

variable {c : Catalog} {d : Declaration}

theorem outcome_refusing {x : Procedure Error Unit} {f : Catalog → Except Error Catalog}
    (h : Procedure.Realizes x fun c => (f c).map (·, ())) (c : Catalog) :
    Procedure.outcome (x.refusing none) c = c.settle (f c) := by
  rw [Procedure.outcome, h.refusing none c]
  dsimp only
  cases f c <;> rfl

theorem realizes_silently {α : Type} {x : Procedure Error α}
    {f : Catalog → Except Error (Catalog × α)} (h : Procedure.Realizes x f) :
    Procedure.Realizes x.silently fun c => ((f c).map Prod.fst).map (·, ()) :=
  h.silently.congr fun c => by cases f c <;> rfl

/-- **Declarations in place do what declarations do.** -/
theorem outcome_inPlace (c : Catalog) (d : Declaration) :
    Procedure.outcome d.inPlace c = c.apply d := by
  cases d with
  | options switches => rfl
  | constraint added => exact outcome_refusing (Procedure.realizes_addConstraint added) c
  | regex id source => exact outcome_refusing (Procedure.realizes_addRegex id source) c
  | kind id => exact outcome_refusing (Procedure.realizes_declareKind id) c
  | pattern name clauses bases =>
      exact outcome_refusing
        (realizes_silently (Procedure.realizes_registerPattern name clauses bases)) c
  | tag id handle => exact outcome_refusing (Procedure.realizes_declareTag id handle) c
  | composite name fields =>
      exact outcome_refusing (realizes_silently (Procedure.realizes_declareComposite name fields)) c
  | attach point key value => exact outcome_refusing (Procedure.realizes_attach point key value) c
  | document document =>
      show Procedure.outcome (document.entries.forM Document.Entry.inPlace) c =
        c.addDocument document
      rw [Document.outcome_forM, addDocument, Document.steps_eq]

theorem settle_of_error {made : Except Error Catalog} {e : LoadError}
    (failed : (c.settle made).2 = .error e) : (c.settle made).1 = c := by
  cases made with
  | ok d => simp [settle] at failed
  | error cause => rfl

theorem apply_of_error {e : LoadError} (call : d.isCall = true)
    (failed : (c.apply d).2 = .error e) : (c.apply d).1 = c := by
  cases d with
  | options switches => simp [apply] at failed
  | document document => simp [Declaration.isCall] at call
  | _ => exact settle_of_error failed

/-- **Declarations fail cleanly.**  Whatever is written in place before a failure, a call that fails
leaves the whole catalog as it was, and a document that fails leaves the catalog to which its entries
before the failing one lead. -/
theorem declarations_fail_cleanly (c : Catalog) :
    (∀ d : Declaration, Procedure.outcome d.inPlace c = c.apply d) ∧
      (∀ (d : Declaration) (e : LoadError), d.isCall = true → (c.apply d).2 = .error e →
        (c.apply d).1 = c) ∧
      ∀ (document : Document) (e : LoadError), (c.addDocument document).2 = .error e →
        document.StopsAt c (c.addDocument document).1 e :=
  ⟨outcome_inPlace c, fun _ _ => apply_of_error, fun _ _ => Document.stopsAt_of_error⟩

/-- A kind, and texts that are marked. -/
def marked : Catalog :=
  empty.applyAll
    [.kind "visitor",
      .pattern (some "Text") [.typeIs (.primitive .string)] [],
      .attach (.pattern ⟨0⟩) "pii" (.bool true)]

/-- A document with a kind, a pattern, a tag for a pattern that is unknown, and a trait. -/
def visits : Document where
  kinds := ["host"]
  patterns := [("Host", { bases := ["Text"], conditions := [.kind "host"] })]
  tags := [("guest", "Guest")]
  traits := [⟨.kind "host", "index", .bool true⟩]

theorem declarations_fail_cleanly_visits :
    (∀ d ∈ [.kind "visitor", .attach (.pattern ⟨0⟩) "pii" .null, .composite "Text" [("a", ⟨0⟩)]],
      (marked.apply d).2.isOk = false ∧ (marked.apply d).1 = marked) ∧
      (marked.addDocument visits).1.kinds = ["visitor", "host"] ∧
      (marked.addDocument visits).1.registry.size = 2 ∧
      ∃ e, (marked.addDocument visits).2 = .error e ∧
        visits.StopsAt marked (marked.addDocument visits).1 e := by
  obtain ⟨-, calls, documents⟩ := declarations_fail_cleanly marked
  have fails : ∀ {x : Except LoadError Unit}, x.isOk = false → ∃ e, x = .error e := by
    intro x h
    cases x with
    | ok _ => simp [Except.isOk, Except.toBool] at h
    | error e => exact ⟨e, rfl⟩
  refine ⟨fun d mem => ?_, by decide +kernel, by decide +kernel, ?_⟩
  · have refused : (marked.apply d).2.isOk = false ∧ d.isCall = true := by
      simp only [List.mem_cons, List.not_mem_nil, or_false] at mem
      rcases mem with rfl | rfl | rfl <;> exact ⟨by decide +kernel, rfl⟩
    obtain ⟨e, failed⟩ := fails refused.1
    exact ⟨refused.1, calls d e refused.2 failed⟩
  · obtain ⟨e, failed⟩ := fails (by decide +kernel : (marked.addDocument visits).2.isOk = false)
    exact ⟨e, failed, documents visits e failed⟩

end Catalog

end ProvenShapes
