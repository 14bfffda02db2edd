/-
**Applying documents.**

The sections of a document are applied in a fixed order, and within a section its entries in theirs,
so that references point backwards.  Application stops at the first failure, and what was applied
before it stays.

Main definitions:

* `LoadError` — why a document is not applied, or not to its end;
* `Document.clause` — the clause that a condition stands for in a catalog;
* `Document.steps` — the declarations of a document, one by one;
* `Catalog.addDocument` — **a document applied to a catalog**.
-/

import ProvenShapes.Catalog.Declare
import ProvenShapes.Document.Basic

set_option autoImplicit false

namespace ProvenShapes

/-- A text format of documents. -/
inductive Format where
  | json
  | yaml
deriving DecidableEq, Repr

/-- Why a document is not applied, or not to its end. -/
inductive LoadError where
  /-- The text is no document of its format. -/
  | malformed (format : Format)
  /-- There is no such file. -/
  | unreadable (file : String)
  /-- The name of the file does not tell a format. -/
  | unsupported (file : String)
  /-- The bound of a value is infinite or not a number. -/
  | unboundedValue
  /-- A declaration was refused, possibly in the course of registering a pattern. -/
  | refused (pattern : Option String) (cause : Error)

namespace LoadError

/-- The wording of a load error, but for malformed text. -/
def message : LoadError → String
  | malformed _ => ""
  | unreadable file => s!"failed to read {file}"
  | unsupported file => s!"unsupported declaration file {file}"
  | unboundedValue => "value bound must be finite"
  | refused none cause => cause.message
  | refused (some pattern) cause => s!"while registering pattern `{pattern}`: {cause.message}"

/-- A refused declaration as a load error. -/
def ofRefusal {α : Type} : Except Error α → Except LoadError α
  | .ok a => .ok a
  | .error e => .error (.refused none e)

end LoadError

namespace Document

/-- The clause that a condition stands for. -/
def clause (c : Catalog) : Condition → Except LoadError Clause
  | .type name =>
      match Primitive.ofName? name with
      | some t => .ok (.typeIs (.primitive t))
      | none => do return .typeIs (.pattern (← LoadError.ofRefusal (c.registry.lookup name)))
  | .length op bound => .ok (.length op bound)
  | .value op bound => if bound.isFinite then .ok (.value op bound) else .error .unboundedValue
  | .required always => .ok (.required always)
  | .satisfies constraint => .ok (.satisfies constraint)
  | .kind name => .ok (.kindOf name)
  | .changesWith fields => .ok (.changesWith (Names.ofList fields))
  | .field name pattern => do return .field name (← LoadError.ofRefusal (c.registry.lookup pattern))

/-- The handles of named patterns. -/
def lookups (c : Catalog) (names : List String) : Except LoadError (List PatternId) :=
  names.mapM fun name => LoadError.ofRefusal (c.registry.lookup name)

/-- Registers a pattern as it is written down. -/
def addPattern (name : String) (shape : Shape) (c : Catalog) : Except LoadError Catalog := do
  let clauses ← shape.conditions.mapM (clause c)
  let bases ← lookups c shape.bases
  match c.registerPattern (some name) clauses bases with
  | .ok (d, _) => .ok d
  | .error e => .error (.refused (some name) e)

/-- Declares a tag for a named pattern. -/
def addTag (id pattern : String) (c : Catalog) : Except LoadError Catalog :=
  LoadError.ofRefusal do c.declareTag id (← c.registry.lookup pattern)

/-- Declares a composite as it is written down. -/
def addComposite (name : String) (record : Record) (c : Catalog) : Except LoadError Catalog :=
  LoadError.ofRefusal do
    let fields ← record.fields.mapM fun f => do return (f.1, ← c.registry.lookup f.2)
    return (← c.declareComposite name fields).1

/-- Attaches a trait as it is written down. -/
def addNote (note : Note) (c : Catalog) : Except LoadError Catalog :=
  LoadError.ofRefusal do
    let point ← match note.place with
      | .pattern name => do pure (.pattern (← c.registry.lookup name))
      | .kind name => pure (.kind name)
      | .field composite name => pure (.field composite name)
    c.addTrait point note.key note.value

/-- The declarations of a document, one by one. -/
def steps (d : Document) : List (Catalog → Except LoadError Catalog) :=
  (d.options.toList.map fun options c => .ok { c with options }) ++
  (d.constraints.map fun entry c => LoadError.ofRefusal (c.addRegex entry.1 entry.2)) ++
  (d.kinds.map fun kind c => LoadError.ofRefusal (c.declareKind kind)) ++
  (d.patterns.map fun entry => addPattern entry.1 entry.2) ++
  (d.tags.map fun entry => addTag entry.1 entry.2) ++
  (d.composites.map fun entry => addComposite entry.1 entry.2) ++
  d.traits.map addNote

/-- Declarations carried out one after the other, up to the first failure. -/
def applySteps (c : Catalog) :
    List (Catalog → Except LoadError Catalog) → Catalog × Except LoadError Unit
  | [] => (c, .ok ())
  | step :: rest =>
      match step c with
      | .ok d => applySteps d rest
      | .error e => (c, .error e)

end Document

/-- Applies a document to a catalog; gives the catalog with all that was applied. -/
def Catalog.addDocument (c : Catalog) (d : Document) : Catalog × Except LoadError Unit :=
  Document.applySteps c d.steps

end ProvenShapes
