/-
**What can go wrong.**

Declaring, checking and validating fail with a cause, and each cause has one wording.  A few causes
are failures of data at run time, which a caller is expected to handle; the others are mistakes in a
declaration or in a check.

Main definitions:

* `Error` — the causes;
* `Error.message` — the wording of a cause;
* `Error.recoverable` — the causes that callers handle.
-/

import ProvenShapes.Clause.Basic
import ProvenShapes.Json.Writer

set_option autoImplicit false

namespace ProvenShapes

/-- The collections in which names are unique. -/
inductive Collection where
  | pattern
  | constraint
  | kind
  | tag
  | composite
  | field
  | metadata
  | binding
deriving DecidableEq, Repr

/-- The name of a collection. -/
def Collection.label : Collection → String
  | pattern => "Pattern"
  | constraint => "Constraint"
  | kind => "Kind"
  | tag => "Tag"
  | composite => "Composite"
  | field => "Field"
  | metadata => "Trait"
  | binding => "Binding"

/-- Why declaring, checking or validating fails. -/
inductive Error where
  /-- Two clauses of a pattern can never hold together. -/
  | contradictory (pattern : String) (first second : Clause)
  /-- A kind is declared twice. -/
  | duplicateKind (kind : String)
  /-- Clauses of a binding's pattern are not proven of what is assigned to it. -/
  | unproven (binding : String) (missing : List Clause)
  /-- A value does not satisfy a clause. -/
  | invalidData (clause : Clause) (value : Value) (failures : Nat)
  /-- A value does not carry a tag. -/
  | missingTag (tag : String) (clause : Clause)
  /-- A constraint failed on a value of its domain. -/
  | constraintFault (constraint message : String)
  /-- A commit writes a field without those that change with it. -/
  | incompleteCoMutation (composite : String) (missing : List String)
  /-- A constraint was applied outside its domain. -/
  | outsideDomain (constraint : String) (expected : Primitive) (actual : String)
  /-- The text of a constraint is no regular expression. -/
  | invalidRegex (constraint : String)
  /-- A name is empty or blank. -/
  | invalidName (collection : Collection) (name : String)
  /-- A name is taken. -/
  | alreadyExists (collection : Collection) (name : String)
  | unknownPattern (name : String)
  | unknownConstraint (name : String)
  | unknownKind (name : String)
  | unknownTag (name : String)
  | unknownBinding (name : String)
  | unknownComposite (name : String)
  | unknownField (composite field : String)
  /-- The store refused a write. -/
  | storage (message : String)

namespace Error

/-- Items between grave accents, separated by commas. -/
def listed (items : List String) : String :=
  ", ".intercalate (items.map fun item => "`" ++ item ++ "`")

/-- How many clauses failed, if it was more than one. -/
def failureCount (failures : Nat) : String :=
  if 1 < failures then s!" ({failures} clauses failed)" else ""

/-- The wording of a cause. -/
def message : Error → String
  | contradictory pattern first second =>
      s!"pattern `{pattern}` is contradictory: `{first.display}` conflicts with `{second.display}`"
  | duplicateKind kind => s!"kind `{kind}` is already declared"
  | unproven binding missing =>
      s!"cannot prove assignment to `{binding}`: missing {listed (missing.map Clause.display)}"
  | invalidData clause value failures =>
      s!"value {value.display} does not satisfy `{clause.display}`{failureCount failures}"
  | missingTag tag clause => s!"value does not carry tag `{tag}`: `{clause.display}` does not hold"
  | constraintFault constraint message =>
      s!"constraint `{constraint}` failed to evaluate: {message}"
  | incompleteCoMutation composite missing =>
      s!"commit to `{composite}` is missing co-mutated field(s) {listed missing}"
  | outsideDomain constraint expected actual =>
      s!"constraint `{constraint}` expects {expected.name}, got {actual}"
  | invalidRegex constraint => s!"constraint `{constraint}` has an invalid regex"
  | invalidName collection name =>
      s!"{collection.label} registration failed: the name `{name}` is invalid " ++
        "(empty or whitespace-only names are not allowed)"
  | alreadyExists collection name =>
      s!"{collection.label} registration failed: an item with the name `{name}` is already " ++
        "registered"
  | unknownPattern name => s!"unknown pattern `{name}`"
  | unknownConstraint name => s!"unknown constraint `{name}`"
  | unknownKind name => s!"unknown kind `{name}`"
  | unknownTag name => s!"unknown tag `{name}`"
  | unknownBinding name => s!"unknown binding `{name}`"
  | unknownComposite name => s!"unknown composite `{name}`"
  | unknownField composite field => s!"composite `{composite}` has no field `{field}`"
  | storage message => s!"storage failure: {message}"

/-- A failure of data that the caller is expected to handle. -/
def recoverable : Error → Bool
  | invalidData .. | missingTag .. | incompleteCoMutation .. | outsideDomain .. => true
  | _ => false

end Error

end ProvenShapes
