/-
**Constraints.**

A constraint is a named test of a single value: a regular expression that the whole of a text must
match, or a predicate over the values of some primitive type.  Outside its domain a constraint does
not apply.  A predicate may also fail on a value, which is a fault of the predicate.

A regular expression is run as `^(?:…)$` around its text.

Main definitions:

* `Fault` — how a predicate fails, with its `message`;
* `Constraint.Rule` — a regular expression or a predicate;
* `Constraint` — a named rule;
* `Constraint.regex` — the constraint of a regular expression;
* `Constraint.evaluate` — a constraint applied to a value;
* `Constraints` — the constraints declared so far.
-/

import ProvenShapes.Error
import ProvenShapes.Regex.Parser
import ProvenShapes.Text.Blank
import ProvenShapes.Text.Quoted

set_option autoImplicit false

namespace ProvenShapes

/-- How a predicate fails: with a message, or by breaking off, possibly with a last word. -/
inductive Fault where
  | raised (message : String)
  | aborted (payload : Option String)
deriving DecidableEq, Repr

/-- The wording of a fault. -/
def Fault.message : Fault → String
  | raised message => message
  | aborted (some payload) => s!"panicked: {payload}"
  | aborted none => "panicked"

namespace Constraint

/-- What a constraint tests. -/
inductive Rule where
  /-- The whole text matches; `source` is the expression as it was written. -/
  | regex (source : String) (compiled : Regex)
  /-- A test of the values of a primitive type. -/
  | predicate (domain : Primitive) (test : Value → Except Fault Bool)

/-- The primitive type of the values that a rule applies to. -/
def Rule.domain : Rule → Primitive
  | regex .. => .string
  | predicate domain _ => domain

/-- A description of a rule. -/
def Rule.display : Rule → String
  | regex source _ => s!"Regex({Text.quoted source})"
  | predicate domain _ => s!"Predicate({domain.name})"

end Constraint

/-- A named rule. -/
structure Constraint where
  id : String
  rule : Constraint.Rule

namespace Constraint

/-- The text that is run for an expression: the expression between the ends of the text. -/
def anchored (source : String) : String := "^(?:" ++ source ++ ")$"

/-- The constraint of a regular expression. -/
def regex (id source : String) : Except Error Constraint :=
  match Regex.parse? (anchored source) with
  | some compiled => .ok ⟨id, .regex source compiled⟩
  | none => .error (.invalidRegex id)

/-- The constraint of a predicate. -/
def predicate (id : String) (domain : Primitive) (test : Value → Except Fault Bool) : Constraint :=
  ⟨id, .predicate domain test⟩

/-- The value belongs to the domain of the constraint. -/
def applies (c : Constraint) (v : Value) : Bool :=
  match v.primitive? with
  | some t => t.subtypeOf c.rule.domain
  | none => false

/-- The constraint applied to a value. -/
def evaluate (c : Constraint) (v : Value) : Except Error Bool :=
  if c.applies v then
    match c.rule with
    | .regex _ compiled =>
        match v with
        | .string s => .ok (compiled.isMatch s)
        | _ => .ok false
    | .predicate _ test =>
        match test v with
        | .ok b => .ok b
        | .error fault => .error (.constraintFault c.id fault.message)
  else .error (.outsideDomain c.id c.rule.domain v.typeName)

end Constraint

/-- The constraints declared so far, in their order. -/
abbrev Constraints := List Constraint

namespace Constraints

/-- The constraint with a name. -/
def find? (cs : Constraints) (id : String) : Option Constraint := List.find? (fun c => c.id == id) cs

/-- A constraint has the name. -/
def contains (cs : Constraints) (id : String) : Bool := (cs.find? id).isSome

/-- The constraints with one more; its name must be new and not blank. -/
def add (cs : Constraints) (c : Constraint) : Except Error Constraints :=
  if Text.isBlank c.id then .error (.invalidName .constraint c.id)
  else if cs.contains c.id then .error (.alreadyExists .constraint c.id)
  else .ok (cs ++ [c])

end Constraints

end ProvenShapes
