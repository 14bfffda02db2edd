/-
**Clauses.**

A clause is one requirement on a value: on its type, its length, its number, its presence, a named
constraint, its nominal kind, the fields that change together with it, or one of its fields.  Two of
them refer to registered patterns, by handle.  A handle is the place of a pattern among all patterns,
as a natural number; this assumes that there are fewer than 2^32 patterns, so that a place always
fits into the 32 bits that a handle is kept in.

Clauses are totally ordered, so that a set of clauses has one canonical form.  The order is read off
a key: the sort of clause first, then its parts.

Main definitions:

* `PatternId` — the handle of a registered pattern;
* `TypeRef` — a primitive type or a pattern used as a type;
* `Clause` — the clauses;
* `Clause.Key`, `Clause.compare` — the order, with the instances `Ord Clause` and `BEq Clause`;
* `Clause.Subject` — what a clause talks about;
* `Clause.reference?`, `Clause.rank` — the pattern a clause refers to, and how far up it reaches;
* `Clause.display` — the text of a clause.
-/

import ProvenShapes.Comparison
import ProvenShapes.Number.Text
import ProvenShapes.Primitive

set_option autoImplicit false

namespace ProvenShapes

/-- The handle of a registered pattern: its place among the patterns. -/
structure PatternId where
  index : Nat
deriving DecidableEq, Repr, Inhabited

/-- The text of a handle. -/
def PatternId.display (id : PatternId) : String := s!"pattern#{id.index}"

/-- What a type clause names: a primitive type, or a pattern that the value must satisfy. -/
inductive TypeRef where
  | primitive (type : Primitive)
  | pattern (id : PatternId)
deriving DecidableEq, Repr

/-- The text of a type reference. -/
def TypeRef.display : TypeRef → String
  | primitive type => type.name
  | pattern id => id.display

/-- One requirement on a value. -/
inductive Clause where
  /-- The value has a type. -/
  | typeIs (type : TypeRef)
  /-- The length of the value compares to a bound. -/
  | length (op : Comparison) (bound : UInt64)
  /-- The value is a number that compares to a bound. -/
  | value (op : Comparison) (bound : Number)
  /-- The value always exists, or only sometimes. -/
  | required (always : Bool)
  /-- The value satisfies a named constraint. -/
  | satisfies (constraint : String)
  /-- The value carries a nominal kind. -/
  | kindOf (kind : String)
  /-- The field changes only together with other fields; their names are sorted. -/
  | changesWith (names : List String)
  /-- The value is an object whose field, where present, satisfies a pattern. -/
  | field (name : String) (pattern : PatternId)
deriving DecidableEq

namespace Clause

instance : Inhabited Clause := ⟨.required false⟩

/-! ### The order -/

/-- The parts that decide the order of clauses, the most significant first. -/
structure Key where
  sort : Nat
  choice : Nat
  amount : Nat
  bound : Number
  names : List String
  target : Nat

/-- The key of a clause. -/
def key : Clause → Key
  | typeIs (.primitive t) => ⟨0, t.index, 0, .int 0, [], 0⟩
  | typeIs (.pattern id) => ⟨0, Primitive.all.length + id.index, 0, .int 0, [], 0⟩
  | length op bound => ⟨1, op.index, bound.toNat, .int 0, [], 0⟩
  | value op bound => ⟨2, op.index, 0, bound, [], 0⟩
  | required always => ⟨3, always.toNat, 0, .int 0, [], 0⟩
  | satisfies constraint => ⟨4, 0, 0, .int 0, [constraint], 0⟩
  | kindOf kind => ⟨5, 0, 0, .int 0, [kind], 0⟩
  | changesWith names => ⟨6, 0, 0, .int 0, names, 0⟩
  | field name pattern => ⟨7, 0, 0, .int 0, [name], pattern.index⟩

/-- The order of clauses. -/
def compare : Clause → Clause → Ordering :=
  compareLex (compareOn fun c => c.key.sort) <|
  compareLex (compareOn fun c => c.key.choice) <|
  compareLex (compareOn fun c => c.key.amount) <|
  compareLex (compareOn fun c => c.key.bound) <|
  compareLex (compareOn fun c => c.key.names) (compareOn fun c => c.key.target)

instance : Ord Clause := ⟨Clause.compare⟩

instance : Std.TransOrd Clause :=
  inferInstanceAs <| Std.TransCmp <|
    compareLex (compareOn fun c : Clause => c.key.sort) <|
    compareLex (compareOn fun c => c.key.choice) <|
    compareLex (compareOn fun c => c.key.amount) <|
    compareLex (compareOn fun c => c.key.bound) <|
    compareLex (compareOn fun c => c.key.names) (compareOn fun c => c.key.target)

/-- Clauses are equal when neither is before the other: numeric bounds count by their value. -/
instance : BEq Clause := ⟨fun a b => Clause.compare a b == .eq⟩

/-! ### What a clause talks about -/

/-- What a clause talks about; only clauses on one subject can be in conflict. -/
inductive Subject where
  | type
  | length
  | value
  | presence
  | constraint
  | kind
  | coMutation
  | field (name : String)
deriving DecidableEq, Repr

/-- The subject of a clause. -/
def subject : Clause → Subject
  | typeIs _ => .type
  | length .. => .length
  | value .. => .value
  | required _ => .presence
  | satisfies _ => .constraint
  | kindOf _ => .kind
  | changesWith _ => .coMutation
  | field name _ => .field name

/-- The clause says something about a single value; a co-mutation clause speaks of commits. -/
def isValuePredicate : Clause → Bool
  | changesWith _ => false
  | _ => true

/-- The pattern a clause refers to. -/
def reference? : Clause → Option PatternId
  | typeIs (.pattern id) => some id
  | field _ id => some id
  | _ => none

/-- How far up the patterns a clause reaches: one more than the pattern it refers to. -/
def rank (c : Clause) : Nat :=
  match c.reference? with
  | some id => id.index + 1
  | none => 0

/-! ### Text -/

/-- The text of a clause. -/
def display : Clause → String
  | typeIs type => s!"type is {type.display}"
  | length op bound => s!"length {op.symbol} {bound.toNat}"
  | value op bound => s!"value {op.symbol} {bound.display}"
  | required true => "always exists"
  | required false => "sometimes exists"
  | satisfies constraint => s!"matches {constraint}"
  | kindOf kind => s!"kind {kind}"
  | changesWith names => "changes with " ++ ", ".intercalate names
  | field name pattern => s!"field {name}: {pattern.display}"

end Clause

end ProvenShapes
