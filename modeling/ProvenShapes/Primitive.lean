/-
**Primitive types.**

Every value has one of seven primitive types; `any` is the type of all of them, and integers are
numbers.

Main definitions:

* `Primitive` — the primitive types;
* `Primitive.name`, `Primitive.ofName?` — their names, two of which have a short form;
* `Primitive.subtypeOf`, `Primitive.overlaps` — inclusion, and having a common value.
-/

set_option autoImplicit false

namespace ProvenShapes

/-- The primitive types. -/
inductive Primitive where
  | any
  | null
  | boolean
  | integer
  | number
  | string
  | array
  | object
deriving DecidableEq, Repr, Inhabited

namespace Primitive

/-- All primitive types in their order. -/
def all : List Primitive := [any, null, boolean, integer, number, string, array, object]

/-- The place of a type in the order of types. -/
def index : Primitive → Nat
  | any => 0
  | null => 1
  | boolean => 2
  | integer => 3
  | number => 4
  | string => 5
  | array => 6
  | object => 7

/-- The name of a type. -/
def name : Primitive → String
  | any => "any"
  | null => "null"
  | boolean => "boolean"
  | integer => "integer"
  | number => "number"
  | string => "string"
  | array => "array"
  | object => "object"

/-- The type with exactly this name. -/
def named? (s : String) : Option Primitive := all.find? fun t => t.name == s

/-- The type a name denotes; booleans and integers have a short name too. -/
def ofName? (s : String) : Option Primitive :=
  if s = "bool" then some boolean
  else if s = "int" then some integer
  else named? s

/-- Every value of the first type is one of the second. -/
def subtypeOf (s t : Primitive) : Bool :=
  s == t || t == any || (s == integer && t == number)

/-- Some value belongs to both types. -/
def overlaps (s t : Primitive) : Bool := s.subtypeOf t || t.subtypeOf s

theorem overlaps_comm (s t : Primitive) : s.overlaps t = t.overlaps s := by
  simp [overlaps, Bool.or_comm]

end Primitive

end ProvenShapes
