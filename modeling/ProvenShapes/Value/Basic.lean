/-
**Values.**

A value is a piece of plain data: null, a truth value, a number, a text, an array or an object whose
fields are sorted by name.  One more value, `undefined`, stands for a field that is absent.

Main definitions:

* `Value` — the values;
* `Value.record` — the object of a list of fields;
* `Value.primitive?`, `Value.typeName`, `Value.length?` — what patterns ask of a value;
* `Value.get?`, `Value.field`, `Value.item`, `Value.setField` — access to the parts;
* `Value.AccessError` — why an access fails, with its `message`.
-/

import ProvenShapes.Keyed
import ProvenShapes.Number.Basic
import ProvenShapes.Primitive

set_option autoImplicit false

namespace ProvenShapes

/-- Plain data.  The fields of an object are sorted by name, and no name occurs twice. -/
inductive Value where
  | null
  | bool (b : Bool)
  | number (n : Number)
  | string (s : String)
  | array (items : List Value)
  | object (fields : List (String × Value))
  | undefined
deriving Inhabited

namespace Value

/-- The object of a list of fields; of fields with one name the last one counts. -/
def record (fields : List (String × Value)) : Value := .object (Keyed.ofList fields)

/-- The value stands for an absent field. -/
def isUndefined : Value → Bool
  | undefined => true
  | _ => false

/-- The primitive type of a value; the absent value has none. -/
def primitive? : Value → Option Primitive
  | null => some .null
  | bool _ => some .boolean
  | number n => some (if n.isInteger then .integer else .number)
  | string _ => some .string
  | array _ => some .array
  | object _ => some .object
  | undefined => none

/-- The name of a value's type. -/
def typeName (v : Value) : String :=
  match v.primitive? with
  | some t => t.name
  | none => "undefined"

/-- The length of a value: characters of a text, items of an array, fields of an object. -/
def length? : Value → Option Nat
  | string s => some s.length
  | array items => some items.length
  | object fields => some fields.length
  | _ => none

/-! ### Access -/

/-- Why a value cannot be used in some way. -/
inductive AccessError where
  | notString
  | notNumber
  | notArray
  | notObject
  | cannotSet (field : String) (typeName : String)
deriving DecidableEq, Repr

/-- The wording of an access error. -/
def AccessError.message : AccessError → String
  | notString => "not a string"
  | notNumber => "not a number"
  | notArray => "not an array"
  | notObject => "not an object"
  | cannotSet field typeName => s!"cannot set field `{field}` on {typeName}"

/-- The text of a value that is one. -/
def asString : Value → Except AccessError String
  | string s => .ok s
  | _ => .error .notString

/-- The number of a value that is one. -/
def asNumber : Value → Except AccessError Number
  | number n => .ok n
  | _ => .error .notNumber

/-- The items of a value that is an array. -/
def asArray : Value → Except AccessError (List Value)
  | array items => .ok items
  | _ => .error .notArray

/-- The fields of a value that is an object. -/
def asObject : Value → Except AccessError (List (String × Value))
  | object fields => .ok fields
  | _ => .error .notObject

/-- The value of a field, if the value is an object that has it. -/
def get? (v : Value) (field : String) : Option Value :=
  match v with
  | object fields => Keyed.find? field fields
  | _ => none

/-- The value of a field, or the absent value. -/
def field (v : Value) (field : String) : Value := (v.get? field).getD undefined

/-- The item at an index, or the absent value. -/
def item (v : Value) (index : Nat) : Value :=
  match v with
  | array items => (items[index]?).getD undefined
  | _ => undefined

/-- Writes a field of an object; the absent value becomes an object first. -/
def setField (v : Value) (field : String) (new : Value) : Except AccessError Value :=
  match v with
  | undefined => .ok (object (Keyed.put field new []))
  | object fields => .ok (object (Keyed.put field new fields))
  | other => .error (.cannotSet field other.typeName)

end Value

end ProvenShapes
