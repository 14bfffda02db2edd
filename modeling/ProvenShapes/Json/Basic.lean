/-
**JSON documents.**

A document is kept as it was written: the entries of an object in their order with repetitions, and
numbers with the difference between whole ones and others, because both matter to what is decoded
from it.

Main definitions:

* `Json.Literal` — a number as written: a whole number in the range of 64-bit words, or a double;
* `Json` — documents;
* `Json.toValue` — the value a document denotes.
-/

import ProvenShapes.Value.Basic

set_option autoImplicit false

namespace ProvenShapes

/-- A number as it was written.  Whole numbers are those from `-2 ^ 63` to `2 ^ 64 - 1`, except for
the negative zero. -/
inductive Json.Literal where
  | whole (n : Int)
  | real (d : Double)
deriving DecidableEq

/-- A JSON document as it was written. -/
inductive Json where
  | null
  | bool (b : Bool)
  | number (n : Json.Literal)
  | string (s : String)
  | array (items : List Json)
  | object (entries : List (String × Json))
deriving Inhabited

namespace Json

/-- The number a literal denotes. -/
def Literal.toNumber : Literal → Number
  | whole n => .ofInt n
  | real d => .ofDouble d

mutual

/-- The value a document denotes. -/
def toValue : Json → Value
  | null => .null
  | bool b => .bool b
  | number n => .number n.toNumber
  | string s => .string s
  | array items => .array (itemValues items)
  | object entries => .record (entryValues entries)

/-- The values of a list of documents. -/
def itemValues : List Json → List Value
  | [] => []
  | item :: rest => item.toValue :: itemValues rest

/-- The values of a list of entries. -/
def entryValues : List (String × Json) → List (String × Value)
  | [] => []
  | (key, item) :: rest => (key, item.toValue) :: entryValues rest

end

end Json

end ProvenShapes
