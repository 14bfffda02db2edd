/-
**The order of values.**

Values are ordered by their sort first, in the order null, truth values, numbers, texts, arrays,
objects, the absent value, and then by content: arrays item by item, objects entry by entry, a
proper beginning standing before what continues it.  Equality is decided on its own: values are equal
when they are of one sort and have equal parts.

Main definitions:

* `Value.compare` — the order, with the instance `Ord Value`;
* `Value.equal` — equality, with the instance `BEq Value`;
* `Value.sort` — a list in ascending order, equal values in their given order;
* `Value.distinct` — how many different values a list has.
-/

import ProvenShapes.Value.Basic

set_option autoImplicit false

namespace ProvenShapes.Value

/-- The place of a value's sort in the order. -/
def rank : Value → Nat
  | null => 0
  | bool _ => 1
  | number _ => 2
  | string _ => 3
  | array _ => 4
  | object _ => 5
  | undefined => 6

mutual

/-- The order of values. -/
def compare : Value → Value → Ordering
  | bool a, bool b => Ord.compare a b
  | number a, number b => Ord.compare a b
  | string a, string b => Ord.compare a b
  | array a, array b => compareItems a b
  | object a, object b => compareFields a b
  | a, b => Ord.compare a.rank b.rank

/-- Lists of values are ordered item by item. -/
def compareItems : List Value → List Value → Ordering
  | [], [] => .eq
  | [], _ :: _ => .lt
  | _ :: _, [] => .gt
  | a :: as, b :: bs => (compare a b).then (compareItems as bs)

/-- Lists of fields are ordered entry by entry, the name before the value. -/
def compareFields : List (String × Value) → List (String × Value) → Ordering
  | [], [] => .eq
  | [], _ :: _ => .lt
  | _ :: _, [] => .gt
  | (j, a) :: as, (k, b) :: bs => ((Ord.compare j k).then (compare a b)).then (compareFields as bs)

end

instance : Ord Value := ⟨Value.compare⟩

mutual

/-- Equality of values; numbers are equal by value. -/
def equal : Value → Value → Bool
  | null, null => true
  | bool a, bool b => a == b
  | number a, number b => a == b
  | string a, string b => a == b
  | array a, array b => equalItems a b
  | object a, object b => equalFields a b
  | undefined, undefined => true
  | _, _ => false

/-- Lists of values are equal item by item. -/
def equalItems : List Value → List Value → Bool
  | [], [] => true
  | a :: as, b :: bs => equal a b && equalItems as bs
  | _, _ => false

/-- Lists of fields are equal entry by entry. -/
def equalFields : List (String × Value) → List (String × Value) → Bool
  | [], [] => true
  | (j, a) :: as, (k, b) :: bs => j == k && equal a b && equalFields as bs
  | _, _ => false

end

instance : BEq Value := ⟨Value.equal⟩

/-- The values in ascending order; equal ones keep their order. -/
def sort (values : List Value) : List Value :=
  values.mergeSort fun a b => Value.compare a b != .gt

/-- How many different values a list has. -/
def distinct (values : List Value) : Nat :=
  (values.foldl (fun seen v => Keyed.put v () seen) []).length

end ProvenShapes.Value
