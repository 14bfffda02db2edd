/-
**Comparisons.**

The six comparison operators, read through an ordering.

Main definitions:

* `Comparison` — the operators in their order;
* `Comparison.admits` — the outcomes of a comparison that satisfy an operator;
* `Comparison.apply` — an operator between two members of an ordered type.
-/

set_option autoImplicit false

namespace ProvenShapes

/-- A comparison operator. -/
inductive Comparison where
  | lt
  | le
  | gt
  | ge
  | eq
  | ne
deriving DecidableEq, Repr, Inhabited

namespace Comparison

/-- All operators in their order. -/
def all : List Comparison := [lt, le, gt, ge, eq, ne]

/-- The place of an operator in the order of operators. -/
def index : Comparison → Nat
  | lt => 0
  | le => 1
  | gt => 2
  | ge => 3
  | eq => 4
  | ne => 5

/-- The symbol of an operator. -/
def symbol : Comparison → String
  | lt => "<"
  | le => "<="
  | gt => ">"
  | ge => ">="
  | eq => "=="
  | ne => "!="

/-- The operator with a symbol. -/
def ofSymbol? (s : String) : Option Comparison := all.find? fun op => op.symbol == s

/-- The outcome of a comparison satisfies the operator. -/
def admits : Comparison → Ordering → Bool
  | lt, o => o == .lt
  | le, o => o != .gt
  | gt, o => o == .gt
  | ge, o => o != .lt
  | eq, o => o == .eq
  | ne, o => o != .eq

/-- The operator holds between two members of an ordered type. -/
def apply {α : Type} [Ord α] (op : Comparison) (a b : α) : Bool := op.admits (compare a b)

end Comparison

end ProvenShapes
