/-
**Options.**

Main definitions:

* `Options` — the switches that checking and evaluating share, with their defaults.
-/

set_option autoImplicit false

namespace ProvenShapes

/-- The switches that checking and evaluating share. -/
structure Options where
  /-- Clauses of a literal are proven by evaluating them when it is checked. -/
  literalProofs : Bool := true
  /-- Validation stops at the first clause that fails. -/
  shortCircuit : Bool := true
  /-- How deep references between patterns are followed when a value is evaluated. -/
  maxNesting : Nat := 32
deriving DecidableEq, Repr, Inhabited

end ProvenShapes
