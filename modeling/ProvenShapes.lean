import ProvenShapes.Catalog.Commit
import ProvenShapes.Checker.Plan
import ProvenShapes.Document.Load
import ProvenShapes.Proofs.Interval
import ProvenShapes.Value.Order
import ProvenShapes.Proofs.Orders
import ProvenShapes.Proofs.ExactBounds
import ProvenShapes.Proofs.Number.Coarse
import ProvenShapes.Proofs.Lengths
import ProvenShapes.Proofs.EqualValues
import ProvenShapes.Proofs.Clause
import ProvenShapes.Proofs.Evaluation
import ProvenShapes.Proofs.Entailment
import ProvenShapes.Proofs.Subsumption
import ProvenShapes.Proofs.Operations
import ProvenShapes.Proofs.Residue
import ProvenShapes.Proofs.Provenance
import ProvenShapes.Proofs.Kinds
import ProvenShapes.Proofs.Identity
import ProvenShapes.Proofs.Descent
import ProvenShapes.Proofs.Closure
import ProvenShapes.Proofs.Walks
import ProvenShapes.Proofs.Errors
import ProvenShapes.Proofs.Lookups
import ProvenShapes.Proofs.Stability
import ProvenShapes.Proofs.HeldPlans
import ProvenShapes.Proofs.Connectivity
import ProvenShapes.Proofs.Commits
import ProvenShapes.Proofs.Records
import ProvenShapes.Proofs.Frames
import ProvenShapes.Proofs.Failures
import ProvenShapes.Proofs.Chains
import ProvenShapes.Proofs.KindWalks
import ProvenShapes.Proofs.Preorder
import ProvenShapes.Proofs.Literals
import ProvenShapes.Proofs.Contradiction
import ProvenShapes.Proofs.CoMutation
import ProvenShapes.Proofs.Comparisons
import ProvenShapes.Proofs.References
import ProvenShapes.Proofs.TypeClashes
import ProvenShapes.Proofs.ShortCircuit
import ProvenShapes.Proofs.Canonical
import ProvenShapes.Proofs.Revalidation
import ProvenShapes.Proofs.Supersets
import ProvenShapes.Proofs.Number.Shortest
import ProvenShapes.Proofs.Number.Numeral
import ProvenShapes.Proofs.Number.Reading
import ProvenShapes.Proofs.Json.Lexing
import ProvenShapes.Proofs.Json.RoundTrip
import ProvenShapes.Proofs.Regex.Runs
import ProvenShapes.Proofs.Regex.Pasting
import ProvenShapes.Proofs.Regex.Anchored
