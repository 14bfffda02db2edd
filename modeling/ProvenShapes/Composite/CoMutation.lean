/-
**Co-mutation.**

A field that changes with another one is joined to it, in both directions.  Fields that are connected
along such joints must be written together: a commit that writes one of them writes all of them.

The components are found once, when a composite is declared.  From each joined field that has no
place yet, a search visits the fields along the joints, the one that was pushed last first, and gives
all that it finds one place in the list of components.  A field may be pushed more than once before
it is visited; it is dropped when its turn comes again.

Main definitions:

* `Joints` — the joined fields, each with its neighbours;
* `Joints.ofFields` — the joints that the patterns of fields ask for;
* `Search`, `Search.visit`, `Search.run` — a search along joints, one visit of it, and all of it;
* `CoMutation` — the place of each joined field, and the components;
* `CoMutation.ofJoints`, `CoMutation.ofFields` — the components of joints, and of fields;
* `CoMutation.component` — the sorted fields that are written together with a field;
* `CoMutation.missing` — the fields that a commit should have written too.
-/

import ProvenShapes.Registry.Kinds

set_option autoImplicit false

namespace ProvenShapes

/-! ### Joints -/

/-- The joined fields, each with its neighbours; fields and neighbours are sorted. -/
abbrev Joints := List (String × List String)

namespace Joints

/-- The fields one joint away from a field. -/
def neighbours (j : Joints) (field : String) : List String := (Keyed.find? field j).getD []

/-- One more joint, which is listed at both of its ends. -/
def join (j : Joints) (a b : String) : Joints := Names.insertAt b a (Names.insertAt a b j)

/-- The names that the co-mutation clauses of a set mention. -/
def peers (s : ClauseSet) : List String :=
  s.toList.flatMap fun c =>
    match c with
    | .changesWith names => names
    | _ => []

/-- Joins a field to its peers, each of which must be a field. -/
def joinAll (composite : String) (fields : List (String × PatternId)) (field : String) (j : Joints) :
    List String → Except Error Joints
  | [] => .ok j
  | peer :: rest =>
      if fields.any fun f => f.1 == peer then
        joinAll composite fields field (j.join field peer) rest
      else .error (.unknownField composite peer)

/-- Adds the joints that the patterns of some of the fields ask for. -/
def extend (r : Registry) (composite : String) (fields : List (String × PatternId)) (j : Joints) :
    List (String × PatternId) → Except Error Joints
  | [] => .ok j
  | (field, id) :: rest => do
      let s ← r.resolve id
      let more ← joinAll composite fields field j (peers s)
      extend r composite fields more rest

/-- The joints that the patterns of the fields of a composite ask for. -/
def ofFields (r : Registry) (composite : String) (fields : List (String × PatternId)) :
    Except Error Joints :=
  extend r composite fields [] fields

/-- How many joints lead away from fields that are not found yet. -/
def remaining (found : List String) : Joints → Nat
  | [] => 0
  | entry :: rest =>
      (if found.contains entry.1 then 0 else entry.2.length) + remaining found rest

/-- With a field that is found, its own joints are done with. -/
theorem remaining_insert {field : String} {found : List String} (fresh : field ∉ found)
    (j : Joints) :
    j.remaining (Names.insert field found) + (j.neighbours field).length ≤ j.remaining found := by
  induction j with
  | nil => simp [remaining, neighbours, Keyed.find?]
  | cons entry rest ih =>
      have kept : (Names.insert field found).contains entry.1 =
          (entry.1 == field || found.contains entry.1) := by
        rw [Bool.eq_iff_iff]
        simp [Names.mem_insert]
      simp only [remaining, neighbours, Keyed.find?, kept] at ih ⊢
      by_cases same : field = entry.1
      · subst same
        have rest_le : remaining (Names.insert entry.1 found) rest ≤ remaining found rest := by omega
        simp [fresh, rest_le, Nat.add_comm]
      · have apart : compare field entry.1 ≠ .eq := fun h => same (Std.LawfulEqCmp.eq_of_compare h)
        have other : (entry.1 == field) = false := by simpa using Ne.symm same
        simp only [if_neg apart, other, Bool.false_or]
        omega

end Joints

/-! ### Searching along joints -/

/-- A search along joints: the fields to be visited, those that are found, and the places given to
fields in this search and before it. -/
structure Search where
  pending : List String
  component : List String
  places : List (String × Nat)

namespace Search

/-- Visits a field, which is the next one, while the others wait. -/
def visit (j : Joints) (place : Nat) (q : Search) (field : String) (waiting : List String) : Search :=
  if q.component.contains field then { q with pending := waiting }
  else
    let component := Names.insert field q.component
    -- what is pushed last is visited first
    { pending := ((j.neighbours field).filter fun f => !component.contains f).reverse ++ waiting
      component := component
      places := Keyed.put field place q.places }

/-- What is left to do: the fields to be visited, and the joints of fields that are not found yet. -/
def effort (j : Joints) (q : Search) : Nat := q.pending.length + j.remaining q.component

theorem effort_visit_lt {j : Joints} {place : Nat} {q : Search} {field : String}
    {waiting : List String} (next : q.pending = field :: waiting) :
    (q.visit j place field waiting).effort j < q.effort j := by
  unfold visit effort
  split
  · simp [next]
  · next fresh =>
      have fewer := j.remaining_insert (by simpa using fresh : field ∉ q.component)
      have pushed := List.length_filter_le
        (fun f => !(Names.insert field q.component).contains f) (j.neighbours field)
      simp only [next, List.length_append, List.length_reverse, List.length_cons]
      omega

/-- Visits fields until none is left. -/
def run (j : Joints) (place : Nat) (q : Search) : Search :=
  match _ : q.pending with
  | [] => q
  | field :: waiting => run j place (q.visit j place field waiting)
termination_by q.effort j
decreasing_by exact effort_visit_lt (by assumption)

end Search

/-! ### Components -/

/-- The place of each joined field in the list of components. -/
structure CoMutation where
  places : List (String × Nat)
  components : List (List String)
deriving DecidableEq, Repr, Inhabited

namespace CoMutation

/-- Finds the component of a field that has no place yet. -/
def explore (j : Joints) (g : CoMutation) (start : String) : CoMutation :=
  if Keyed.contains start g.places then g
  else
    let found := Search.run j g.components.length ⟨[start], [], g.places⟩
    ⟨found.places, g.components ++ [found.component]⟩

/-- The components that joints make. -/
def ofJoints (j : Joints) : CoMutation := (j.map Prod.fst).foldl (explore j) ⟨[], []⟩

/-- The components that the patterns of the fields of a composite ask for. -/
def ofFields (r : Registry) (composite : String) (fields : List (String × PatternId)) :
    Except Error CoMutation := do
  return ofJoints (← Joints.ofFields r composite fields)

/-- The fields that are written together with a field, itself included, in ascending order. -/
def component (g : CoMutation) (field : String) : List String :=
  match Keyed.find? field g.places with
  | some place => g.components[place]?.getD []
  | none => [field]

/-- The fields that a commit of the given ones should have written too, in ascending order. -/
def missing (g : CoMutation) (written : List String) : List String :=
  Names.ofList ((written.flatMap g.component).filter fun f => !written.contains f)

end CoMutation

end ProvenShapes
