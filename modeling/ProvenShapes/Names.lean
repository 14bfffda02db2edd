/-
**Sorted names.**

Sets of names are kept as ascending lists.

Main definitions:

* `Names.insert` — a name put into its place;
* `Names.ofList` — the ascending list of some names;
* `Names.insertAt` — one more name under a key of a sorted map.

Main results:

* `Names.mem_insert`, `Names.mem_ofList`, `Names.mem_insertAt` — no name is lost and none is added;
* `Names.ascending_insert`, `Names.ascending_ofList` — the lists ascend, so no name occurs twice.
-/

import ProvenShapes.Keyed

set_option autoImplicit false

namespace ProvenShapes.Names

variable {κ : Type} [Ord κ]

/-- A name put into its place in an ascending list, unless it is there. -/
def insert (name : String) : List String → List String
  | [] => [name]
  | other :: rest =>
      match compare name other with
      | .lt => name :: other :: rest
      | .eq => other :: rest
      | .gt => other :: insert name rest

/-- Names in ascending order, each once. -/
def ofList (names : List String) : List String := names.foldl (fun sorted n => insert n sorted) []

/-- One more name under a key of a sorted map of names. -/
def insertAt (key : κ) (name : String) (m : List (κ × List String)) : List (κ × List String) :=
  Keyed.put key (insert name ((Keyed.find? key m).getD [])) m

theorem mem_insert {x name : String} {l : List String} :
    x ∈ insert name l ↔ x = name ∨ x ∈ l := by
  induction l with
  | nil => simp [insert]
  | cons other rest ih =>
      unfold insert
      split
      · simp
      · next h => simp [Std.LawfulEqCmp.eq_of_compare h]
      · simp [ih, or_left_comm]

theorem ascending_insert {name : String} {l : List String}
    (h : l.Pairwise fun a b => compare a b = .lt) :
    (insert name l).Pairwise fun a b => compare a b = .lt := by
  induction l with
  | nil => simp [insert]
  | cons other rest ih =>
      obtain ⟨first, tail⟩ := List.pairwise_cons.1 h
      unfold insert
      split
      · next lt =>
          refine List.pairwise_cons.2 ⟨fun x hx => ?_, h⟩
          rcases List.mem_cons.1 hx with rfl | hx
          · exact lt
          · exact Std.TransCmp.lt_trans lt (first x hx)
      · exact h
      · next gt =>
          refine List.pairwise_cons.2 ⟨fun x hx => ?_, ih tail⟩
          rcases mem_insert.1 hx with rfl | hx
          · exact Std.OrientedCmp.lt_of_gt gt
          · exact first x hx

theorem mem_foldl_insert {x : String} {names sorted : List String} :
    x ∈ names.foldl (fun sorted n => insert n sorted) sorted ↔ x ∈ names ∨ x ∈ sorted := by
  induction names generalizing sorted with
  | nil => simp
  | cons name rest ih => simp [ih, mem_insert, or_assoc, or_left_comm]

theorem mem_ofList {x : String} {names : List String} : x ∈ ofList names ↔ x ∈ names := by
  simp [ofList, mem_foldl_insert]

theorem ascending_ofList (names : List String) :
    (ofList names).Pairwise fun a b => compare a b = .lt := by
  suffices h : ∀ sorted : List String, sorted.Pairwise (fun a b => compare a b = .lt) →
      (names.foldl (fun sorted n => insert n sorted) sorted).Pairwise fun a b =>
        compare a b = .lt from h [] .nil
  induction names with
  | nil => exact fun _ h => h
  | cons name rest ih => exact fun sorted h => ih _ (ascending_insert h)

theorem mem_insertAt [Std.TransOrd κ] [Std.LawfulEqOrd κ] [DecidableEq κ] {key other : κ}
    {x name : String} {m : List (κ × List String)} :
    x ∈ (Keyed.find? other (insertAt key name m)).getD [] ↔
      other = key ∧ x = name ∨ x ∈ (Keyed.find? other m).getD [] := by
  rw [insertAt, Keyed.find?_put]
  by_cases same : other = key
  · simp [same, mem_insert]
  · simp [same]

end ProvenShapes.Names
