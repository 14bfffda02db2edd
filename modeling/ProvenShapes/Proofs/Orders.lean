/-
**The orders of numbers, values and clauses.**

Numbers are ordered as extended rationals, with not-a-number behind them all.  Values are ordered by
their sort, and within a sort by their parts, so what holds of the order of numbers is carried through
nested arrays and objects.  To carry it, transitivity is stated as an equation: along an ascending
chain of three the outer comparison is the first one, or the second where the first finds no
difference.  In this form it passes from the parts to a lexicographic comparison.

Main definitions:

* `TotalPreorder` — a comparison orders its type, and `==` is its equality;
* `SoundKeys` — sorted maps can be keyed by a type;
* `Value.Chained` — the equation of transitivity.

Main results:

* `Value.compare_swap`, `Value.chained_compare` — values are totally preordered;
* `Value.equal_iff` — **values are equal when neither is before the other**;
* `Keyed.forall₂_of_find?_eq` — a sorted map is determined by what its keys find;
* `compare_exact` — **the orders are exact and total, and sorted maps rest on them**.
-/

import Mathlib
import ProvenShapes.Proofs.Clause
import ProvenShapes.Proofs.Number.Exact
import ProvenShapes.Value.Order

set_option autoImplicit false

namespace ProvenShapes

/-! ### Total preorders -/

/-- The comparison of a type is a total preorder, and `==` is its equality. -/
structure TotalPreorder (α : Type) [Ord α] [BEq α] : Prop where
  swap : ∀ a b : α, compare b a = (compare a b).swap
  total : ∀ a b : α, (compare a b).isLE = true ∨ (compare b a).isLE = true
  trans : ∀ a b c : α, (compare a b).isLE = true → (compare b c).isLE = true →
    (compare a c).isLE = true
  antisymm : ∀ a b : α, (compare a b).isLE = true → (compare b a).isLE = true → (a == b) = true
  beq_iff : ∀ a b : α, (a == b) = true ↔ compare a b = .eq
  equivalence : Equivalence fun a b : α => (a == b) = true

/-- A transitive comparison whose ties are the equal pairs is a total preorder. -/
theorem TotalPreorder.of_beq_iff {α : Type} [Ord α] [BEq α] [Std.TransOrd α]
    (ties : ∀ a b : α, (a == b) = true ↔ compare a b = .eq) : TotalPreorder α where
  swap _ _ := Std.OrientedOrd.eq_swap
  total a b := by
    cases order : compare a b with
    | lt => exact .inl rfl
    | eq => exact .inl rfl
    | gt => exact .inr (by rw [Std.OrientedOrd.eq_swap (a := b), order]; rfl)
  trans _ _ _ := Std.TransCmp.isLE_trans
  antisymm a b ab ba := (ties a b).2 (Std.OrientedCmp.isLE_antisymm ab ba)
  beq_iff := ties
  equivalence :=
    { refl a := (ties a a).2 Std.ReflCmp.compare_self
      symm {a b} h := (ties b a).2 (Std.OrientedCmp.eq_symm ((ties a b).1 h))
      trans {a b c} h h' := (ties a c).2 (Std.TransCmp.eq_trans ((ties a b).1 h) ((ties b c).1 h')) }

namespace Number

theorem beq_iff {a b : Number} : (a == b) = true ↔ Ord.compare a b = .eq :=
  beq_iff_eq (a := Number.compare a b)

theorem eq_nan_of_isNaN {n : Number} (h : n.isNaN = true) : n = .float .nan := by
  cases n with
  | int value => simp [isNaN] at h
  | float d =>
      cases d with
      | nan => rfl
      | finite | infinite => simp [isNaN, Double.isNaN] at h

/-- Not-a-number is behind all numbers, and equal to itself. -/
theorem compare_nan (a : Number) :
    Ord.compare a (.float .nan) = if a.isNaN then .eq else .lt := by
  split
  · next same =>
      rw [eq_nan_of_isNaN same]
      exact Std.ReflCmp.compare_self
  · next number =>
      exact compare_eq_lt_iff.2 (.inl (place_fst_lt_three (by simpa using number)))

end Number

/-! ### The order of values -/

namespace Value

theorem beq_iff_compare_eq {α : Type} [Ord α] [BEq α] [LawfulBEq α] [Std.LawfulEqOrd α] {a b : α} :
    (a == b) = true ↔ Ord.compare a b = .eq :=
  beq_iff_eq.trans Std.LawfulEqCmp.compare_eq_iff_eq.symm

/-- The comparisons `x` and `y` of neighbours in a chain, with the outer comparison `z`. -/
def Chained (x y z : Ordering) : Prop := x.isLE = true → y.isLE = true → z = x.then y

theorem chained_of_transOrd {α : Type} [Ord α] [Std.TransOrd α] (a b c : α) :
    Chained (Ord.compare a b) (Ord.compare b c) (Ord.compare a c) := by
  intro ab bc
  cases order : Ord.compare a b with
  | lt => exact Std.TransCmp.lt_of_lt_of_isLE order bc
  | eq => exact Std.TransCmp.congr_left order
  | gt => simp [order] at ab

/-- Chains of first parts and of second parts make chains of pairs. -/
theorem Chained.then {x y z x' y' z' : Ordering} (first : Chained x y z) (second : Chained x' y' z') :
    Chained (x.then x') (y.then y') (z.then z') := by
  intro left right
  rcases Ordering.isLE_then_iff_or.1 left with lt | ⟨eq, le⟩
  · subst lt
    have : y.isLE = true := Ordering.isLE_left_of_isLE_then right
    rw [first rfl this]
    rfl
  · subst eq
    rcases Ordering.isLE_then_iff_or.1 right with lt' | ⟨eq', le'⟩
    · subst lt'
      rw [first rfl rfl]
      cases x' <;> simp_all
    · subst eq'
      rw [first rfl rfl, second le le']
      rfl

/-- Values of different sorts are compared by their sorts. -/
theorem compare_of_rank_ne {a b : Value} (h : a.rank ≠ b.rank) :
    compare a b = Ord.compare a.rank b.rank := by
  cases a <;> cases b <;> first | rfl | exact absurd rfl h

theorem rank_le_of_isLE {a b : Value} (h : (compare a b).isLE = true) : a.rank ≤ b.rank := by
  by_cases same : a.rank = b.rank
  · exact Nat.le_of_eq same
  · rw [compare_of_rank_ne same] at h
    exact Nat.isLE_compare.1 h

theorem compare_eq_lt_of_rank_lt {a b : Value} (h : a.rank < b.rank) : compare a b = .lt := by
  rw [compare_of_rank_ne (Nat.ne_of_lt h), Nat.compare_eq_lt.2 h]

theorem Chained.of_right_lt {x : Ordering} : Chained x .lt .lt := by
  intro le _
  cases x with
  | gt => simp at le
  | lt | eq => rfl

/-- A chain of values of different sorts. -/
theorem chained_of_rank_ne {a b c : Value} (h : a.rank ≠ b.rank ∨ b.rank ≠ c.rank) :
    Chained (compare a b) (compare b c) (compare a c) := by
  intro ab bc
  have left := rank_le_of_isLE ab
  have right := rank_le_of_isLE bc
  have outer : compare a c = .lt := compare_eq_lt_of_rank_lt (by omega)
  by_cases same : a.rank = b.rank
  · have inner : compare b c = .lt := compare_eq_lt_of_rank_lt (by omega)
    rw [outer, inner]
    exact Chained.of_right_lt ab rfl
  · have inner : compare a b = .lt := compare_eq_lt_of_rank_lt (by omega)
    rw [outer, inner, Ordering.lt_then]

/-- Two values of one sort, with their parts. -/
inductive SameSort : Value → Value → Prop
  | null : SameSort null null
  | bool (a b : Bool) : SameSort (bool a) (bool b)
  | number (a b : Number) : SameSort (number a) (number b)
  | string (a b : String) : SameSort (string a) (string b)
  | array (as bs : List Value) : SameSort (array as) (array bs)
  | object (as bs : List (String × Value)) : SameSort (object as) (object bs)
  | undefined : SameSort undefined undefined

theorem SameSort.of_rank_eq {a b : Value} (h : a.rank = b.rank) : SameSort a b := by
  cases a <;> cases b <;> first | constructor | simp [rank] at h

mutual

theorem compare_swap (a b : Value) : compare b a = (compare a b).swap := by
  by_cases same : a.rank = b.rank
  · cases SameSort.of_rank_eq same with
    | null | undefined => rfl
    | bool | number | string => exact Std.OrientedOrd.eq_swap
    | array as bs => exact compareItems_swap as bs
    | object as bs => exact compareFields_swap as bs
  · rw [compare_of_rank_ne same, compare_of_rank_ne (Ne.symm same)]
    exact Std.OrientedOrd.eq_swap

theorem compareItems_swap : ∀ as bs : List Value, compareItems bs as = (compareItems as bs).swap
  | [], [] => rfl
  | [], _ :: _ => rfl
  | _ :: _, [] => rfl
  | a :: as, b :: bs => by
      rw [compareItems, compareItems, compare_swap a b, compareItems_swap as bs, Ordering.swap_then]

theorem compareFields_swap :
    ∀ as bs : List (String × Value), compareFields bs as = (compareFields as bs).swap
  | [], [] => rfl
  | [], _ :: _ => rfl
  | _ :: _, [] => rfl
  | (j, a) :: as, (k, b) :: bs => by
      rw [compareFields, compareFields, compare_swap a b, compareFields_swap as bs,
        Std.OrientedOrd.eq_swap (a := k), Ordering.swap_then, Ordering.swap_then]

end

mutual

/-- Values are compared transitively. -/
theorem chained_compare (a b c : Value) : Chained (compare a b) (compare b c) (compare a c) := by
  by_cases same : a.rank = b.rank
  · by_cases same' : b.rank = c.rank
    · cases SameSort.of_rank_eq same with
      | null | undefined =>
          cases SameSort.of_rank_eq same'
          exact fun _ _ => rfl
      | bool | number | string =>
          cases SameSort.of_rank_eq same'
          exact chained_of_transOrd _ _ _
      | array as bs =>
          obtain _ | _ | _ | _ | ⟨_, cs⟩ := SameSort.of_rank_eq same'
          exact chained_compareItems as bs cs
      | object as bs =>
          obtain _ | _ | _ | _ | _ | ⟨_, cs⟩ := SameSort.of_rank_eq same'
          exact chained_compareFields as bs cs
    · exact chained_of_rank_ne (.inr same')
  · exact chained_of_rank_ne (.inl same)

theorem chained_compareItems : ∀ as bs cs : List Value,
    Chained (compareItems as bs) (compareItems bs cs) (compareItems as cs)
  | [], [], [] | [], [], _ :: _ => fun _ _ => rfl
  | [], _ :: _, [] => fun _ le => nomatch le
  | [], _ :: _, _ :: _ => fun _ _ => rfl
  | _ :: _, [], _ => fun le _ => nomatch le
  | _ :: _, _ :: _, [] => fun _ le => nomatch le
  | a :: as, b :: bs, c :: cs => (chained_compare a b c).then (chained_compareItems as bs cs)

theorem chained_compareFields : ∀ as bs cs : List (String × Value),
    Chained (compareFields as bs) (compareFields bs cs) (compareFields as cs)
  | [], [], [] | [], [], _ :: _ => fun _ _ => rfl
  | [], _ :: _, [] => fun _ le => nomatch le
  | [], _ :: _, _ :: _ => fun _ _ => rfl
  | _ :: _, [], _ => fun le _ => nomatch le
  | _ :: _, _ :: _, [] => fun _ le => nomatch le
  | (j, a) :: as, (k, b) :: bs, (l, c) :: cs =>
      ((chained_of_transOrd j k l).then (chained_compare a b c)).then
        (chained_compareFields as bs cs)

end

mutual

/-- Values are equal when neither is before the other. -/
theorem equal_iff (a b : Value) : equal a b = true ↔ compare a b = .eq := by
  by_cases same : a.rank = b.rank
  · cases SameSort.of_rank_eq same with
    | null | undefined => exact iff_of_true rfl rfl
    | bool | string => exact beq_iff_compare_eq
    | number x y => exact Number.beq_iff
    | array as bs => exact equalItems_iff as bs
    | object as bs => exact equalFields_iff as bs
  · rw [compare_of_rank_ne same, Nat.compare_eq_eq]
    refine iff_of_false ?_ same
    cases a <;> cases b <;> first | exact Bool.false_ne_true | exact absurd rfl same

theorem equalItems_iff :
    ∀ as bs : List Value, equalItems as bs = true ↔ compareItems as bs = .eq
  | [], [] => iff_of_true rfl rfl
  | [], _ :: _ | _ :: _, [] => iff_of_false Bool.false_ne_true nofun
  | a :: as, b :: bs => by
      rw [equalItems, compareItems, Bool.and_eq_true, Ordering.then_eq_eq, equal_iff a b,
        equalItems_iff as bs]

theorem equalFields_iff :
    ∀ as bs : List (String × Value), equalFields as bs = true ↔ compareFields as bs = .eq
  | [], [] => iff_of_true rfl rfl
  | [], _ :: _ | _ :: _, [] => iff_of_false Bool.false_ne_true nofun
  | (j, a) :: as, (k, b) :: bs => by
      rw [equalFields, compareFields, Bool.and_eq_true, Bool.and_eq_true, Ordering.then_eq_eq,
        Ordering.then_eq_eq, beq_iff_compare_eq, equal_iff a b, equalFields_iff as bs]

end

instance : Std.TransOrd Value where
  eq_swap {a b} := compare_swap b a
  isLE_trans {a b c} ab bc := by
    change (compare a c).isLE = true
    rw [chained_compare a b c ab bc]
    exact Ordering.isLE_then_iff_and.2 ⟨ab, .inr bc⟩

end Value

/-! ### Sorted maps -/

/-- Sorted maps are determined by what their keys find, up to the choice between equal keys. -/
theorem Keyed.forall₂_of_find?_eq {κ α : Type} [Ord κ] [Std.TransOrd κ] {m m' : List (κ × α)}
    (sorted : Ascending m) (sorted' : Ascending m') (same : ∀ key, find? key m = find? key m') :
    List.Forall₂ (fun e e' => compare e.1 e'.1 = .eq ∧ e.2 = e'.2) m m' := by
  -- a key that stands before the least key of a sorted map finds nothing there
  have before {key : κ} {first : κ × α} {rest : List (κ × α)} (asc : Ascending (first :: rest))
      (lt : compare key first.1 = .lt) : find? key (first :: rest) = none := by
    refine find?_eq_none fun entry mem => ?_
    rcases List.mem_cons.1 mem with rfl | later
    · simp [lt]
    · simp [Std.TransCmp.lt_trans lt ((List.pairwise_cons.1 asc).1 entry later)]
  induction m generalizing m' with
  | nil =>
      cases m' with
      | nil => exact .nil
      | cons first' rest' =>
          have found := find?_of_mem sorted' List.mem_cons_self
          rw [← same] at found
          simp [find?] at found
  | cons first rest ih =>
      have found := find?_of_mem sorted List.mem_cons_self
      cases m' with
      | nil =>
          rw [same] at found
          simp [find?] at found
      | cons first' rest' =>
          have found' := find?_of_mem sorted' List.mem_cons_self
          obtain ⟨least, tail⟩ := List.pairwise_cons.1 sorted
          obtain ⟨least', tail'⟩ := List.pairwise_cons.1 sorted'
          cases order : compare first.1 first'.1 with
          | lt =>
              rw [same, before sorted' order] at found
              simp at found
          | gt =>
              rw [← same, before sorted (Std.OrientedCmp.lt_of_gt order)] at found'
              simp at found'
          | eq =>
              have values : first.2 = first'.2 := by
                rw [same, find?_congr order, found'] at found
                exact (Option.some.inj found).symm
              refine .cons ⟨order, values⟩ (ih tail tail' fun key => ?_)
              have step := same key
              have side := Std.TransCmp.congr_right (a := key) order
              by_cases here : compare key first.1 = .eq
              · have here' : compare key first'.1 = .eq := side ▸ here
                have absent : find? key rest = none := find?_eq_none fun entry mem => by
                  rw [Std.TransCmp.congr_left here, least entry mem]
                  simp
                have absent' : find? key rest' = none := find?_eq_none fun entry mem => by
                  rw [Std.TransCmp.congr_left here', least' entry mem]
                  simp
                rw [absent, absent']
              · rwa [find?, find?, if_neg here, if_neg (side ▸ here)] at step

/-- Sorted maps can be keyed by a type: writing keeps them sorted, equal keys are one key to reading
and writing, and what the keys find determines the map. -/
structure SoundKeys (κ : Type) [Ord κ] [BEq κ] : Prop where
  ascending_put : ∀ {α : Type} (key : κ) (value : α) (m : List (κ × α)), Keyed.Ascending m →
    Keyed.Ascending (Keyed.put key value m)
  find?_put : ∀ {α : Type} (key other : κ) (value : α) (m : List (κ × α)),
    Keyed.find? other (Keyed.put key value m) =
      if other == key then some value else Keyed.find? other m
  find?_congr : ∀ {α : Type} (key other : κ) (m : List (κ × α)), (key == other) = true →
    Keyed.find? key m = Keyed.find? other m
  ext : ∀ {α : Type} (m m' : List (κ × α)), Keyed.Ascending m → Keyed.Ascending m' →
    (∀ key, Keyed.find? key m = Keyed.find? key m') →
    List.Forall₂ (fun e e' => (e.1 == e'.1) = true ∧ e.2 = e'.2) m m'

theorem SoundKeys.of_beq_iff {κ : Type} [Ord κ] [BEq κ] [Std.TransOrd κ]
    (ties : ∀ a b : κ, (a == b) = true ↔ compare a b = .eq) : SoundKeys κ where
  ascending_put _ _ _ := Keyed.ascending_put
  find?_put key other value m := by
    split
    · next same => rw [Keyed.find?_congr ((ties _ _).1 same), Keyed.find?_put_self]
    · next apart => exact Keyed.find?_put_of_ne value m (mt (ties _ _).2 apart)
  find?_congr _ _ m same := Keyed.find?_congr ((ties _ _).1 same) m
  ext _ _ sorted sorted' same := by
    simpa only [ties] using Keyed.forall₂_of_find?_eq sorted sorted' same

/-! ### Sets of clauses -/

theorem ClauseSet.find?_toList (s : ClauseSet) (c : Clause) :
    Keyed.find? c (s.toList.map (·, ())) = if s.contains c then some () else none := by
  unfold contains
  induction s.toList with
  | nil => rfl
  | cons d rest ih =>
      rw [List.map_cons, Keyed.find?, List.any_cons, ih]
      by_cases same : compare c d = .eq
      · simp [same, Clause.beq_iff.2 same]
      · simp [same, mt Clause.beq_iff.1 same]

theorem ClauseSet.beq_of_forall₂ {l l' : List Clause}
    (h : List.Forall₂ (fun c d => (c == d) = true) l l') : (l == l') = true := by
  induction h with
  | nil => rfl
  | cons first _ rest => exact Bool.and_eq_true_iff.2 ⟨first, rest⟩

/-- Sets of clauses that contain the same clauses are equal. -/
theorem ClauseSet.beq_of_contains_eq {s t : ClauseSet} (h : ∀ c, s.contains c = t.contains c) :
    (s == t) = true := by
  have sorted (u : ClauseSet) : Keyed.Ascending (u.toList.map (·, ())) :=
    List.pairwise_map.2 u.ascending
  have same (c : Clause) :
      Keyed.find? c (s.toList.map (·, ())) = Keyed.find? c (t.toList.map (·, ())) := by
    rw [find?_toList, find?_toList, h c]
  have entries := Keyed.forall₂_of_find?_eq (sorted s) (sorted t) same
  rw [List.forall₂_map_left_iff, List.forall₂_map_right_iff] at entries
  exact beq_of_forall₂ (entries.imp fun _ _ eq => Clause.beq_iff.2 eq.1)

/-- **The orders are exact.**  Numbers other than not-a-number are compared as extended rationals,
whichever way they are written, and not-a-number is behind them and equal to itself.  Numbers, values
and clauses are totally preordered, `==` is the equality of these orders, and values and clauses can
be the keys of sorted maps; sets of clauses with the same clauses are equal. -/
theorem compare_exact :
    (∀ a b : Number, a.isNaN = false → b.isNaN = false → compare a b = cmp a.value b.value) ∧
    (∀ a b : Number, b.isNaN = true → compare a b = if a.isNaN then .eq else .lt) ∧
    TotalPreorder Number ∧ TotalPreorder Value ∧ TotalPreorder Clause ∧
    SoundKeys Value ∧ SoundKeys Clause ∧
    (∀ s t : ClauseSet, (∀ c, s.contains c = t.contains c) → (s == t) = true) := by
  refine ⟨fun a b => Number.compare_eq_cmp_value, fun a b nan => ?_,
    .of_beq_iff fun a b => Number.beq_iff, .of_beq_iff Value.equal_iff,
    .of_beq_iff fun a b => Clause.beq_iff, .of_beq_iff Value.equal_iff,
    .of_beq_iff fun a b => Clause.beq_iff, fun s t => ClauseSet.beq_of_contains_eq⟩
  rw [Number.eq_nan_of_isNaN nan]
  exact Number.compare_nan a

/-- `2 ^ 53 + 1`, which no double holds, beside the double `2 ^ 53`. -/
theorem compare_exact_past_mantissa :
    (Number.int 9007199254740993).isNaN = false ∧
      (Number.float (.ofInt 9007199254740992)).isNaN = false ∧
      compare (Number.int 9007199254740993) (Number.float (.ofInt 9007199254740992)) =
        cmp (Number.int 9007199254740993).value (Number.float (.ofInt 9007199254740992)).value ∧
      compare (Number.int 9007199254740993) (Number.float (.ofInt 9007199254740992)) = .gt :=
  ⟨rfl, by decide +kernel, compare_exact.1 _ _ rfl (by decide +kernel), by decide +kernel⟩

end ProvenShapes
