/-
**Equal values.**

Equality of values looks at the value of a number and not at the way in which it is written, and so
do clauses, with one exception.  A double counts as an integer up to `2 ^ 53` only, while a 64-bit
integer always does.  So beyond `2 ^ 53` an integer and a double that are equal have different types,
and a clause that tests for integers tells them apart.  Where no such test meets such a pair, equal
values are evaluated alike, down to the number of evaluations; and for every such pair, however deep
it lies in fields, there is a clause that meets it.

Main definitions:

* `Number.Splits`, `Value.Splits` — an integer beyond `2 ^ 53` and a double;
* `Value.SplitsAt` — such a pair at the end of a path of field names;
* `Constraint.Respects` — a constraint does not tell equal values apart;
* `Evaluator.Blind` — what a set of clauses leads to does not tell two values apart.

Main results:

* `Value.primitive?_eq_iff` — **equal values have one type, unless they are split**;
* `Evaluator.holds_congr` — what holds of a value holds of its equals;
* `Evaluator.holds_probe_ne` — values that are split at a path are told apart;
* `Catalog.equal_values_alike` — **equal values are evaluated alike exactly as far as they are not
  split where integers are tested for**.
-/

import Mathlib
import ProvenShapes.Proofs.Contradiction
import ProvenShapes.Proofs.Orders
import ProvenShapes.Proofs.Stability

set_option autoImplicit false

namespace ProvenShapes

/-! ### Equal numbers of different types -/

namespace Number

/-- One of the numbers is an integer beyond `2 ^ 53`, and the other is a double. -/
def Splits : Number → Number → Prop
  | int n, float _ => 2 ^ 53 < n.toInt.natAbs
  | float _, int n => 2 ^ 53 < n.toInt.natAbs
  | _, _ => False

theorem units_of_compare_int {n : Int64} {d : Double}
    (same : Ord.compare (int n) (float d) = .eq) : d.units = some (n.toInt * Double.one) := by
  obtain ⟨kind, value⟩ := compare_eq_eq_iff.1 same
  cases d with
  | finite negative mantissa shift canonical =>
      simp only [place, Double.units, Option.getD_some] at value ⊢
      rw [value]
  | infinite negative => cases negative <;> simp [place] at kind
  | nan => simp [place] at kind

/-- A double that is equal to an integer counts as one up to `2 ^ 53`. -/
theorem isInteger_of_compare_int {n : Int64} {d : Double}
    (same : Ord.compare (int n) (float d) = .eq) :
    (float d).isInteger = true ↔ n.toInt.natAbs ≤ 2 ^ 53 := by
  have size : (n.toInt * (Double.one : ℤ)).natAbs ≤ Double.one <<< 53 ↔ n.toInt.natAbs ≤ 2 ^ 53 := by
    rw [Int.natAbs_mul, Int.natAbs_natCast, Nat.shiftLeft_eq, mul_comm Double.one,
      Nat.mul_le_mul_right_iff Double.one_pos]
  simp only [isInteger, toInt?, units_of_compare_int same, Int.mul_emod_left, true_and, size]
  split <;> simp_all

theorem units_congr {d d' : Double} (same : Ord.compare (float d) (float d') = .eq) :
    d.units = d'.units := by
  obtain ⟨kind, value⟩ := compare_eq_eq_iff.1 same
  have unitless {d : Double} (h : (float d).place.1 ≠ 1) : d.units = none := by
    cases d with
    | finite => exact absurd rfl h
    | infinite | nan => rfl
  have finite {d : Double} (h : (float d).place.1 = 1) : d.units = some (float d).place.2 := by
    cases d with
    | finite => rfl
    | infinite negative => cases negative <;> simp [place] at h
    | nan => simp [place] at h
  by_cases h : (float d).place.1 = 1
  · rw [finite h, finite (kind ▸ h), value]
  · rw [unitless h, unitless (kind ▸ h)]

theorem isInteger_float_congr {d d' : Double} (same : Ord.compare (float d) (float d') = .eq) :
    (float d).isInteger = (float d').isInteger := by
  simp only [isInteger, toInt?, units_congr same]

/-- Equal numbers are both integers or neither is, unless they are split. -/
theorem isInteger_eq_iff {a b : Number} (same : Ord.compare a b = .eq) :
    a.isInteger = b.isInteger ↔ ¬a.Splits b := by
  have whole (n : Int64) : (int n).isInteger = true := rfl
  cases a with
  | int m =>
      cases b with
      | int n => exact iff_of_true ((whole m).trans (whole n).symm) not_false
      | float d => rw [whole, eq_comm, isInteger_of_compare_int same, Splits, not_lt]
  | float d =>
      cases b with
      | int n =>
          rw [whole, isInteger_of_compare_int (Std.OrientedCmp.eq_symm same), Splits, not_lt]
      | float d' => exact iff_of_true (isInteger_float_congr same) not_false

end Number

/-! ### Equal values -/

namespace Value

/-- The values are numbers that are split. -/
def Splits (v w : Value) : Prop := ∃ a b, v = number a ∧ w = number b ∧ a.Splits b

theorem splits_number_iff {a b : Number} : (number a).Splits (number b) ↔ a.Splits b := by
  simp [Splits]

theorem sameSort_of_beq {v w : Value} (same : (v == w) = true) : SameSort v w := by
  refine .of_rank_eq ?_
  by_contra apart
  have tie := (equal_iff v w).1 same
  rw [compare_of_rank_ne apart, Nat.compare_eq_eq] at tie
  exact apart tie

/-- Equal values are of one type, unless they are split. -/
theorem primitive?_eq_iff {v w : Value} (same : (v == w) = true) :
    v.primitive? = w.primitive? ↔ ¬v.Splits w := by
  cases sameSort_of_beq same with
  | number a b =>
      rw [splits_number_iff, ← Number.isInteger_eq_iff (Number.beq_iff.1 same)]
      cases ha : a.isInteger <;> cases hb : b.isInteger <;> simp [primitive?, ha, hb]
  | null | bool | string | array | object | undefined => simp [primitive?, Splits]

theorem find?_cases (name : String) :
    ∀ {as bs : List (String × Value)}, equalFields as bs = true →
      (Keyed.find? name as = none ∧ Keyed.find? name bs = none) ∨
        ∃ a b, Keyed.find? name as = some a ∧ Keyed.find? name bs = some b ∧ (a == b) = true
  | [], [], _ => .inl ⟨rfl, rfl⟩
  | (j, a) :: as, (k, b) :: bs, same => by
      simp only [equalFields, Bool.and_eq_true, beq_iff_eq] at same
      obtain ⟨⟨rfl, first⟩, rest⟩ := same
      simp only [Keyed.find?]
      split
      · exact .inr ⟨a, b, rfl, rfl, first⟩
      · exact find?_cases name rest

/-- Equal values have equal fields. -/
theorem get?_cases {v w : Value} (same : (v == w) = true) (name : String) :
    (v.get? name = none ∧ w.get? name = none) ∨
      ∃ a b, v.get? name = some a ∧ w.get? name = some b ∧ (a == b) = true := by
  cases sameSort_of_beq same with
  | object as bs => exact find?_cases name same
  | null | bool | number | string | array | undefined => exact .inl ⟨rfl, rfl⟩

theorem length_of_equalItems : ∀ {as bs : List Value}, equalItems as bs = true → as.length = bs.length
  | [], [], _ => rfl
  | a :: as, b :: bs, same => by
      simp only [equalItems, Bool.and_eq_true] at same
      simp only [List.length_cons, length_of_equalItems same.2]

theorem length_of_equalFields :
    ∀ {as bs : List (String × Value)}, equalFields as bs = true → as.length = bs.length
  | [], [], _ => rfl
  | (j, a) :: as, (k, b) :: bs, same => by
      simp only [equalFields, Bool.and_eq_true] at same
      simp only [List.length_cons, length_of_equalFields same.2]

theorem length?_congr {v w : Value} (same : (v == w) = true) : v.length? = w.length? := by
  cases sameSort_of_beq same with
  | string s t => rw [beq_iff_eq.1 (show (s == t) = true from same)]
  | array as bs => exact congrArg some (length_of_equalItems same)
  | object as bs => exact congrArg some (length_of_equalFields same)
  | null | bool | number | undefined => rfl

theorem isUndefined_congr {v w : Value} (same : (v == w) = true) :
    v.isUndefined = w.isUndefined := by
  cases sameSort_of_beq same <;> rfl

/-- The path of field names leads to values that are split. -/
def SplitsAt (v w : Value) (path : List String) : Prop :=
  ∃ a b, v.at? path = some a ∧ w.at? path = some b ∧ a.Splits b

theorem SplitsAt.inside {v w a b : Value} {name : String} {path : List String}
    (left : v.get? name = some a) (right : w.get? name = some b) (h : a.SplitsAt b path) :
    v.SplitsAt w (name :: path) := by
  obtain ⟨x, y, hx, hy, split⟩ := h
  exact ⟨x, y, by rw [at?, left, Option.bind_some, hx], by rw [at?, right, Option.bind_some, hy],
    split⟩

end Value

/-! ### What clauses see of a value -/

/-- The constraint does not tell equal values apart. -/
def Constraint.Respects (c : Constraint) : Prop :=
  match c.rule with
  | .regex .. => True
  | .predicate _ test => ∀ v w, (v == w) = true → test v = test w

namespace Evaluator

variable {e : Evaluator} {v w : Value}

/-- The clause itself asks whether a value is an integer. -/
def TestsInteger (e : Evaluator) : Clause → Prop
  | .typeIs (.primitive t) => t = .integer
  | .satisfies id => ∃ k, e.constraints.find? id = some k ∧ k.rule.domain = .integer
  | _ => False

/-- What a set of clauses leads to does not tell two values apart: its constraints respect equality,
and where it asks for integers the values are not split. -/
structure Blind (e : Evaluator) (s : ClauseSet) (v w : Value) : Prop where
  respects : ∀ id path k, e.registry.LeadsTo (.satisfies id) s path →
    e.constraints.find? id = some k → k.Respects
  unsplit : ∀ c path, e.registry.LeadsTo c s path → e.TestsInteger c → ¬v.SplitsAt w path

/-- Equal values are of the same types, as long as integers are not asked for where they are split. -/
theorem hasType_congr {t : Primitive} (same : (v == w) = true)
    (unsplit : t = .integer → ¬v.Splits w) : hasType t v = hasType t w := by
  by_cases split : v.Splits w
  · -- one is an integer and the other is a number, which only one type tells apart
    have other : t ≠ .integer := fun integer => unsplit integer split
    have subtype : Primitive.integer.subtypeOf t = Primitive.number.subtypeOf t := by
      revert other
      cases t <;> decide
    obtain ⟨a, b, rfl, rfl, -⟩ := split
    cases ha : a.isInteger <;> cases hb : b.isInteger <;>
      simp [hasType, Value.primitive?, ha, hb, subtype]
  · rw [hasType, hasType, (Value.primitive?_eq_iff same).2 split]

theorem valueCompares_congr_value {op : Comparison} {bound : Number} (same : (v == w) = true) :
    valueCompares op bound v = valueCompares op bound w := by
  cases Value.sameSort_of_beq same with
  | number a b =>
      have tie : compare a b = .eq := Number.beq_iff.1 same
      simp only [valueCompares, Comparison.apply, Number.isNaN_congr tie, Std.TransCmp.congr_left tie]
  | null | bool | string | array | object | undefined => rfl

/-- In its domain a constraint that respects equality judges equal values alike. -/
theorem evaluate_congr {k : Constraint} (same : (v == w) = true) (respects : k.Respects)
    (left : k.applies v = true) (right : k.applies w = true) : k.evaluate v = k.evaluate w := by
  unfold Constraint.Respects at respects
  rw [Constraint.evaluate, Constraint.evaluate, if_pos left, if_pos right]
  cases rule : k.rule with
  | regex source compiled =>
      cases Value.sameSort_of_beq same with
      | string s t => rw [beq_iff_eq.1 (show (s == t) = true from same)]
      | null | bool | number | array | object | undefined => rfl
  | predicate domain test =>
      rw [rule] at respects
      simp only [respects v w same]

theorem satisfies_congr {id : String} (same : (v == w) = true)
    (respects : ∀ k, e.constraints.find? id = some k → k.Respects)
    (unsplit : e.TestsInteger (.satisfies id) → ¬v.Splits w) :
    e.satisfies id v = e.satisfies id w := by
  unfold satisfies
  split
  · rfl
  · next k found =>
      have domain : k.applies v = k.applies w :=
        hasType_congr same fun integer => unsplit ⟨k, found, integer⟩
      cases right : k.applies w with
      | true => rw [evaluate_congr same (respects k found) (domain.trans right) right]
      | false =>
          -- outside the domain the error names the type, and it is dropped
          rw [Constraint.evaluate, Constraint.evaluate, domain, right]
          rfl

/-! ### Clauses hold of equal values alike -/

theorem Blind.here {s : ClauseSet} {c : Clause} (blind : e.Blind s v w) (mem : c ∈ s.toList)
    (tests : e.TestsInteger c) : ¬v.Splits w := by
  intro split
  exact blind.unsplit c [] (.here mem) tests ⟨v, w, rfl, rfl, split⟩

theorem Blind.behind {s t : ClauseSet} {id : PatternId} (blind : e.Blind s v w)
    (mem : .typeIs (.pattern id) ∈ s.toList) (known : e.registry.resolve? id = some t) :
    e.Blind t v w where
  respects id path k chain := blind.respects id path k (.behind mem known chain)
  unsplit c path chain := blind.unsplit c path (.behind mem known chain)

theorem Blind.inside {s t : ClauseSet} {name : String} {id : PatternId} {a b : Value}
    (blind : e.Blind s v w) (mem : .field name id ∈ s.toList)
    (known : e.registry.resolve? id = some t) (left : v.get? name = some a)
    (right : w.get? name = some b) : e.Blind t a b where
  respects id path k chain := blind.respects id (name :: path) k (.inside mem known chain)
  unsplit c path chain tests split :=
    blind.unsplit c (name :: path) (.inside mem known chain) tests (split.inside left right)

/-- A clause of a set that does not tell two equal values apart holds of both or of neither, after as
many evaluations. -/
theorem holds_congr {s : ClauseSet} {c : Clause} {depth : Nat} (blind : e.Blind s v w)
    (same : (v == w) = true) (mem : c ∈ s.toList) : e.holds c v depth = e.holds c w depth := by
  induction hrank : c.rank using Nat.strongRecOn generalizing s c v w depth with
  | _ rank ih =>
      subst hrank
      cases c with
      | typeIs type =>
          cases type with
          | primitive t => rw [holds, holds, hasType_congr same (blind.here mem)]
          | pattern id =>
              rw [holds_reference, holds_reference]
              refine if_congr Iff.rfl rfl (congrArg (Counted.tick >>= ·) (funext fun _ => ?_))
              split
              · rfl
              · next t known =>
                  refine Counted.allTrue_congr fun d hd => ?_
                  exact ih _ (Registry.rank_lt rfl known hd) (blind.behind mem known) same hd rfl
      | field name id =>
          cases Value.sameSort_of_beq same with
          | object as bs =>
              rw [holds_field, holds_field]
              refine if_congr Iff.rfl rfl (congrArg (Counted.tick >>= ·) (funext fun _ => ?_))
              split
              · rfl
              · next t known =>
                  rcases Value.find?_cases name same with
                    ⟨left, right⟩ | ⟨a, b, left, right, same⟩
                  · rw [left, right]
                  · rw [left, right]
                    refine Counted.allTrue_congr fun d hd => ?_
                    exact ih _ (Registry.rank_lt rfl known hd) (blind.inside mem known left right)
                      same hd rfl
          | null | undefined => rfl
          | bool | number | string | array => rw [holds, holds] <;> simp
      | satisfies id =>
          have respects := fun k => blind.respects id [] k (.here mem)
          rw [holds, holds, satisfies_congr same respects (blind.here mem)]
      | length op bound => rw [holds, holds, lengthCompares, lengthCompares, Value.length?_congr same]
      | value op bound => rw [holds, holds, valueCompares_congr_value same]
      | required always => rw [holds, holds, Value.isUndefined_congr same]
      | kindOf kind => rw [holds, holds]
      | changesWith names => rw [holds, holds]

/-! ### Split values are told apart -/

/-- The type of integers tells split values apart. -/
theorem hasType_integer_ne (same : (v == w) = true) (split : v.Splits w) :
    hasType .integer v ≠ hasType .integer w := by
  obtain ⟨a, b, rfl, rfl, apart⟩ := split
  have types : a.isInteger ≠ b.isInteger := fun types =>
    (Number.isInteger_eq_iff (Number.beq_iff.1 same)).1 types apart
  have own (n : Number) : hasType .integer (.number n) = n.isInteger := by
    cases h : n.isInteger <;> simp [hasType, Value.primitive?, h, Primitive.subtypeOf]
  rwa [own, own]

end Evaluator

/-- The clause that asks for an integer at the end of a path; the clauses for its tails are patterns,
the shorter ones first. -/
def probe : List String → Clause
  | [] => .typeIs (.primitive .integer)
  | name :: rest => .field name ⟨rest.length⟩

/-- The patterns that the probe of a path refers to are registered. -/
def Registry.HasProbes (r : Registry) : List String → Prop
  | [] => True
  | _ :: rest => (∃ s, r.resolve? ⟨rest.length⟩ = some s ∧ s.toList = [probe rest]) ∧ r.HasProbes rest

theorem Registry.HasProbes.push {r : Registry} {path : List String} (h : r.HasProbes path)
    (within : path.length ≤ r.size) (label : Option String) (s : ClauseSet)
    (bounded : ∀ c ∈ s.toList, c.rank ≤ r.size) : (r.push label s bounded).HasProbes path := by
  induction path with
  | nil => trivial
  | cons name rest ih =>
      obtain ⟨⟨t, known, single⟩, inner⟩ := h
      rw [List.length_cons] at within
      refine ⟨⟨t, ?_, single⟩, ih inner (by omega)⟩
      rw [Registry.resolve?_push, if_neg (by simp; omega), known]

/-- Every path has a registry with its probes. -/
theorem Registry.exists_hasProbes (path : List String) :
    ∃ r : Registry, r.size = path.length ∧ r.HasProbes path := by
  induction path with
  | nil => exact ⟨.empty, rfl, trivial⟩
  | cons name rest ih =>
      obtain ⟨r, size, inner⟩ := ih
      have bounded : ∀ c ∈ (ClauseSet.ofList [probe rest]).toList, c.rank ≤ r.size := by
        intro c mem
        obtain rfl := List.mem_singleton.1 (ClauseSet.mem_ofList mem)
        cases rest with
        | nil => exact Nat.zero_le _
        | cons => exact size.symm.le
      refine ⟨r.push none (.ofList [probe rest]) bounded, ?_, ⟨.ofList [probe rest], ?_, rfl⟩,
        inner.push size.ge _ _ _⟩
      · simp [Registry.push, Registry.size, ← size]
      · rw [Registry.resolve?_push, if_pos (by simp [size])]

namespace Evaluator

variable {e : Evaluator} {v w : Value}

theorem holds_probe_cons {name : String} {path : List String} {depth : Nat} {a : Value}
    (probes : e.registry.HasProbes (name :: path)) (limit : depth ≤ e.options.maxNesting)
    (found : v.get? name = some a) :
    e.Holds (probe (name :: path)) v depth ↔ e.Holds (probe path) a (depth + 1) := by
  obtain ⟨⟨s, known, single⟩, -⟩ := probes
  cases v with
  | object fields =>
      have found : Keyed.find? name fields = some a := found
      simp [probe, holds_field_iff, limit, known, found, single]
  | null | bool | number | string | array | undefined => simp [Value.get?] at found

/-- Equal values that are split at a path are told apart by the probe of the path. -/
theorem holds_probe_ne {path : List String} {depth : Nat} (probes : e.registry.HasProbes path)
    (limit : depth + path.length ≤ e.options.maxNesting) (same : (v == w) = true)
    (split : v.SplitsAt w path) :
    ¬(e.Holds (probe path) v depth ↔ e.Holds (probe path) w depth) := by
  induction path generalizing v w depth with
  | nil =>
      obtain ⟨a, b, left, right, split⟩ := split
      obtain rfl := Option.some.inj left
      obtain rfl := Option.some.inj right
      have limit : depth ≤ e.options.maxNesting := limit
      rw [probe, holds_type_iff, holds_type_iff]
      simp only [limit, true_and]
      rw [← Bool.eq_iff_iff]
      exact hasType_integer_ne same split
  | cons name path ih =>
      obtain ⟨x, y, hx, hy, apart⟩ := split
      obtain ⟨a, left, hx⟩ := Option.bind_eq_some_iff.1 hx
      obtain ⟨b, right, hy⟩ := Option.bind_eq_some_iff.1 hy
      rw [List.length_cons] at limit
      have inner : (a == b) = true := by simpa [left, right] using Value.get?_cases same name
      rw [holds_probe_cons probes (by omega) left, holds_probe_cons probes (by omega) right]
      exact ih probes.2 (by omega) inner ⟨x, y, hx, hy, apart⟩

/-- Values that are split nowhere are alike to all clauses that lead to respectful constraints. -/
theorem blind_of_not_splitsAt {s : ClauseSet} (unsplit : ∀ path, ¬v.SplitsAt w path)
    (respects : ∀ k ∈ e.constraints, k.Respects) : e.Blind s v w where
  respects _ _ k _ found := respects k (List.mem_of_find?_eq_some found)
  unsplit _ path _ _ := unsplit path

theorem firstFailure_congr {s : ClauseSet} (blind : e.Blind s v w) (same : (v == w) = true) :
    e.firstFailure s.toList v = e.firstFailure s.toList w :=
  Counted.firstFalse?_congr fun _ mem => holds_congr blind same mem

end Evaluator

theorem Tag.failingClause_congr {e : Evaluator} {v w : Value} {t : Tag} (same : (v == w) = true)
    (blind : ∀ s, e.registry.resolve? t.pattern = some s → e.Blind s v w) :
    t.failingClause e v = t.failingClause e w := by
  unfold failingClause
  split
  · next s resolved =>
      exact Evaluator.firstFailure_congr (blind s (Registry.resolve?_of_resolve resolved)) same
  · rfl

namespace Catalog

/-- A catalog with nothing but patterns, which are followed as deep as is said. -/
def patternsOnly (r : Registry) (maxNesting : Nat) : Catalog :=
  { empty with registry := r, options := { maxNesting } }

/-- **Equal values are evaluated alike, as far as they are not split where integers are asked for.**
A clause that leads to no constraint which tells equal values apart, and asks for integers at no path
where the values are split, holds of both or of neither, at every depth; patterns accept both or
neither, and both carry the same tags.  All clauses of all catalogs, their constraints respecting
equality, hold of two equal values alike exactly if the values are split at no path. -/
theorem equal_values_alike (v w : Value) (same : (v == w) = true) :
    (∀ (c : Catalog) (d : Clause), c.evaluator.Blind (.ofList [d]) v w →
      ∀ depth, c.evaluator.holds d v depth = c.evaluator.holds d w depth) ∧
    (∀ (c : Catalog) (id : PatternId) (s : ClauseSet), c.registry.resolve? id = some s →
      c.evaluator.Blind s v w → (c.validate id v = .ok () ↔ c.validate id w = .ok ())) ∧
    (∀ (c : Catalog) (tag : String),
      (∀ t s, c.tags.find? tag = some t → c.registry.resolve? t.pattern = some s →
        c.evaluator.Blind s v w) → c.hasTag v tag = c.hasTag w tag) ∧
    ((∀ c : Catalog, (∀ k ∈ c.constraints, k.Respects) → ∀ d depth,
      c.evaluator.holds d v depth = c.evaluator.holds d w depth) ↔
        ∀ path, ¬v.SplitsAt w path) := by
  refine ⟨?_, ?_, ?_, ?_⟩
  · intro c d blind depth
    exact Evaluator.holds_congr blind same (List.mem_singleton.2 rfl)
  · intro c id s known blind
    simp only [validate_eq_ok_iff, known, Option.some.injEq, exists_eq_left']
    refine forall_congr' fun d => forall_congr' fun mem => ?_
    rw [Evaluator.Holds, Evaluator.Holds, Evaluator.holds_congr blind same mem]
  · intro c tag blind
    unfold hasTag Tags.get
    cases found : c.tags.find? tag with
    | none => rfl
    | some t =>
        have clause : t.failingClause c.evaluator v = t.failingClause c.evaluator w :=
          Tag.failingClause_congr same fun s known => blind t s found known
        simp only [bind, Except.bind, clause]
  · constructor
    · intro alike path split
      obtain ⟨r, -, probes⟩ := Registry.exists_hasProbes path
      have told := Evaluator.holds_probe_ne (e := (patternsOnly r path.length).evaluator)
        probes (Nat.zero_add path.length).le same split
      have none : ∀ k ∈ (patternsOnly r path.length).constraints, k.Respects := by
        intro k mem
        exact absurd mem List.not_mem_nil
      exact told (by rw [Evaluator.Holds, Evaluator.Holds, alike _ none])
    · intro unsplit c respects d depth
      have blind : c.evaluator.Blind (.ofList [d]) v w :=
        Evaluator.blind_of_not_splitsAt unsplit respects
      exact Evaluator.holds_congr blind same (List.mem_singleton.2 rfl)

/-- The integer `2 ^ 53` and the double of that value. -/
theorem equal_values_alike_limit :
    (Value.number (.int 9007199254740992) == .number (.float (.ofInt 9007199254740992))) = true ∧
      ∀ d depth, empty.evaluator.holds d (.number (.int 9007199254740992)) depth =
        empty.evaluator.holds d (.number (.float (.ofInt 9007199254740992))) depth := by
  have same : (Value.number (.int 9007199254740992) ==
      .number (.float (.ofInt 9007199254740992))) = true := by decide +kernel
  refine ⟨same, (equal_values_alike _ _ same).2.2.2.2 ?_ empty nofun⟩
  rintro (_ | ⟨name, path⟩) ⟨a, b, left, right, split⟩
  · obtain rfl := Option.some.inj left
    obtain rfl := Option.some.inj right
    have beyond : 2 ^ 53 < (9007199254740992 : Int64).toInt.natAbs := Value.splits_number_iff.1 split
    exact absurd beyond (by decide)
  · simp [Value.at?, Value.get?] at left

/-- The integer `2 ^ 53 + 2` and the double of that value are equal.  Only the integer is one. -/
theorem equal_values_differ_in_type :
    (Value.number (.int 9007199254740994) == .number (.float (.ofInt 9007199254740994))) = true ∧
      (empty.evaluator.holds (.typeIs (.primitive .integer))
        (.number (.int 9007199254740994)) 0).result.toOption = some true ∧
      (empty.evaluator.holds (.typeIs (.primitive .integer))
        (.number (.float (.ofInt 9007199254740994))) 0).result.toOption = some false := by
  refine ⟨by decide +kernel, by decide +kernel, by decide +kernel⟩

end Catalog

end ProvenShapes
