/-
**Records that are written field by field.**

A commit checks each value against the pattern of its field, and never looks at the record as a whole.
The record has a pattern of its own, behind which the patterns of the fields lie one reference deeper.
As long as the nesting limit is not smaller than the number of patterns, the depth at which a clause
is evaluated plays no part; so a stored record satisfies the pattern of its composite just when no
field is missing that its own pattern demands.

Main results:

* `Evaluator.holds_eq_of_room` — **within the nesting limit depth plays no part**;
* `Catalog.validate_record_iff` — when a record satisfies the pattern of its composite;
* `Commit.stored_records_agree` — **stored records satisfy their pattern up to demanded fields**.
-/

import ProvenShapes.Proofs.Commits
import ProvenShapes.Proofs.Lookups
import ProvenShapes.Proofs.Nesting
import ProvenShapes.Proofs.Subsumption

set_option autoImplicit false

namespace ProvenShapes

/-! ### Depth within the nesting limit -/

namespace Evaluator

variable {e : Evaluator} {clause : Clause} {v : Value} {m n : Nat}

/-- Where the references behind a clause stay within the nesting limit, its evaluation is the same at
every depth, with its count. -/
theorem holds_eq_of_room (hm : m + clause.rank ≤ e.options.maxNesting)
    (hn : n + clause.rank ≤ e.options.maxNesting) :
    e.holds clause v m = e.holds clause v n := by
  rw [holds_eq_unlimited hm, holds_eq_unlimited hn]

end Evaluator

/-! ### Composites that declarations lead to -/

namespace Catalog

variable {c : Catalog} {d : Composite}

/-- The fields of a composite have distinct names. -/
def DistinctFields (c : Catalog) : Prop := ∀ d ∈ c.composites, (d.fields.map Prod.fst).Nodup

theorem Adds.distinctFields {c d : Catalog} (h : c.Adds d) (distinct : c.DistinctFields) :
    d.DistinctFields := by
  intro x mem
  cases h with
  | composite fresh known new_distinct built new =>
      rcases List.mem_append.1 mem with old | last
      · exact distinct x old
      · rwa [List.mem_singleton.1 last]
  | _ => exact distinct x mem

theorem distinctFields_applyAll (ds : List Declaration) : (empty.applyAll ds).DistinctFields :=
  (reaches_applyAll empty ds).induction (by simp [DistinctFields, empty]) Adds.distinctFields

theorem fieldPattern_of_mem (distinct : (d.fields.map Prod.fst).Nodup) {f : String × PatternId}
    (mem : f ∈ d.fields) : d.fieldPattern f.1 = .ok f.2 := by
  rw [Composite.fieldPattern, Keyed.find?_of_nodup distinct mem]

/-- Every value of a record is one that its field allows. -/
def FitsFields (c : Catalog) (d : Composite) (fields : List (String × Value)) : Prop :=
  ∀ f v, Keyed.find? f fields = some v → ∃ id, d.fieldPattern f = .ok id ∧ c.validate id v = .ok ()

/-- No field is missing that its own pattern demands. -/
def HasDemanded (c : Catalog) (d : Composite) (record : Value) : Prop :=
  ∀ f ∈ d.fields, ∀ s, c.registry.resolve? f.2 = some s → s.contains (.required true) = true →
    (record.get? f.1).isSome

/-- A value that satisfies a pattern satisfies it behind a reference, too. -/
theorem holds_one_of_validate (room : c.registry.size ≤ c.options.maxNesting) {id : PatternId}
    {s : ClauseSet} {v : Value} (known : c.registry.resolve? id = some s)
    (valid : c.validate id v = .ok ()) : ∀ b ∈ s.toList, c.evaluator.Holds b v 1 := by
  intro b hb
  obtain ⟨t, resolved, all⟩ := validate_eq_ok_iff.1 valid
  obtain rfl := Option.some.inj (known.symm.trans resolved)
  have reaches : b.rank ≤ id.index := Registry.rank_le known hb
  have registered : id.index < c.registry.size := Registry.index_lt_of_resolve known
  have limit : c.evaluator.options.maxNesting = c.options.maxNesting := rfl
  have same : c.evaluator.holds b v 1 = c.evaluator.holds b v 0 :=
    Evaluator.holds_eq_of_room (by omega) (by omega)
  rw [Evaluator.Holds, same]
  exact all b hb

/-- **A record whose values fit their fields satisfies the pattern of its composite just when it has
all fields that are demanded.** -/
theorem validate_record_iff (closed : c.Closed) (distinct : c.DistinctFields)
    (room : c.registry.size ≤ c.options.maxNesting) (mem : d ∈ c.composites)
    {fields : List (String × Value)} (fits : c.FitsFields d fields) :
    c.validate d.pattern (.object fields) = .ok () ↔ c.HasDemanded d (.object fields) := by
  obtain ⟨-, s, known, perm⟩ := closed.records d mem
  rw [validate_eq_ok_iff]
  constructor
  · rintro ⟨s', known', all⟩ f field t resolved demands
    obtain rfl := Option.some.inj (known.symm.trans known')
    have clause : Clause.field f.1 f.2 ∈ s.toList :=
      perm.mem_iff.2 (List.mem_cons_of_mem _ (List.mem_map_of_mem field))
    obtain ⟨-, fields', t', same, resolved', -, absent⟩ :=
      Evaluator.holds_field_iff.1 (all _ clause)
    obtain rfl := Value.object.inj same
    obtain rfl := Option.some.inj (resolved.symm.trans resolved')
    rw [Option.isSome_iff_ne_none]
    intro missing
    rw [absent missing] at demands
    simp at demands
  · intro has
    refine ⟨s, known, fun b hb => ?_⟩
    rcases List.mem_cons.1 (perm.mem_iff.1 hb) with rfl | clause
    · exact Evaluator.holds_type_iff.2 ⟨Nat.zero_le _, rfl⟩
    · obtain ⟨f, field, rfl⟩ := List.mem_map.1 clause
      obtain ⟨t, resolved⟩ := closed.fields d mem f field
      refine Evaluator.holds_field_iff.2 ⟨Nat.zero_le _, fields, t, rfl, resolved, ?_, ?_⟩
      · intro w found
        obtain ⟨id, pattern, valid⟩ := fits f.1 w found
        rw [fieldPattern_of_mem (distinct d mem) field] at pattern
        obtain rfl := Except.ok.inj pattern
        exact holds_one_of_validate room resolved valid
      · intro missing
        cases demands : t.contains (.required true) with
        | false => rfl
        | true =>
            have present : (Keyed.find? f.1 fields).isSome := has f field t resolved demands
            simp [missing] at present

end Catalog

/-! ### Stored records -/

namespace Commit

variable {c : Catalog} {commits : List Commit} {m : Commit} {d : Composite}

/-- Every stored value was validated against the pattern of its field. -/
theorem fitsFields_afterAll (own : OneComposite commits) (mem : m ∈ commits)
    (known : c.composite m.composite = .ok d) :
    c.FitsFields d ((Store.afterAll c commits).fields m.key) := by
  intro f v found
  obtain ⟨i, -, wrote⟩ := field?_afterAll_iff.1 found
  obtain ⟨m', d', there, here, known', set, -, valid, -⟩ := wrote.valid_whole
  rw [own m' (List.mem_of_getElem? there) m mem here] at known'
  obtain rfl := Except.ok.inj (known.symm.trans known')
  exact valid f v set

/-- What is stored for an instance of a composite. -/
structure StoredRecord (c : Catalog) (d : Composite) (record : Value) : Prop where
  /-- The record is an object, and all its fields are declared. -/
  declared : ∃ fields, record = .object fields ∧
    ∀ entry ∈ fields, ∃ id, (entry.1, id) ∈ d.fields
  /-- It satisfies the pattern of its composite just when it has all fields that are demanded. -/
  validate_iff : c.validate d.pattern record = .ok () ↔ c.HasDemanded d record

/-- **Stored records are objects with declared fields only, and satisfy the pattern of their composite
just when every field is present that its own pattern demands.** -/
theorem stored_records_agree (ds : List Declaration) (commits : List Commit)
    (room : (Catalog.empty.applyAll ds).registry.size ≤
      (Catalog.empty.applyAll ds).options.maxNesting)
    (own : OneComposite commits) (key : String) (record : Value)
    (stored : (Store.afterAll (Catalog.empty.applyAll ds) commits).get? key = some record) :
    ∃ m ∈ commits, m.key = key ∧
      ∃ d, (Catalog.empty.applyAll ds).composite m.composite = .ok d ∧
        StoredRecord (Catalog.empty.applyAll ds) d record := by
  obtain ⟨m, mem, rfl, d, known⟩ := exists_commit_of_get? stored
  refine ⟨m, mem, rfl, d, known, ?_⟩
  obtain ⟨fields, rfl, sorted⟩ := Store.holdsRecords_afterAll _ commits m.key record stored
  have fits := fitsFields_afterAll own mem known
  rw [Store.fields_of_get? stored] at fits
  constructor
  case declared =>
    refine ⟨fields, rfl, fun entry there => ?_⟩
    obtain ⟨id, pattern, -⟩ := fits entry.1 entry.2 (Keyed.find?_of_mem sorted there)
    exact ⟨id, Catalog.mem_fields pattern⟩
  case validate_iff =>
    exact Catalog.validate_record_iff (Catalog.closed_applyAll ds)
      (Catalog.distinctFields_applyAll ds) room (Catalog.mem_composites known) fits

/-- Accounts with an address, which is demanded, and a short nickname. -/
def accounts : List Declaration :=
  [.pattern (some "Address") [.typeIs (.primitive .string), .required true] [],
    .pattern (some "Nickname") [.typeIs (.primitive .string), .length .lt 5] [],
    .composite "Account" [("address", ⟨0⟩), ("nickname", ⟨1⟩)]]

/-- One account gets a nickname only, another one an address. -/
def signups : List Commit :=
  [⟨"Account", "gus", [("nickname", .string "Gus")]⟩,
    ⟨"Account", "ada", [("address", .string "London")]⟩]

theorem stored_records_agree_signups :
    (["gus", "ada"].map fun key =>
      ((Store.afterAll (Catalog.empty.applyAll accounts) signups).get? key).map fun record =>
        ((Catalog.empty.applyAll accounts).validate ⟨2⟩ record).isOk) = [some false, some true] ∧
      ∀ key ∈ ["gus", "ada"], ∃ record,
        (Store.afterAll (Catalog.empty.applyAll accounts) signups).get? key = some record ∧
          ∃ m ∈ signups, m.key = key ∧
            ∃ d, (Catalog.empty.applyAll accounts).composite m.composite = .ok d ∧
              StoredRecord (Catalog.empty.applyAll accounts) d record := by
  have room : (Catalog.empty.applyAll accounts).registry.size ≤
      (Catalog.empty.applyAll accounts).options.maxNesting := by decide +kernel
  have own : OneComposite signups := by simp [OneComposite, signups]
  have present : ∀ key ∈ ["gus", "ada"],
      ((Store.afterAll (Catalog.empty.applyAll accounts) signups).get? key).isSome := by
    decide +kernel
  refine ⟨by decide +kernel, fun key mem => ?_⟩
  obtain ⟨record, stored⟩ := Option.isSome_iff_exists.1 (present key mem)
  exact ⟨record, stored, stored_records_agree accounts signups room own key record stored⟩

end Commit

end ProvenShapes
