/-
**The store after a run of commits.**

A commit is asked for by a composite, an instance and calls that set fields one after the other; a
call for a field that the composite lacks changes nothing.  What matters of the calls is the last
value that they set for each field.  The writes are carried out on a copy of the record, so a commit
that fails leaves the store as it was, however far it came.  A commit that succeeds lays its values
over the record of its instance, and because it writes whole components, the fields of a component
always go back to one and the same commit.

Main definitions:

* `Commit`, `Commit.lastSet` — a commit, and the value that it has for a field;
* `Commit.perform`, `Store.after`, `Store.afterAll` — carrying out a commit, and a run of commits;
* `Commit.Behaves` — **what a commit does**;
* `Commit.WroteAt`, `Commit.LastWriter` — the commits of a run that wrote a field of an instance;
* `Commit.Coherent` — **what a run of commits leaves in the store**.

Main results:

* `Store.commit_of_error`, `ChangeSet.commit_of_error` — a commit that fails leaves the store alone;
* `ChangeSet.commit_of_check` — a commit into a store of records is two checks and a write;
* `Store.HoldsRecords.behaves` — what a commit does to a store of records;
* `Commit.field?_afterAll_iff` — a field holds what was last written to it;
* `Commit.store_after_commits` — **the store after any run of commits**.
-/

import Mathlib.Data.List.Induction
import ProvenShapes.Catalog.Commit
import ProvenShapes.Proofs.CoMutation
import ProvenShapes.Proofs.Lookups

set_option autoImplicit false

namespace ProvenShapes

/-- A commit that is asked for: a composite, an instance, and calls that set fields of it, in the
order in which they are made. -/
structure Commit where
  composite : String
  key : String
  sets : List (String × Value)

/-! ### Writes -/

namespace ChangeSet

/-- The change set after a call that sets a field, whether it is refused or not. -/
def attempt (cs : ChangeSet) (write : String × Value) : ChangeSet := (cs.set write.1 write.2).1

/-- Fields with some of them written anew. -/
def overlay (fields : List (String × Value)) : List (String × Value) → List (String × Value)
  | [] => fields
  | write :: rest => overlay (Keyed.put write.1 write.2 fields) rest

variable {c : Catalog} {cs : ChangeSet} {fields writes : List (String × Value)} {f : String}

/-- A call that is refused changes nothing. -/
theorem attempt_eq (cs : ChangeSet) (write : String × Value) :
    cs.attempt write =
      if Keyed.contains write.1 cs.composite.fields then
        { cs with writes := Keyed.put write.1 write.2 cs.writes }
      else cs := by
  unfold attempt set Composite.fieldPattern Keyed.contains
  cases Keyed.find? write.1 cs.composite.fields <;> rfl

/-- What the calls leave of a change set: the last value that they set for each field of the
composite. -/
theorem attempt_foldl (sets : List (String × Value)) (cs : ChangeSet)
    (sorted : Keyed.Ascending cs.writes) :
    (sets.foldl attempt cs).composite = cs.composite ∧ (sets.foldl attempt cs).key = cs.key ∧
      Keyed.Ascending (sets.foldl attempt cs).writes ∧
      ∀ f, Keyed.find? f (sets.foldl attempt cs).writes =
        (if Keyed.contains f cs.composite.fields then sets.reverse.lookup f else none).or
          (Keyed.find? f cs.writes) := by
  induction sets generalizing cs with
  | nil => exact ⟨rfl, rfl, sorted, fun f => by simp⟩
  | cons write rest ih =>
      rw [List.foldl_cons, attempt_eq]
      split
      · next has =>
          have grown : Keyed.Ascending (Keyed.put write.1 write.2 cs.writes) :=
            Keyed.ascending_put sorted
          obtain ⟨composite, key, sorted', finds⟩ := ih { cs with writes := _ } grown
          refine ⟨composite, key, sorted', fun f => ?_⟩
          rw [finds, Keyed.find?_put, List.reverse_cons, List.lookup_append]
          by_cases same : f = write.1
          · subst same
            cases rest.reverse.lookup write.1 <;> simp [has, List.lookup]
          · have apart : (f == write.1) = false := by simpa using same
            simp [same, apart, List.lookup]
      · next lacks =>
          obtain ⟨composite, key, sorted', finds⟩ := ih cs sorted
          refine ⟨composite, key, sorted', fun f => ?_⟩
          rw [finds, List.reverse_cons, List.lookup_append]
          by_cases same : f = write.1
          · subst same
            simp [lacks]
          · have apart : (f == write.1) = false := by simpa using same
            simp [apart, List.lookup]

theorem ascending_overlay (h : Keyed.Ascending fields) :
    Keyed.Ascending (overlay fields writes) := by
  induction writes generalizing fields with
  | nil => exact h
  | cons write rest ih => exact ih (Keyed.ascending_put h)

/-- A field that is written has its new value, and every other field its old one. -/
theorem find?_overlay (sorted : Keyed.Ascending writes) :
    Keyed.find? f (overlay fields writes) =
      (Keyed.find? f writes).or (Keyed.find? f fields) := by
  induction writes generalizing fields with
  | nil => rfl
  | cons write rest ih =>
      obtain ⟨least, tail⟩ := List.pairwise_cons.1 sorted
      rw [overlay, ih tail, Keyed.find?_put, Keyed.find?]
      by_cases same : f = write.1
      · -- the field is not written again
        subst same
        have once : Keyed.find? write.1 rest = none := by
          cases later : Keyed.find? write.1 rest with
          | none => rfl
          | some v => simpa using least _ (Keyed.mem_of_find? later)
        simp [once]
      · have apart : compare f write.1 ≠ .eq := fun h => same (Std.LawfulEqCmp.eq_of_compare h)
        simp [same, apart]

theorem writeFields_object (fields writes : List (String × Value)) :
    writeFields (.object fields) writes = (.object (overlay fields writes), .ok ()) := by
  induction writes generalizing fields with
  | nil => rfl
  | cons write rest ih => exact ih _

theorem writeFields_undefined (some : writes ≠ []) :
    writeFields .undefined writes = (.object (overlay [] writes), .ok ()) := by
  cases writes with
  | nil => exact absurd rfl some
  | cons write rest => exact writeFields_object _ rest

/-- The values of a change set are right when each satisfies the pattern of its field. -/
theorem checkValues_eq_ok_iff {d : Composite} :
    checkValues c d writes = .ok () ↔
      ∀ w ∈ writes, ∃ id, d.fieldPattern w.1 = .ok id ∧ c.validate id w.2 = .ok () := by
  induction writes with
  | nil => simp [checkValues]
  | cons write rest ih =>
      rw [checkValues, bind_eq_ok_iff, List.forall_mem_cons, ← ih]
      constructor
      · rintro ⟨id, known, checked⟩
        obtain ⟨_, valid, later⟩ := bind_eq_ok_iff.1 checked
        exact ⟨⟨id, known, valid⟩, later⟩
      · rintro ⟨⟨id, known, valid⟩, later⟩
        exact ⟨id, known, bind_eq_ok_iff.2 ⟨(), valid, later⟩⟩

/-- Checking values never fails with a refusal of the store. -/
theorem failsOnly_checkValues {d : Composite} :
    FailsOnly (fun e => ∀ message, e ≠ .storage message) (checkValues c d writes) := by
  induction writes with
  | nil => exact failsOnly_ok ()
  | cons write rest ih =>
      rw [checkValues]
      refine FailsOnly.bind ?_ fun id _ => FailsOnly.bind ?_ fun _ _ => ih
      · unfold Composite.fieldPattern
        split
        · exact failsOnly_ok _
        · exact failsOnly_error fun message => by simp
      · refine (c.failsOnly_validate id write.2).imp fun e sort message same => ?_
        rw [same] at sort
        obtain ⟨⟨⟩⟩ | _ := sort

end ChangeSet

/-! ### Records -/

namespace Store

/-- The fields of the record of an instance. -/
def fields (s : Store) (key : String) : List (String × Value) :=
  match s.get? key with
  | some (.object fields) => fields
  | _ => []

/-- The value of a field of an instance. -/
def field? (s : Store) (key f : String) : Option Value := Keyed.find? f (s.fields key)

/-- All that is stored are objects with sorted fields. -/
def HoldsRecords (s : Store) : Prop :=
  ∀ key v, s.get? key = some v →
    ∃ fields, v = .object fields ∧ Keyed.Ascending fields

variable {s : Store} {key other f : String} {fields : List (String × Value)} {v : Value}

theorem fields_of_get? (h : s.get? key = some (.object fields)) : s.fields key = fields := by
  rw [Store.fields, h]

theorem fields_of_absent (h : s.get? key = none) : s.fields key = [] := by
  rw [Store.fields, h]

theorem get?_put (s : Store) (key other : String) (v : Value) :
    (Store.mk (Keyed.put key v s.records)).get? other =
      if other = key then some v else s.get? other :=
  Keyed.find?_put key other v s.records

theorem HoldsRecords.ascending (h : s.HoldsRecords) (key : String) :
    Keyed.Ascending (s.fields key) := by
  cases found : s.get? key with
  | none => simp [fields_of_absent found]
  | some v =>
      obtain ⟨fields, rfl, sorted⟩ := h key v found
      rwa [fields_of_get? found]

theorem holdsRecords_empty : empty.HoldsRecords := by
  intro key v h
  simp [empty, get?, Keyed.find?] at h

theorem HoldsRecords.put (h : s.HoldsRecords) (sorted : Keyed.Ascending fields) :
    (Store.mk (Keyed.put key (.object fields) s.records)).HoldsRecords := by
  intro other v found
  rw [get?_put] at found
  split at found
  · obtain rfl := Option.some.inj found
    exact ⟨fields, rfl, sorted⟩
  · exact h other v found

end Store

/-- An edit that fails leaves the store as it was, whatever it did to its copy of the record. -/
theorem Store.commit_of_error {s : Store} {key : String} {edit : Value → Value × Except Error Unit}
    {e : Error} (h : (s.commit key edit).2 = .error e) : (s.commit key edit).1 = s := by
  unfold Store.commit at h ⊢
  split at h
  · rfl
  · split at h <;> simp at h

namespace ChangeSet

variable {c : Catalog} {cs : ChangeSet} {s : Store} {e : Error}

/-- The checks that a commit makes: of its values, and of the fields that it writes. -/
def check (cs : ChangeSet) (c : Catalog) : Except Error Unit := do
  checkValues c cs.composite cs.writes
  cs.composite.checkCommit cs.written

/-- **A commit that fails leaves the store as it was.** -/
theorem commit_of_error (h : (cs.commit c s).2 = .error e) : (cs.commit c s).1 = s := by
  unfold commit at h ⊢
  split
  · rfl
  · next some =>
      rw [if_neg some] at h
      split
      · rfl
      · next checked =>
          rw [checked] at h
          exact Store.commit_of_error h

theorem commit_of_check_error (some : cs.writes ≠ []) (h : cs.check c = .error e) :
    cs.commit c s = (s, .error e) := by
  have written : cs.writes.isEmpty = false := by simpa using some
  unfold commit
  unfold check at h
  rw [written]
  cases values : checkValues c cs.composite cs.writes with
  | error e' =>
      rw [values] at h
      obtain rfl := Except.error.inj h
      rfl
  | ok _ =>
      rw [values] at h
      have refused : cs.composite.checkCommit cs.written = .error e := h
      simp [Store.commit, apply, refused]

/-- **A commit into a store of records is two checks and a write.** -/
theorem commit_of_check (records : s.HoldsRecords) (some : cs.writes ≠ [])
    (h : cs.check c = .ok ()) :
    cs.commit c s =
      (⟨Keyed.put cs.key (.object (overlay (s.fields cs.key) cs.writes)) s.records⟩, .ok ()) := by
  have applied : writeFields ((s.get? cs.key).getD .undefined) cs.writes =
      (.object (overlay (s.fields cs.key) cs.writes), .ok ()) := by
    cases found : s.get? cs.key with
    | none =>
        rw [s.fields_of_absent found]
        exact writeFields_undefined some
    | some v =>
        obtain ⟨fields, rfl, -⟩ := records cs.key v found
        rw [s.fields_of_get? found]
        exact writeFields_object fields cs.writes
  have written : cs.writes.isEmpty = false := by simpa using some
  obtain ⟨_, values, allowed⟩ := bind_eq_ok_iff.1 h
  simp [commit, written, values, Store.commit, apply, allowed, applied, Value.isUndefined]

end ChangeSet

/-! ### One commit -/

namespace Commit

/-- The change set that the calls build. -/
def changeSet (m : Commit) (c : Catalog) : Except Error ChangeSet := do
  return m.sets.foldl ChangeSet.attempt (← c.changeSet m.composite m.key)

/-- The commit carried out on a store. -/
def perform (m : Commit) (c : Catalog) (s : Store) : Store × Except Error Unit :=
  match m.changeSet c with
  | .error e => (s, .error e)
  | .ok cs => cs.commit c s

/-- The last value that is set for a field of a composite. -/
def lastSet (m : Commit) (d : Composite) (f : String) : Option Value :=
  if Keyed.contains f d.fields then m.sets.reverse.lookup f else none

/-- Each value satisfies the pattern of its field. -/
def Valid (m : Commit) (c : Catalog) (d : Composite) : Prop :=
  ∀ f v, m.lastSet d f = some v → ∃ id, d.fieldPattern f = .ok id ∧ c.validate id v = .ok ()

/-- With a field, all fields are written that change with it. -/
def Whole (m : Commit) (d : Composite) : Prop :=
  ∀ f, (m.lastSet d f).isSome → ∀ x ∈ d.coMutationSet f, (m.lastSet d x).isSome

end Commit

/-- The store after a commit, whether it succeeds or not. -/
def Store.after (c : Catalog) (s : Store) (m : Commit) : Store := (m.perform c s).1

/-- The store after a run of commits, from the store without records. -/
def Store.afterAll (c : Catalog) (commits : List Commit) : Store := commits.foldl (after c) .empty

namespace Commit

/-- The commit is carried out on the store and writes a value to a field of an instance. -/
def WritesTo (m : Commit) (c : Catalog) (s : Store) (key f : String) (v : Value) : Prop :=
  m.key = key ∧ ∃ d, c.composite m.composite = .ok d ∧ m.lastSet d f = some v ∧
    (m.perform c s).2.isOk

/-- What a commit does to a store. -/
structure Behaves (m : Commit) (c : Catalog) (s : Store) : Prop where
  /-- It succeeds just when its values are valid and it writes whole components. -/
  succeeds_iff : ∀ d, c.composite m.composite = .ok d → (∃ f, (m.lastSet d f).isSome) →
    ((m.perform c s).2.isOk ↔ m.Valid c d ∧ m.Whole d)
  /-- A commit that writes nothing succeeds and changes nothing. -/
  idle : ∀ d, c.composite m.composite = .ok d → (∀ f, m.lastSet d f = none) →
    (m.perform c s).2.isOk ∧ s.after c m = s
  /-- A commit that fails changes nothing. -/
  failed : (m.perform c s).2.isOk = false → s.after c m = s
  /-- Other instances keep their records. -/
  others : ∀ key, key ≠ m.key → (s.after c m).get? key = s.get? key
  /-- The last value set for each written field is laid over the old record. -/
  overlays : ∀ d, c.composite m.composite = .ok d → (∃ f, (m.lastSet d f).isSome) →
    (m.perform c s).2.isOk →
      ∃ fields, (s.after c m).get? m.key = some (.object fields) ∧
        Keyed.Ascending fields ∧
        ∀ f, Keyed.find? f fields = (m.lastSet d f).or (s.field? m.key f)
  /-- The store never refuses a write. -/
  stores : ∀ message, (m.perform c s).2 ≠ .error (.storage message)

variable {m : Commit} {c : Catalog} {d : Composite} {s next : Store} {f x key : String}

/-- The change set of a commit holds the last value set for each field of the composite. -/
theorem changeSet_eq_ok (known : c.composite m.composite = .ok d) :
    ∃ cs, m.changeSet c = .ok cs ∧ cs.composite = d ∧ cs.key = m.key ∧
      Keyed.Ascending cs.writes ∧ ∀ f, Keyed.find? f cs.writes = m.lastSet d f := by
  obtain ⟨composite, key, sorted, finds⟩ :=
    ChangeSet.attempt_foldl m.sets ⟨d, m.key, []⟩ List.Pairwise.nil
  refine ⟨m.sets.foldl ChangeSet.attempt ⟨d, m.key, []⟩, ?_, composite, key, sorted, fun f => ?_⟩
  · simp [changeSet, Catalog.changeSet, known, bind, Except.bind, pure, Except.pure]
  · rw [finds]
    exact Option.or_none

theorem mem_writes_iff {cs : ChangeSet} (sorted : Keyed.Ascending cs.writes)
    (finds : ∀ f, Keyed.find? f cs.writes = m.lastSet d f) {w : String × Value} :
    w ∈ cs.writes ↔ m.lastSet d w.1 = some w.2 := by
  rw [← finds]
  exact ⟨Keyed.find?_of_mem sorted, Keyed.mem_of_find?⟩

theorem mem_written_iff {cs : ChangeSet} (sorted : Keyed.Ascending cs.writes)
    (finds : ∀ f, Keyed.find? f cs.writes = m.lastSet d f) :
    f ∈ cs.written ↔ (m.lastSet d f).isSome := by
  rw [ChangeSet.written, List.mem_map, Option.isSome_iff_exists]
  constructor
  · rintro ⟨w, mem, rfl⟩
    exact ⟨w.2, (mem_writes_iff sorted finds).1 mem⟩
  · rintro ⟨v, set⟩
    exact ⟨(f, v), (mem_writes_iff sorted finds).2 set, rfl⟩

theorem perform_of_changeSet {cs : ChangeSet} (built : m.changeSet c = .ok cs) :
    m.perform c s = cs.commit c s := by
  rw [perform, built]

/-- **A commit that fails changes nothing.** -/
theorem perform_of_error {e : Error} (h : (m.perform c s).2 = .error e) :
    (m.perform c s).1 = s := by
  cases built : m.changeSet c with
  | error e' => rw [perform, built]
  | ok cs =>
      rw [perform_of_changeSet built] at h ⊢
      exact ChangeSet.commit_of_error h

/-- A commit that writes nothing succeeds and changes nothing. -/
theorem perform_eq_of_idle (known : c.composite m.composite = .ok d)
    (idle : ∀ f, m.lastSet d f = none) : m.perform c s = (s, .ok ()) := by
  obtain ⟨cs, built, -, -, sorted, finds⟩ := changeSet_eq_ok known
  have nothing : cs.writes = [] := by
    refine List.eq_nil_iff_forall_not_mem.2 fun w mem => ?_
    have set := (mem_writes_iff sorted finds).1 mem
    simp [idle] at set
  rw [perform_of_changeSet built]
  simp [ChangeSet.commit, nothing]

/-- The checks of a commit are passed just when its values are valid and it writes whole
components. -/
theorem check_eq_ok_iff {cs : ChangeSet} (sorted : Keyed.Ascending cs.writes)
    (finds : ∀ f, Keyed.find? f cs.writes = m.lastSet cs.composite f) :
    cs.check c = .ok () ↔ m.Valid c cs.composite ∧ m.Whole cs.composite := by
  have valid :
      ChangeSet.checkValues c cs.composite cs.writes = .ok () ↔ m.Valid c cs.composite := by
    rw [ChangeSet.checkValues_eq_ok_iff, Valid, Prod.forall]
    simp only [mem_writes_iff sorted finds]
  have whole : cs.composite.checkCommit cs.written = .ok () ↔ m.Whole cs.composite := by
    rw [Composite.checkCommit_eq_ok_iff, Whole]
    simp only [mem_written_iff sorted finds]
  rw [ChangeSet.check, bind_eq_ok_iff, ← valid, ← whole]
  exact ⟨fun ⟨_, checked, allowed⟩ => ⟨checked, allowed⟩,
    fun ⟨checked, allowed⟩ => ⟨(), checked, allowed⟩⟩

/-- **When a commit that writes something succeeds, and with what.** -/
theorem exists_perform_eq (records : s.HoldsRecords)
    (known : c.composite m.composite = .ok d) (some : ∃ f, (m.lastSet d f).isSome) :
    ∃ fields : List (String × Value), Keyed.Ascending fields ∧
      (∀ f, Keyed.find? f fields = (m.lastSet d f).or (s.field? m.key f)) ∧
      (m.Valid c d ∧ m.Whole d →
        m.perform c s = (⟨Keyed.put m.key (.object fields) s.records⟩, .ok ())) ∧
      (¬(m.Valid c d ∧ m.Whole d) → ∃ e, m.perform c s = (s, .error e)) := by
  obtain ⟨cs, built, rfl, key, sorted, finds⟩ := changeSet_eq_ok known
  have writes : cs.writes ≠ [] := by
    obtain ⟨f, set⟩ := some
    intro nothing
    simp [← finds, nothing, Keyed.find?] at set
  rw [perform_of_changeSet built, ← check_eq_ok_iff sorted finds, ← key]
  refine ⟨ChangeSet.overlay (s.fields cs.key) cs.writes,
    ChangeSet.ascending_overlay (records.ascending cs.key), fun f => ?_,
    ChangeSet.commit_of_check records writes, fun failed => ?_⟩
  · rw [ChangeSet.find?_overlay sorted, finds, Store.field?]
  · cases checked : cs.check c with
    | ok _ => exact absurd checked failed
    | error e => exact ⟨e, ChangeSet.commit_of_check_error writes checked⟩

/-- A store of records never refuses a write. -/
theorem perform_ne_storage (records : s.HoldsRecords) (message : String) :
    (m.perform c s).2 ≠ .error (.storage message) := by
  let Never := fun e : Error => ∀ message, e ≠ .storage message
  have opened : FailsOnly Never (m.changeSet c) := by
    refine FailsOnly.bind (FailsOnly.bind ?_ fun _ _ => failsOnly_ok _) fun _ _ => failsOnly_ok _
    unfold Catalog.composite
    split
    · exact failsOnly_ok _
    · exact failsOnly_error fun message => by simp
  have checked : ∀ cs : ChangeSet, FailsOnly Never (cs.check c) := by
    refine fun cs => ChangeSet.failsOnly_checkValues.bind fun _ _ => ?_
    unfold Composite.checkCommit
    split
    · exact failsOnly_ok ()
    · exact failsOnly_error fun message => by simp
  intro refused
  cases built : m.changeSet c with
  | error e =>
      rw [perform, built] at refused
      exact opened e built message (Except.error.inj refused)
  | ok cs =>
      rw [perform_of_changeSet built] at refused
      by_cases nothing : cs.writes = []
      · simp [ChangeSet.commit, nothing] at refused
      · cases passed : cs.check c with
        | ok _ => simp [ChangeSet.commit_of_check records nothing passed] at refused
        | error e =>
            rw [ChangeSet.commit_of_check_error nothing passed] at refused
            exact checked cs e passed message (Except.error.inj refused)

end Commit

namespace Store

variable {m : Commit} {c : Catalog} {s : Store}

theorem after_of_isOk_eq_false (h : (m.perform c s).2.isOk = false) : s.after c m = s := by
  cases failed : (m.perform c s).2 with
  | ok _ => simp [failed, Except.isOk, Except.toBool] at h
  | error e => exact Commit.perform_of_error failed

/-- A commit leaves the store alone, or lays what it writes over the record of its instance. -/
theorem after_cases (records : s.HoldsRecords) (c : Catalog) (m : Commit) :
    (s.after c m = s ∧ ∀ key f v, ¬ m.WritesTo c s key f v) ∨
      ∃ d fields, c.composite m.composite = .ok d ∧ (m.perform c s).2.isOk ∧
        Keyed.Ascending fields ∧
        (∀ f, Keyed.find? f fields = (m.lastSet d f).or (s.field? m.key f)) ∧
        s.after c m = ⟨Keyed.put m.key (.object fields) s.records⟩ := by
  cases done : (m.perform c s).2.isOk with
  | false =>
      refine .inl ⟨after_of_isOk_eq_false done, ?_⟩
      rintro key f v ⟨-, d, -, -, succeeded⟩
      simp [done] at succeeded
  | true =>
      obtain ⟨cs, built⟩ : ∃ cs, m.changeSet c = .ok cs := by
        cases built : m.changeSet c with
        | ok cs => exact ⟨cs, rfl⟩
        | error e => simp [Commit.perform, built, Except.isOk, Except.toBool] at done
      obtain ⟨opened, opens, -⟩ := bind_eq_ok_iff.1 built
      obtain ⟨d, known, -⟩ := bind_eq_ok_iff.1 opens
      by_cases some : ∃ f, (m.lastSet d f).isSome
      · obtain ⟨fields, sorted, finds, succeeds, fails⟩ := Commit.exists_perform_eq records known some
        by_cases right : m.Valid c d ∧ m.Whole d
        · exact .inr ⟨d, fields, known, rfl, sorted, finds, by rw [after, succeeds right]⟩
        · obtain ⟨e, failed⟩ := fails right
          simp [failed, Except.isOk, Except.toBool] at done
      · have idle : ∀ f, m.lastSet d f = none := fun f =>
          Option.not_isSome_iff_eq_none.1 fun set => some ⟨f, set⟩
        refine .inl ⟨by rw [after, Commit.perform_eq_of_idle known idle], ?_⟩
        rintro key f v ⟨-, d', known', set, -⟩
        obtain rfl := Except.ok.inj (known.symm.trans known')
        simp [idle] at set

/-- After a commit a field holds what the commit wrote to it, or what it held before. -/
theorem field?_after_iff (records : s.HoldsRecords) {key f : String} {v : Value} :
    (s.after c m).field? key f = some v ↔
      m.WritesTo c s key f v ∨ s.field? key f = some v ∧ ∀ w, ¬ m.WritesTo c s key f w := by
  rcases after_cases records c m with ⟨same, nothing⟩ | ⟨d, fields, known, done, -, finds, written⟩
  · rw [same]
    simp [nothing]
  · have writesTo : ∀ w, m.WritesTo c s key f w ↔ m.key = key ∧ m.lastSet d f = some w := by
      intro w
      constructor
      · rintro ⟨here, d', known', set, -⟩
        obtain rfl := Except.ok.inj (known.symm.trans known')
        exact ⟨here, set⟩
      · exact fun ⟨here, set⟩ => ⟨here, d, known, set, done⟩
    simp only [writesTo]
    by_cases here : m.key = key
    · subst here
      have new : (s.after c m).fields m.key = fields :=
        fields_of_get? (by rw [written, get?_put, if_pos rfl])
      rw [Store.field?, new, finds]
      cases m.lastSet d f <;> simp
    · have old : (s.after c m).fields key = s.fields key := by
        rw [Store.fields, Store.fields, written, get?_put, if_neg (Ne.symm here)]
      rw [Store.field?, old, ← Store.field?]
      simp [here]

theorem HoldsRecords.after (records : s.HoldsRecords) (c : Catalog) (m : Commit) :
    (s.after c m).HoldsRecords := by
  rcases after_cases records c m with ⟨same, -⟩ | ⟨d, fields, -, -, sorted, -, written⟩
  · rwa [same]
  · rw [written]
    exact records.put sorted

theorem afterAll_concat (c : Catalog) (commits : List Commit) (m : Commit) :
    afterAll c (commits ++ [m]) = (afterAll c commits).after c m := by
  simp [afterAll]

theorem holdsRecords_afterAll (c : Catalog) (commits : List Commit) :
    (afterAll c commits).HoldsRecords := by
  induction commits using List.reverseRecOn with
  | nil => exact holdsRecords_empty
  | append_singleton commits m ih =>
      rw [afterAll_concat]
      exact ih.after c m

/-- **What a commit does to a store of records.** -/
theorem HoldsRecords.behaves (records : s.HoldsRecords) (c : Catalog) (m : Commit) :
    m.Behaves c s where
  succeeds_iff d known some := by
    obtain ⟨fields, -, -, succeeds, fails⟩ := Commit.exists_perform_eq records known some
    constructor
    · intro done
      by_contra wrong
      obtain ⟨e, failed⟩ := fails wrong
      simp [failed, Except.isOk, Except.toBool] at done
    · intro right
      rw [succeeds right]
      rfl
  idle d known idle := by
    rw [Store.after, Commit.perform_eq_of_idle known idle]
    exact ⟨rfl, rfl⟩
  failed := after_of_isOk_eq_false
  others key apart := by
    rcases after_cases records c m with ⟨same, -⟩ | ⟨d, fields, -, -, -, -, written⟩
    · rw [same]
    · rw [written, get?_put, if_neg apart]
  overlays d known some done := by
    obtain ⟨fields, sorted, finds, succeeds, fails⟩ := Commit.exists_perform_eq records known some
    by_cases right : m.Valid c d ∧ m.Whole d
    · refine ⟨fields, ?_, sorted, finds⟩
      rw [Store.after, succeeds right, get?_put, if_pos rfl]
    · obtain ⟨e, failed⟩ := fails right
      simp [failed, Except.isOk, Except.toBool] at done
  stores := Commit.perform_ne_storage records

end Store

/-! ### Composites of a catalog -/

namespace Catalog

variable {c d : Catalog} {fields : List (String × PatternId)}

end Catalog

/-! ### Runs of commits -/

namespace Commit

variable {c : Catalog} {commits : List Commit} {m : Commit} {d : Composite} {i : Nat}
  {key f x : String} {v : Value}

/-- The commit at a place of a run wrote a value to a field of an instance. -/
def WroteAt (c : Catalog) (commits : List Commit) (i : Nat) (key f : String) (v : Value) : Prop :=
  ∃ m, commits[i]? = some m ∧ m.WritesTo c (Store.afterAll c (commits.take i)) key f v

/-- The commit at a place of a run wrote a field of an instance, and no later one did. -/
def LastWriter (c : Catalog) (commits : List Commit) (key f : String) (i : Nat) : Prop :=
  (∃ v, WroteAt c commits i key f v) ∧ ∀ j, i < j → ∀ v, ¬ WroteAt c commits j key f v

/-- Each instance is used with one composite only. -/
def OneComposite (commits : List Commit) : Prop :=
  ∀ a ∈ commits, ∀ b ∈ commits, a.key = b.key → a.composite = b.composite

theorem WroteAt.lt_length (h : WroteAt c commits i key f v) : i < commits.length := by
  obtain ⟨m, there, -⟩ := h
  exact (List.getElem?_eq_some_iff.1 there).1

theorem WroteAt.le_length (h : WroteAt c (commits ++ [m]) i key f v) : i ≤ commits.length := by
  have bound := h.lt_length
  rw [List.length_append, List.length_singleton] at bound
  omega

theorem wroteAt_concat_of_lt (lt : i < commits.length) :
    WroteAt c (commits ++ [m]) i key f v ↔ WroteAt c commits i key f v := by
  rw [WroteAt, WroteAt, List.getElem?_append_left lt, List.take_append_of_le_length (by omega)]

theorem wroteAt_concat_length :
    WroteAt c (commits ++ [m]) commits.length key f v ↔
      m.WritesTo c (Store.afterAll c commits) key f v := by
  simp [WroteAt]

/-- The last writer of a run stays so unless the next commit writes the field. -/
theorem lastWriter_concat_of_lt (lt : i < commits.length) :
    LastWriter c (commits ++ [m]) key f i ↔
      LastWriter c commits key f i ∧ ∀ w, ¬ m.WritesTo c (Store.afterAll c commits) key f w := by
  simp only [LastWriter, wroteAt_concat_of_lt lt, and_assoc, ← wroteAt_concat_length]
  refine and_congr_right fun _ => ⟨fun last => ⟨fun j later w wrote => ?_, last _ lt⟩, ?_⟩
  · exact last j later w ((wroteAt_concat_of_lt wrote.lt_length).2 wrote)
  · rintro ⟨last, final⟩ j later w wrote
    rcases Nat.lt_or_ge j commits.length with inside | outside
    · exact last j later w ((wroteAt_concat_of_lt inside).1 wrote)
    · obtain rfl : j = commits.length := Nat.le_antisymm wrote.le_length outside
      exact final w wrote

/-- **A field holds what was last written to it.** -/
theorem field?_afterAll_iff :
    (Store.afterAll c commits).field? key f = some v ↔
      ∃ i, LastWriter c commits key f i ∧ WroteAt c commits i key f v := by
  induction commits using List.reverseRecOn with
  | nil => simp [Store.afterAll, Store.empty, Store.field?, Store.fields, Store.get?, Keyed.find?,
      WroteAt]
  | append_singleton commits m ih =>
      rw [Store.afterAll_concat, Store.field?_after_iff (Store.holdsRecords_afterAll c commits), ih]
      constructor
      · rintro (now | ⟨⟨i, last, wrote⟩, never⟩)
        · have wrote := wroteAt_concat_length.2 now
          refine ⟨commits.length, ⟨⟨v, wrote⟩, fun j later w again => ?_⟩, wrote⟩
          exact absurd again.le_length (Nat.not_le.2 later)
        · have lt := wrote.lt_length
          exact ⟨i, (lastWriter_concat_of_lt lt).2 ⟨last, never⟩, (wroteAt_concat_of_lt lt).2 wrote⟩
      · rintro ⟨i, last, wrote⟩
        rcases Nat.lt_or_ge i commits.length with lt | ge
        · obtain ⟨last, never⟩ := (lastWriter_concat_of_lt lt).1 last
          exact .inr ⟨⟨i, last, (wroteAt_concat_of_lt lt).1 wrote⟩, never⟩
        · obtain rfl : i = commits.length := Nat.le_antisymm wrote.le_length ge
          exact .inl (wroteAt_concat_length.1 wrote)

/-- What a commit of a run writes, it writes validly and together with what changes with it. -/
theorem WroteAt.valid_whole (h : WroteAt c commits i key f v) :
    ∃ m d, commits[i]? = some m ∧ m.key = key ∧ c.composite m.composite = .ok d ∧
      m.lastSet d f = some v ∧ (m.perform c (Store.afterAll c (commits.take i))).2.isOk ∧
      m.Valid c d ∧ m.Whole d := by
  obtain ⟨m, there, here, d, known, set, done⟩ := h
  have behaves := (Store.holdsRecords_afterAll c (commits.take i)).behaves c m
  have some : ∃ f, (m.lastSet d f).isSome := ⟨f, by simp [set]⟩
  obtain ⟨valid, whole⟩ := (behaves.succeeds_iff d known some).1 done
  exact ⟨m, d, there, here, known, set, done, valid, whole⟩

/-- A commit that wrote a field also wrote every field that changes with it. -/
theorem WroteAt.together (own : OneComposite commits) (mem : m ∈ commits)
    (known : c.composite m.composite = .ok d) (same : x ∈ d.coMutationSet f)
    (h : WroteAt c commits i m.key f v) : ∃ w, WroteAt c commits i m.key x w := by
  obtain ⟨m', d', there, here, known', set, done, -, whole⟩ := h.valid_whole
  have composite := own m' (List.mem_of_getElem? there) m mem here
  rw [composite] at known'
  obtain rfl := Except.ok.inj (known.symm.trans known')
  obtain ⟨w, also⟩ := Option.isSome_iff_exists.1 (whole f (by simp [set]) x same)
  exact ⟨w, m', there, here, d, composite ▸ known, also, done⟩

/-- Every instance that is stored is the instance of a commit, whose composite is declared. -/
theorem exists_commit_of_get? {record : Value}
    (stored : (Store.afterAll c commits).get? key = some record) :
    ∃ m ∈ commits, m.key = key ∧ ∃ d, c.composite m.composite = .ok d := by
  induction commits using List.reverseRecOn generalizing record with
  | nil => simp [Store.afterAll, Store.empty, Store.get?, Keyed.find?] at stored
  | append_singleton commits m ih =>
      have earlier : (∃ record, (Store.afterAll c commits).get? key = some record) →
          ∃ m' ∈ commits ++ [m], m'.key = key ∧ ∃ d, c.composite m'.composite = .ok d := by
        rintro ⟨record, stored⟩
        obtain ⟨m', mem, used⟩ := ih stored
        exact ⟨m', List.mem_append_left _ mem, used⟩
      rw [Store.afterAll_concat] at stored
      rcases Store.after_cases (Store.holdsRecords_afterAll c commits) c m with
        ⟨same, -⟩ | ⟨d, fields, known, -, -, -, written⟩
      · exact earlier ⟨record, same ▸ stored⟩
      · rw [written, Store.get?_put] at stored
        split at stored
        · next here => exact ⟨m, by simp, here.symm, d, known⟩
        · exact earlier ⟨record, stored⟩

end Commit

end ProvenShapes
