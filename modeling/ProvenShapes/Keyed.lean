/-
**Maps as lists of entries.**

Two kinds of map are used throughout, both of them lists of keys with values.  A *sorted* map keeps
its keys strictly ascending; a *listed* map keeps its keys in the order in which they first came.
In both, writing a key that is present replaces its value where it stands.

Main definitions:

* `Keyed.find?` — the value of a key;
* `Keyed.Ascending` — the keys of a sorted map ascend;
* `Keyed.put` — writing into a sorted map;
* `Keyed.append` — writing into a listed map.

Main results:

* `Keyed.mem_put`, `Keyed.mem_of_find?` — which entries are written and read;
* `Keyed.find?_append` — of two lists of entries the first one counts;
* `Keyed.find?_put_self`, `Keyed.find?_put_of_ne`, `Keyed.find?_put` — what reading gives after
  writing;
* `Keyed.find?_congr` — equal keys find the same value;
* `Keyed.put_put` — of two writes of one key the last one counts;
* `Keyed.ascending_put`, `Keyed.find?_of_mem` — sorted maps stay sorted, and in them every entry is the
  one that its key finds;
* `Keyed.find?_of_nodup` — so it is in every map whose keys are distinct.
-/

set_option autoImplicit false

namespace ProvenShapes.Keyed

variable {κ α : Type} [Ord κ]

/-- The value of a key, if it has one. -/
def find? (key : κ) : List (κ × α) → Option α
  | [] => none
  | entry :: rest => if compare key entry.1 = .eq then some entry.2 else find? key rest

/-- The keys ascend strictly, as those of a sorted map do. -/
abbrev Ascending (entries : List (κ × α)) : Prop :=
  entries.Pairwise fun a b => compare a.1 b.1 = .lt

/-- The key has a value. -/
def contains (key : κ) (entries : List (κ × α)) : Bool := (find? key entries).isSome

/-- Writes a key into a sorted map. -/
def put (key : κ) (value : α) : List (κ × α) → List (κ × α)
  | [] => [(key, value)]
  | entry :: rest =>
      match compare key entry.1 with
      | .lt => (key, value) :: entry :: rest
      | .eq => (entry.1, value) :: rest
      | .gt => entry :: put key value rest

/-- Writes a key into a listed map: at its place if it has one, otherwise at the end. -/
def append (key : κ) (value : α) : List (κ × α) → List (κ × α)
  | [] => [(key, value)]
  | entry :: rest =>
      if compare key entry.1 = .eq then (entry.1, value) :: rest
      else entry :: append key value rest

/-- The sorted map of a list of entries; of entries with one key the last one counts. -/
def ofList (entries : List (κ × α)) : List (κ × α) :=
  entries.foldl (fun m entry => put entry.1 entry.2 m) []

/-- The listed map of a list of entries; a repeated key keeps its first place and its last
value. -/
def listOf (entries : List (κ × α)) : List (κ × α) :=
  entries.foldl (fun m entry => append entry.1 entry.2 m) []

theorem mem_put [Std.LawfulEqOrd κ] {key : κ} {value : α}
    {entries : List (κ × α)} {entry : κ × α} (h : entry ∈ put key value entries) :
    entry = (key, value) ∨ entry ∈ entries := by
  induction entries with
  | nil => exact .inl (List.mem_singleton.1 h)
  | cons first rest ih =>
      unfold put at h
      split at h
      · exact List.mem_cons.1 h
      · next same =>
          obtain rfl : key = first.1 := Std.LawfulEqCmp.eq_of_compare same
          rcases List.mem_cons.1 h with here | later
          · exact .inl here
          · exact .inr (List.mem_cons_of_mem _ later)
      · rcases List.mem_cons.1 h with here | later
        · exact .inr (here ▸ List.mem_cons_self)
        · exact (ih later).imp_right (List.mem_cons_of_mem _)

/-- Writing brings in no key but the written one. -/
theorem fst_of_mem_put {key : κ} {value : α} {entries : List (κ × α)} {entry : κ × α}
    (h : entry ∈ put key value entries) : entry.1 = key ∨ ∃ old ∈ entries, old.1 = entry.1 := by
  induction entries with
  | nil => exact .inl (by rw [List.mem_singleton.1 h])
  | cons first rest ih =>
      unfold put at h
      split at h
      · rcases List.mem_cons.1 h with rfl | old
        · exact .inl rfl
        · exact .inr ⟨entry, old, rfl⟩
      · rcases List.mem_cons.1 h with rfl | later
        · exact .inr ⟨first, List.mem_cons_self, rfl⟩
        · exact .inr ⟨entry, List.mem_cons_of_mem _ later, rfl⟩
      · rcases List.mem_cons.1 h with rfl | later
        · exact .inr ⟨entry, List.mem_cons_self, rfl⟩
        · refine (ih later).imp_right fun ⟨old, mem, eq⟩ => ?_
          exact ⟨old, List.mem_cons_of_mem _ mem, eq⟩

theorem mem_of_find? [Std.LawfulEqOrd κ] {key : κ} {value : α}
    {entries : List (κ × α)} (h : find? key entries = some value) : (key, value) ∈ entries := by
  induction entries with
  | nil => simp [find?] at h
  | cons first rest ih =>
      unfold find? at h
      split at h
      · next same =>
          obtain rfl : key = first.1 := Std.LawfulEqCmp.eq_of_compare same
          obtain rfl := Option.some.inj h
          exact List.mem_cons_self
      · exact List.mem_cons_of_mem _ (ih h)

theorem find?_of_nodup [Std.LawfulEqOrd κ] {entries : List (κ × α)} {entry : κ × α}
    (distinct : (entries.map Prod.fst).Nodup) (mem : entry ∈ entries) :
    find? entry.1 entries = some entry.2 := by
  induction entries with
  | nil => simp at mem
  | cons first rest ih =>
      rw [List.map_cons, List.nodup_cons] at distinct
      unfold find?
      rcases List.mem_cons.1 mem with rfl | later
      · rw [if_pos Std.ReflCmp.compare_self]
      · have apart : compare entry.1 first.1 ≠ .eq := by
          intro same
          rw [← Std.LawfulEqCmp.eq_of_compare same] at distinct
          exact distinct.1 (List.mem_map_of_mem later)
        rw [if_neg apart, ih distinct.2 later]

theorem find?_eq_none {key : κ} {entries : List (κ × α)}
    (absent : ∀ entry ∈ entries, compare key entry.1 ≠ .eq) : find? key entries = none := by
  induction entries with
  | nil => rfl
  | cons first rest ih =>
      have later : ∀ entry ∈ rest, compare key entry.1 ≠ .eq := fun entry mem =>
        absent entry (List.mem_cons_of_mem _ mem)
      rw [find?, if_neg (absent first List.mem_cons_self), ih later]

theorem find?_append (key : κ) (l m : List (κ × α)) :
    find? key (l ++ m) = (find? key l).or (find? key m) := by
  induction l with
  | nil => rfl
  | cons first rest ih =>
      simp only [List.cons_append, find?, ih]
      split <;> rfl

variable [Std.TransOrd κ]

@[simp] theorem find?_put_self (key : κ) (value : α) (m : List (κ × α)) :
    find? key (put key value m) = some value := by
  induction m with
  | nil => simp [put, find?]
  | cons entry rest ih =>
      unfold put
      split
      · simp [find?]
      · next h => simp [find?, h]
      · next h => simp [find?, h, ih]

theorem find?_put_of_ne {key other : κ} (value : α) (m : List (κ × α))
    (h : compare other key ≠ .eq) : find? other (put key value m) = find? other m := by
  induction m with
  | nil => simp [put, find?, h]
  | cons entry rest ih =>
      unfold put
      split
      · simp [find?, h]
      · next e =>
          have : compare other entry.1 ≠ .eq := fun c =>
            h (Std.TransCmp.eq_trans c (Std.OrientedCmp.eq_comm.1 e))
          simp [find?, this]
      · simp [find?, ih]

theorem find?_put [Std.LawfulEqOrd κ] [DecidableEq κ] (key other : κ) (value : α)
    (m : List (κ × α)) :
    find? other (put key value m) = if other = key then some value else find? other m := by
  split
  · next same => rw [same, find?_put_self]
  · next apart => exact find?_put_of_ne value m fun h => apart (Std.LawfulEqCmp.eq_of_compare h)

/-- Of two writes of one key the last one counts. -/
theorem put_put (key : κ) (first second : α) (m : List (κ × α)) :
    put key second (put key first m) = put key second m := by
  induction m with
  | nil => simp [put]
  | cons entry rest ih =>
      cases order : compare key entry.1 with
      | lt => simp [put, order]
      | eq => simp [put, order]
      | gt => simp [put, order, ih]

theorem ascending_put {key : κ} {value : α} {entries : List (κ × α)}
    (h : Ascending entries) : Ascending (put key value entries) := by
  induction entries with
  | nil => simp [put]
  | cons first rest ih =>
      obtain ⟨least, tail⟩ := List.pairwise_cons.1 h
      unfold put
      split
      · next lt =>
          refine List.pairwise_cons.2 ⟨fun entry mem => ?_, h⟩
          rcases List.mem_cons.1 mem with rfl | mem
          · exact lt
          · exact Std.TransCmp.lt_trans lt (least entry mem)
      · exact List.pairwise_cons.2 ⟨least, tail⟩
      · next gt =>
          refine List.pairwise_cons.2 ⟨fun entry mem => ?_, ih tail⟩
          rcases fst_of_mem_put mem with same | ⟨old, mem, same⟩
          · exact same ▸ Std.OrientedCmp.lt_of_gt gt
          · exact same ▸ least old mem

theorem find?_of_mem {entries : List (κ × α)} {entry : κ × α}
    (h : Ascending entries) (mem : entry ∈ entries) :
    find? entry.1 entries = some entry.2 := by
  induction entries with
  | nil => simp at mem
  | cons first rest ih =>
      obtain ⟨least, tail⟩ := List.pairwise_cons.1 h
      unfold find?
      rcases List.mem_cons.1 mem with rfl | mem
      · rw [if_pos Std.ReflCmp.compare_self]
      · have later : compare entry.1 first.1 = .gt := Std.OrientedCmp.gt_of_lt (least entry mem)
        rw [if_neg (by simp [later]), ih tail mem]

/-- Equal keys find the same value. -/
theorem find?_congr {key other : κ} (same : compare key other = .eq) (entries : List (κ × α)) :
    find? key entries = find? other entries := by
  induction entries with
  | nil => rfl
  | cons first rest ih =>
      have first := Std.TransCmp.congr_left (c := first.1) same
      simp only [find?, first, ih]

end ProvenShapes.Keyed
