/-
**Places of bindings.**

A name may be bound in several nested scopes, and an operation on a name works on the innermost of
its bindings.  To follow one binding through a run it is addressed by its place: the level of its
scope, counted from the outermost one, and its name.  Levels are counted from outside because the
place of a binding then stays the same while further scopes are entered and left.

Main definitions:

* `Place` — a level and a name;
* `Scopes.at?` — the binding at a place;
* `Scopes.place?` — the place of the innermost binding of a name;
* `Scopes.here` — the place of a name in the innermost scope.

Main results:

* `Scopes.find?_eq_some_iff` — the innermost binding of a name is the one at its place;
* `Scopes.at?_declare`, `Scopes.at?_update`, `Scopes.at?_enter`, `Scopes.at?_of_leave` — **what each
  change of the scopes does at every place**;
* `Scopes.at?_leave_of_lt` — leaving a scope is seen only at its own level;
* `Scopes.place?_update` — an update moves no name to another place;
* `Scopes.place?_eq_some_iff` — the place of a name is the innermost one at which it is bound.
-/

import ProvenShapes.Checker.Scopes

set_option autoImplicit false

namespace ProvenShapes

/-- A level of nesting, counted from the outermost scope, and a name bound there. -/
structure Place where
  level : Nat
  name : String
deriving DecidableEq

namespace Scopes

/-- The binding at a place of a list of scopes, innermost first. -/
def lookup (p : Place) : List Bindings → Option Binding
  | [] => none
  | scope :: rest => if p.level = rest.length then Keyed.find? p.name scope else lookup p rest

/-- The place of the innermost binding of a name in a list of scopes. -/
def locate (name : String) : List Bindings → Option Place
  | [] => none
  | scope :: rest =>
      if Keyed.contains name scope then some ⟨rest.length, name⟩ else locate name rest

/-- The binding at a place. -/
def at? (s : Scopes) (p : Place) : Option Binding := lookup p s.all

/-- The place of the innermost binding of a name. -/
def place? (s : Scopes) (name : String) : Option Place := locate name s.all

/-- The place of a name in the innermost scope. -/
def here (s : Scopes) (name : String) : Place := ⟨s.inner.length, name⟩

variable {s : Scopes} {p q : Place} {name : String} {b : Binding} {scopes : List Bindings}

/-! ### Lists of scopes -/

theorem lookup_of_length_le (h : scopes.length ≤ p.level) : lookup p scopes = none := by
  induction scopes with
  | nil => rfl
  | cons scope rest ih =>
      simp only [List.length_cons] at h
      rw [lookup, if_neg (by omega), ih (by omega)]

theorem level_lt_of_locate (h : locate name scopes = some p) :
    p.level < scopes.length ∧ p.name = name := by
  induction scopes with
  | nil => simp [locate] at h
  | cons scope rest ih =>
      rw [locate] at h
      split at h
      · obtain rfl := Option.some.inj h
        exact ⟨by simp, rfl⟩
      · have := ih h
        exact ⟨by simp only [List.length_cons]; omega, this.2⟩

/-- The place of a name is the innermost one at which it is bound. -/
theorem locate_eq_some_iff :
    locate name scopes = some p ↔ p.name = name ∧ (lookup p scopes).isSome ∧
      ∀ level, p.level < level → lookup ⟨level, name⟩ scopes = none := by
  induction scopes with
  | nil => simp [locate, lookup]
  | cons scope rest ih =>
      rw [locate]
      split
      · next bound =>
          constructor
          · intro located
            obtain rfl := Option.some.inj located
            refine ⟨rfl, by simpa [lookup, Keyed.contains] using bound, fun level above => ?_⟩
            exact lookup_of_length_le above
          · rintro ⟨rfl, found, above⟩
            have top : ¬ rest.length < p.level := by
              intro beyond
              have gone : lookup p (scope :: rest) = none := lookup_of_length_le beyond
              simp [gone] at found
            have bottom : ¬ p.level < rest.length := by
              intro below
              have free := above rest.length below
              simp only [lookup, if_true] at free
              simp [Keyed.contains, free] at bound
            obtain ⟨level, name⟩ := p
            obtain rfl : level = rest.length := by dsimp only at top bottom; omega
            rfl
      · next free =>
          -- the scope has no binding of the name, so it makes no difference to lookups of it
          have skip : ∀ level,
              lookup ⟨level, name⟩ (scope :: rest) = lookup ⟨level, name⟩ rest := by
            intro level
            rw [lookup]
            split
            · next top =>
                rw [lookup_of_length_le (Nat.le_of_eq top.symm)]
                simpa [Keyed.contains] using free
            · rfl
          rw [ih]
          refine and_congr_right fun same => ?_
          subst same
          simp only [skip]

theorem findSome?_eq_lookup :
    scopes.findSome? (Keyed.find? name) = (locate name scopes).bind fun p => lookup p scopes := by
  induction scopes with
  | nil => rfl
  | cons scope rest ih =>
      rw [locate, List.findSome?_cons]
      cases found : Keyed.find? name scope with
      | some b => simp [Keyed.contains, found, lookup]
      | none =>
          simp only [Keyed.contains, found, Option.isSome_none, Bool.false_eq_true, if_false, ih]
          cases located : locate name rest with
          | none => rfl
          | some p =>
              have outer := (level_lt_of_locate located).1
              simp only [Option.bind_some, lookup, if_neg (Nat.ne_of_lt outer)]

theorem lookup_put {scope : Bindings} :
    lookup p (Keyed.put name b scope :: scopes) =
      if p = ⟨scopes.length, name⟩ then some b else lookup p (scope :: scopes) := by
  obtain ⟨level, other⟩ := p
  simp only [lookup, Place.mk.injEq, Keyed.find?_put]
  by_cases same : level = scopes.length
  · simp [same]
  · simp [same]

theorem updateFirst_append (inner outer : List Bindings) :
    updateFirst name b (inner ++ outer) =
      match updateFirst name b inner with
      | some changed => some (changed ++ outer)
      | none => (updateFirst name b outer).map (inner ++ ·) := by
  induction inner with
  | nil => cases h : updateFirst name b outer <;> simp [updateFirst, h]
  | cons scope rest ih =>
      rw [List.cons_append, updateFirst, updateFirst, ih]
      split
      · rfl
      · cases updateFirst name b rest <;> cases updateFirst name b outer <;> rfl

theorem length_updateFirst {changed : List Bindings} (h : updateFirst name b scopes = some changed) :
    changed.length = scopes.length := by
  induction scopes generalizing changed with
  | nil => simp [updateFirst] at h
  | cons scope rest ih =>
      rw [updateFirst] at h
      split at h
      · obtain rfl := Option.some.inj h
        rfl
      · obtain ⟨outer, made, rfl⟩ := Option.map_eq_some_iff.1 h
        rw [List.length_cons, List.length_cons, ih made]

theorem lookup_updateFirst {changed : List Bindings} (located : locate name scopes = some p)
    (h : updateFirst name b scopes = some changed) :
    lookup q changed = if q = p then some b else lookup q scopes := by
  induction scopes generalizing changed with
  | nil => simp [updateFirst] at h
  | cons scope rest ih =>
      rw [updateFirst] at h
      rw [locate] at located
      split at h
      · next bound =>
          rw [if_pos bound] at located
          obtain rfl := Option.some.inj located
          obtain rfl := Option.some.inj h
          exact lookup_put
      · next free =>
          rw [if_neg free] at located
          obtain ⟨outer, made, rfl⟩ := Option.map_eq_some_iff.1 h
          -- the place is further out, so the scope passed over is not the one that is changed
          have deeper := (level_lt_of_locate located).1
          rw [lookup, lookup, length_updateFirst made, ih located made]
          by_cases top : q.level = rest.length
          · have : q ≠ p := by rintro rfl; omega
            simp [top, this]
          · simp [top]

theorem exists_updateFirst (located : locate name scopes = some p) :
    ∃ changed, updateFirst name b scopes = some changed := by
  induction scopes with
  | nil => simp [locate] at located
  | cons scope rest ih =>
      rw [locate] at located
      rw [updateFirst]
      split
      · exact ⟨_, rfl⟩
      · next free =>
          rw [if_neg free] at located
          obtain ⟨changed, h⟩ := ih located
          exact ⟨scope :: changed, by rw [h]; rfl⟩

/-- Replacing a binding moves no name to another place. -/
theorem locate_updateFirst {other : String} {changed : List Bindings}
    (h : updateFirst name b scopes = some changed) : locate other changed = locate other scopes := by
  induction scopes generalizing changed with
  | nil => simp [updateFirst] at h
  | cons scope rest ih =>
      rw [updateFirst] at h
      split at h
      · next bound =>
          obtain rfl := Option.some.inj h
          have same : Keyed.contains other (Keyed.put name b scope) = Keyed.contains other scope := by
            rw [Keyed.contains, Keyed.find?_put]
            split
            · next eq => rw [eq, bound]; rfl
            · rfl
          rw [locate, locate, same]
      · obtain ⟨outer, made, rfl⟩ := Option.map_eq_some_iff.1 h
        have length := length_updateFirst made
        rw [locate, locate, ih made, length]

/-! ### Scopes -/

theorem all_update : (s.update name b).all = (updateFirst name b s.all).getD s.all := by
  unfold update all
  rw [updateFirst_append]
  cases updateFirst name b s.inner with
  | some inner => rfl
  | none =>
      simp only [updateFirst]
      split <;> rfl

@[simp] theorem at?_empty : Scopes.empty.at? p = none := by
  simp [Scopes.empty, at?, all, lookup, Keyed.find?]

theorem find?_eq_some_iff :
    s.find? name = some b ↔ ∃ p, s.place? name = some p ∧ s.at? p = some b := by
  rw [find?, findSome?_eq_lookup, Option.bind_eq_some_iff]
  rfl

theorem place?_eq_some_iff :
    s.place? name = some p ↔ p.name = name ∧ (s.at? p).isSome ∧
      ∀ level, p.level < level → s.at? ⟨level, name⟩ = none :=
  locate_eq_some_iff

/-- A name that is bound alike at all levels has the same place and means the same binding. -/
theorem find?_congr {t : Scopes} (same : ∀ level, s.at? ⟨level, name⟩ = t.at? ⟨level, name⟩) :
    s.place? name = t.place? name ∧ s.find? name = t.find? name := by
  have places : s.place? name = t.place? name := by
    ext p
    simp only [place?_eq_some_iff]
    refine and_congr_right fun named => ?_
    subst named
    simp only [same]
  refine ⟨places, ?_⟩
  ext b
  simp only [find?_eq_some_iff, places]
  refine exists_congr fun p => and_congr_right fun place => ?_
  obtain ⟨level, other⟩ := p
  obtain rfl : other = name := (place?_eq_some_iff.1 place).1
  rw [same]

theorem at?_of_depth_le (h : s.depth ≤ p.level) : s.at? p = none :=
  lookup_of_length_le (by simpa [all, depth] using h)

/-- A declaration is seen at one place of the innermost scope and nowhere else. -/
theorem at?_declare : (s.declare name b).at? p = if p = s.here name then some b else s.at? p := by
  obtain ⟨inner, root⟩ := s
  cases inner with
  | nil => exact lookup_put
  | cons scope rest =>
      have level : (rest ++ [root]).length = (scope :: rest).length := by simp
      show lookup p (Keyed.put name b scope :: (rest ++ [root])) = _
      rw [lookup_put, level]
      rfl

/-- An update is seen at the place of the innermost binding of the name and nowhere else. -/
theorem at?_update (h : s.place? name = some p) :
    (s.update name b).at? q = if q = p then some b else s.at? q := by
  obtain ⟨changed, made⟩ := exists_updateFirst (b := b) h
  unfold at?
  rw [all_update, made]
  exact lookup_updateFirst h made

/-- An update moves no name to another place. -/
theorem place?_update (h : s.place? name = some p) (other : String) :
    (s.update name b).place? other = s.place? other := by
  obtain ⟨changed, made⟩ := exists_updateFirst (b := b) h
  unfold place?
  rw [all_update, made]
  exact locate_updateFirst made

@[simp] theorem at?_enter : s.enter.at? p = s.at? p := by
  show lookup p ([] :: s.all) = lookup p s.all
  rw [lookup]
  split
  · next level => rw [lookup_of_length_le (Nat.le_of_eq level.symm)]; rfl
  · rfl

/-- What is bound after a scope was left was bound there before. -/
theorem at?_of_leave (h : s.leave.at? p = some b) : s.at? p = some b := by
  obtain ⟨inner, root⟩ := s
  cases inner with
  | nil => exact h
  | cons scope rest =>
      have outer : lookup p (rest ++ [root]) = some b := h
      show lookup p (scope :: (rest ++ [root])) = some b
      rw [lookup, if_neg, outer]
      intro level
      rw [lookup_of_length_le (Nat.le_of_eq level.symm)] at outer
      simp at outer

/-- Leaving a scope is seen only at its own level. -/
theorem at?_leave_of_lt (h : p.level + 1 < s.depth) : s.leave.at? p = s.at? p := by
  obtain ⟨inner, root⟩ := s
  cases inner with
  | nil => rfl
  | cons scope rest =>
      show lookup p (rest ++ [root]) = lookup p (scope :: (rest ++ [root]))
      rw [lookup, if_neg]
      simp only [depth, List.length_cons] at h
      simp only [List.length_append, List.length_singleton]
      omega

/-! ### Depth -/

theorem depth_leave (h : 1 < s.depth) : s.leave.depth + 1 = s.depth := by
  obtain ⟨inner, root⟩ := s
  cases inner with
  | nil => simp [depth] at h
  | cons scope rest => rfl

@[simp] theorem depth_declare : (s.declare name b).depth = s.depth := by
  obtain ⟨inner, root⟩ := s
  cases inner <;> rfl

@[simp] theorem depth_update : (s.update name b).depth = s.depth := by
  unfold update
  split
  · next inner made => simp only [depth, length_updateFirst made]
  · split <;> rfl

end Scopes

end ProvenShapes
