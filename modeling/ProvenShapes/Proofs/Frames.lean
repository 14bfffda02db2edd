/-
**What calls leave alone.**

A call of a checker that fails leaves all scopes as they were; one that writes a binding writes the
innermost one of its name, and only what is proven of it.  From this it follows what a block can do to
a name that it declares for itself: nothing.  As long as the block has not ended, the name is bound in
its own scope, so no call inside reaches the bindings of the name further out.

Main definitions:

* `Checker.call`, `Checker.callAll` — operations, planning, and the execution of any plan;
* `Checker.Frames` — **what a call may change**;
* `Call.Balanced` — calls that leave every scope that they enter, and no other;
* `Checker.Shields` — a name is bound above a level and as before below it.

Main results:

* `Checker.frames` — every call keeps to its frame;
* `Checker.Shields.callAll` — balanced calls keep a name shielded;
* `Checker.calls_touch_one_binding` — **calls are atomic, and blocks restore the names that they
  declare**.
-/

import ProvenShapes.Proofs.Declarations

set_option autoImplicit false

namespace ProvenShapes

namespace Call

/-- The name whose binding the call writes. -/
def writes? : Call Plan → Option String
  | .operate (.assign target _) | .operate (.convert target ..) => some target
  | .operate (.narrow name ..) => some name
  | .execute p _ => some p.binding
  | _ => none

/-- The call keeps what is proven of the binding that it writes. -/
def narrows : Call Plan → Bool
  | .operate (.narrow ..) => true
  | .execute p _ => p.mode == .narrow
  | _ => false

/-- The name that the call declares. -/
def declares? : Call Plan → Option String
  | .operate (.declare name _) | .operate (.declareExternal name ..) => some name
  | _ => none

/-- The call only asks: for a plan, or for a tag. -/
def asks : Call Plan → Bool
  | .operate (.requireTag ..) | .planConversion .. | .planNarrowing .. => true
  | _ => false

/-- The call enters or leaves a scope. -/
def nests : Call Plan → Bool
  | .operate .pushScope | .operate .popScope => true
  | _ => false

/-- Calls that leave every scope that they enter, and no other. -/
inductive Balanced : List (Call Plan) → Prop
  | nil : Balanced []
  | cons {call : Call Plan} {rest : List (Call Plan)} (plain : call.nests = false)
      (later : Balanced rest) : Balanced (call :: rest)
  | block {inside rest : List (Call Plan)} (inner : Balanced inside) (later : Balanced rest) :
      Balanced (.operate .pushScope :: (inside ++ .operate .popScope :: rest))

/-- A block that declares a name for itself and goes on with some calls. -/
def block (declaration : Call Plan) (calls : List (Call Plan)) : List (Call Plan) :=
  .operate .pushScope :: declaration :: (calls ++ [.operate .popScope])

end Call

namespace Checker

/-- Makes a call. -/
def call (k : Checker) : Call Plan → Step Unit
  | .operate op => k.perform op
  | .planConversion target source conversion =>
      (k, (k.planConversion target source conversion).map fun _ => ())
  | .planNarrowing name conversion => (k, (k.planNarrowing name conversion).map fun _ => ())
  | .execute p v => (k.execute p v).map id (Except.map fun _ => ())

/-- The checker after some calls, those that fail included. -/
def callAll (k : Checker) (calls : List (Call Plan)) : Checker :=
  calls.foldl (fun k call => (k.call call).1) k

variable {k : Checker} {call : Call Plan} {calls : List (Call Plan)} {name x : String} {n : Nat}

theorem callAll_append (k : Checker) (first second : List (Call Plan)) :
    k.callAll (first ++ second) = (k.callAll first).callAll second := by
  simp [callAll]

theorem callAll_cons (k : Checker) (call : Call Plan) (calls : List (Call Plan)) :
    k.callAll (call :: calls) = (k.call call).1.callAll calls := rfl

/-! ### One call -/

/-- Only what is proven of the innermost binding of a name differs. -/
structure Writes (k : Checker) (name : String) (narrows : Bool) (after : Scopes) : Prop where
  depth : after.depth = k.scopes.depth
  places : ∀ other, after.place? other = k.scopes.place? other
  binding : ∃ p b proven, k.scopes.place? name = some p ∧ k.scopes.at? p = some b ∧
    (∀ q, after.at? q = if q = p then some { b with provenance := proven } else k.scopes.at? q) ∧
    (narrows = true → ∀ c, b.provenance.contains c = true → proven.contains c = true)

/-- What a call may change. -/
structure Frames (k : Checker) (call : Call Plan) : Prop where
  /-- A call that fails leaves all scopes as they were. -/
  failed : ∀ e, (k.call call).2 = .error e → (k.call call).1.scopes = k.scopes
  /-- A call that writes a binding changes only what is proven of the innermost one of its name. -/
  written : ∀ name, call.writes? = some name → (k.call call).2 = .ok () →
    k.Writes name call.narrows (k.call call).1.scopes
  /-- A declaration makes one binding in the innermost scope. -/
  declared : ∀ name, call.declares? = some name → (k.call call).2 = .ok () →
    ∃ b, (k.call call).1.scopes = k.scopes.declare name b
  /-- Asking changes nothing. -/
  asked : call.asks = true → (k.call call).1.scopes = k.scopes

theorem writes_setProvenance {b : Binding} {proven : ClauseSet} {narrows : Bool}
    (bound : k.binding name = .ok b)
    (keeps : narrows = true → ∀ c, b.provenance.contains c = true → proven.contains c = true) :
    k.Writes name narrows (k.setProvenance name b proven).scopes := by
  obtain ⟨p, place, there⟩ := binding_eq_ok_iff.1 bound
  exact ⟨Scopes.depth_update, Scopes.place?_update place,
    p, b, proven, place, there, fun q => at?_setProvenance place, keeps⟩

/-- What is proven after a narrowing contains what was proven before. -/
theorem contains_provenAfter_of_narrow {p : Plan} {b : Binding} (mode : (p.mode == .narrow) = true)
    (c : Clause) (h : b.provenance.contains c = true) : (provenAfter p b).contains c = true := by
  rw [provenAfter, eq_of_beq mode]
  exact ClauseSet.contains_union.2 (.inl h)

/-- An operation that succeeds writes the binding that it should, declares the name that it should,
and asks without changing anything. -/
theorem Changes.frame {op : Operation} {after : Scopes} (h : k.Changes op after) :
    (∀ name, (Call.operate op).writes? = some name →
      k.Writes name (Call.operate op).narrows after) ∧
    (∀ name, (Call.operate op).declares? = some name → ∃ b, after = k.scopes.declare name b) ∧
    ((Call.operate op).asks = true → after = k.scopes) := by
  cases h with
  | declare =>
      refine ⟨by simp [Call.writes?], fun name declares => ?_, by simp [Call.asks]⟩
      obtain rfl := Option.some.inj declares
      exact ⟨_, rfl⟩
  | declareExternal =>
      refine ⟨by simp [Call.writes?], fun name declares => ?_, by simp [Call.asks]⟩
      obtain rfl := Option.some.inj declares
      exact ⟨_, rfl⟩
  | assign bound declared source_known subsumes =>
      refine ⟨fun name writes => ?_, by simp [Call.declares?], by simp [Call.asks]⟩
      obtain rfl := Option.some.inj writes
      exact writes_setProvenance bound (by simp [Call.narrows])
  | convert planned bound valid =>
      refine ⟨fun name writes => ?_, by simp [Call.declares?], by simp [Call.asks]⟩
      obtain rfl := Option.some.inj writes
      exact writes_setProvenance bound (by simp [Call.narrows])
  | narrow planned bound valid =>
      refine ⟨fun name writes => ?_, by simp [Call.declares?], by simp [Call.asks]⟩
      obtain rfl := Option.some.inj writes
      exact writes_setProvenance bound fun _ c known => ClauseSet.contains_union.2 (.inl known)
  | requireTag => exact ⟨by simp [Call.writes?], by simp [Call.declares?], fun _ => rfl⟩
  | pushScope => exact ⟨by simp [Call.writes?], by simp [Call.declares?], by simp [Call.asks]⟩
  | popScope => exact ⟨by simp [Call.writes?], by simp [Call.declares?], by simp [Call.asks]⟩

theorem frames_operate (k : Checker) (op : Operation) : k.Frames (.operate op) := by
  obtain ⟨e, failed, same⟩ | ⟨done, changes⟩ := k.perform_cases op
  · have failed : (k.call (.operate op)).2 = .error e := failed
    exact ⟨fun _ _ => same, fun _ _ ok => by simp [failed] at ok,
      fun _ _ ok => by simp [failed] at ok, fun _ => same⟩
  · have done : (k.call (.operate op)).2 = .ok () := done
    obtain ⟨written, declared, asked⟩ := changes.frame
    exact ⟨fun e failed => by simp [done] at failed, fun name writes _ => written name writes,
      fun name declares _ => declared name declares, asked⟩

theorem frames_execute (k : Checker) (p : Plan) (v : Value) : k.Frames (.execute p v) := by
  refine ⟨fun e failed => ?_, fun name writes done => ?_, ?_, ?_⟩
  · obtain ⟨_, -, same⟩ | ⟨b, outcome, done, -⟩ := k.execute_cases p v
    · exact same
    · simp [call, done, Except.map] at failed
  · obtain rfl := Option.some.inj writes
    obtain ⟨e, failed, -⟩ | ⟨b, outcome, -, bound, -, scopes⟩ := k.execute_cases p v
    · simp [call, failed, Except.map] at done
    · show k.Writes p.binding _ (k.execute p v).1.scopes
      rw [scopes]
      exact writes_setProvenance bound contains_provenAfter_of_narrow
  · simp [Call.declares?]
  · simp [Call.asks]

/-- **Every call keeps to its frame.** -/
theorem frames (k : Checker) (call : Call Plan) : k.Frames call := by
  cases call with
  | operate op => exact k.frames_operate op
  | execute p v => exact k.frames_execute p v
  | planConversion target source conversion =>
      exact ⟨fun _ _ => rfl, by simp [Call.writes?], by simp [Call.declares?], fun _ => rfl⟩
  | planNarrowing name conversion =>
      exact ⟨fun _ _ => rfl, by simp [Call.writes?], by simp [Call.declares?], fun _ => rfl⟩

/-- A call that neither enters nor leaves a scope leaves the scopes alone, declares a name, or writes
a binding. -/
theorem call_cases (plain : call.nests = false) :
    (k.call call).1.scopes = k.scopes ∨
      (∃ name b, (k.call call).1.scopes = k.scopes.declare name b) ∨
      ∃ name narrows, k.Writes name narrows (k.call call).1.scopes := by
  have frames := k.frames call
  cases result : (k.call call).2 with
  | error e => exact .inl (frames.failed e result)
  | ok _ =>
      cases writes : call.writes? with
      | some name => exact .inr (.inr ⟨name, call.narrows, frames.written name writes result⟩)
      | none =>
          cases declares : call.declares? with
          | some name => exact .inr (.inl ⟨name, frames.declared name declares result⟩)
          | none =>
              refine .inl (frames.asked ?_)
              cases call with
              | operate op =>
                  cases op <;> simp_all [Call.nests, Call.writes?, Call.declares?, Call.asks]
              | _ => simp_all [Call.writes?, Call.asks]

/-! ### Blocks -/

/-- The name is bound at a level, and below it as in some other scopes. -/
structure Shields (s : Scopes) (x : String) (n : Nat) (k : Checker) : Prop where
  inside : n < k.scopes.depth
  bound : (k.scopes.at? ⟨n, x⟩).isSome
  below : ∀ level, level < n → k.scopes.at? ⟨level, x⟩ = s.at? ⟨level, x⟩

variable {s : Scopes}

/-- A call that neither enters nor leaves a scope reaches no binding of a shielded name further
out. -/
theorem Shields.plain (h : Shields s x n k) (plain : call.nests = false) :
    Shields s x n (k.call call).1 ∧ (k.call call).1.scopes.depth = k.scopes.depth := by
  obtain ⟨inside, bound, below⟩ := h
  rcases call_cases (k := k) plain with same | ⟨name, b, declared⟩ | ⟨name, narrows, writes⟩
  · exact ⟨⟨same ▸ inside, same ▸ bound, same ▸ below⟩, by rw [same]⟩
  · -- a declaration is made in the innermost scope, which is no further out than the level
    have depth : (k.call call).1.scopes.depth = k.scopes.depth := by
      rw [declared, Scopes.depth_declare]
    refine ⟨⟨depth ▸ inside, ?_, fun level lt => ?_⟩, depth⟩
    · rw [declared, Scopes.at?_declare]
      split
      · rfl
      · exact bound
    · rw [declared, Scopes.at?_declare, if_neg, below level lt]
      intro here
      have := congrArg Place.level here
      simp only [Scopes.here] at this
      simp only [Scopes.depth] at inside
      omega
  · -- a binding of the name that is written is the innermost one, which is no further out either
    obtain ⟨depth, -, p, b, proven, place, -, at?, -⟩ := writes
    refine ⟨⟨depth ▸ inside, ?_, fun level lt => ?_⟩, depth⟩
    · rw [at?]
      split
      · rfl
      · exact bound
    · rw [at?, if_neg, below level lt]
      rintro rfl
      obtain ⟨named, -, innermost⟩ := Scopes.place?_eq_some_iff.1 place
      obtain rfl : x = name := named
      simp [innermost n lt] at bound

theorem Shields.pushScope (h : Shields s x n k) : Shields s x n k.pushScope := by
  obtain ⟨inside, bound, below⟩ := h
  refine ⟨Nat.lt_succ_of_lt inside, ?_, fun level lt => ?_⟩
  · rwa [Checker.pushScope, Scopes.at?_enter]
  · rw [Checker.pushScope, Scopes.at?_enter, below level lt]

theorem Shields.popScope (h : Shields s x n k) (deeper : n + 1 < k.scopes.depth) :
    Shields s x n k.popScope := by
  obtain ⟨-, bound, below⟩ := h
  have depth : k.scopes.leave.depth + 1 = k.scopes.depth := Scopes.depth_leave (by omega)
  refine ⟨?_, ?_, fun level lt => ?_⟩
  · show n < k.scopes.leave.depth
    omega
  · rwa [Checker.popScope, Scopes.at?_leave_of_lt deeper]
  · rw [Checker.popScope, Scopes.at?_leave_of_lt (by dsimp only; omega), below level lt]

/-- **Balanced calls keep a name shielded, and end at the depth at which they began.** -/
theorem Shields.callAll (balanced : Call.Balanced calls) (h : Shields s x n k) :
    Shields s x n (k.callAll calls) ∧ (k.callAll calls).scopes.depth = k.scopes.depth := by
  induction balanced generalizing k with
  | nil => exact ⟨h, rfl⟩
  | cons plain _ ih =>
      obtain ⟨shielded, depth⟩ := h.plain plain
      obtain ⟨shielded, depth'⟩ := ih shielded
      exact ⟨shielded, depth'.trans depth⟩
  | @block inside rest _ _ inner later =>
      rw [callAll_cons, callAll_append, callAll_cons]
      obtain ⟨shielded, depth⟩ := inner h.pushScope
      have entered : (k.pushScope.callAll inside).scopes.depth = k.scopes.depth + 1 := depth
      have left : (k.pushScope.callAll inside).popScope.scopes.depth + 1 = k.scopes.depth + 1 := by
        rw [← entered]
        exact Scopes.depth_leave (by have := h.inside; omega)
      obtain ⟨shielded, depth⟩ := later (shielded.popScope (by have := h.inside; omega))
      exact ⟨shielded, depth.trans (Nat.succ.inj left)⟩

theorem callAll_block (k : Checker) (declaration : Call Plan) (calls : List (Call Plan)) :
    k.callAll (Call.block declaration calls) =
      ((k.pushScope.call declaration).1.callAll calls).popScope := by
  rw [Call.block, callAll_cons, callAll_cons, callAll_append]
  rfl

/-- In a block that has declared a name, the bindings of the name further out are shielded. -/
theorem shields_of_declares {declaration : Call Plan} (declares : declaration.declares? = some x)
    (done : (k.pushScope.call declaration).2 = .ok ()) :
    Shields k.scopes x k.scopes.depth (k.pushScope.call declaration).1 ∧
      (k.pushScope.call declaration).1.scopes.depth = k.scopes.depth + 1 := by
  obtain ⟨b, declared⟩ := (k.pushScope.frames declaration).declared x declares done
  have depth : (k.pushScope.call declaration).1.scopes.depth = k.scopes.depth + 1 := by
    rw [declared, Scopes.depth_declare]
    rfl
  have here : k.pushScope.scopes.here x = ⟨k.scopes.depth, x⟩ := rfl
  refine ⟨⟨by omega, ?_, fun level lt => ?_⟩, depth⟩
  · rw [declared, Scopes.at?_declare, here, if_pos rfl]
    rfl
  · rw [declared, Scopes.at?_declare, here, if_neg, Checker.pushScope, Scopes.at?_enter]
    intro same
    have := congrArg Place.level same
    dsimp only at this
    omega

/-- A block that declares a name ends at the depth at which it began, with the name bound as before at
every level. -/
theorem block_restores {declaration : Call Plan} (declares : declaration.declares? = some x)
    (done : (k.pushScope.call declaration).2 = .ok ()) (balanced : Call.Balanced calls) :
    (k.callAll (Call.block declaration calls)).scopes.depth = k.scopes.depth ∧
      ∀ level, (k.callAll (Call.block declaration calls)).scopes.at? ⟨level, x⟩ =
        k.scopes.at? ⟨level, x⟩ := by
  obtain ⟨shielded, begun⟩ := shields_of_declares declares done
  obtain ⟨shielded, inside⟩ := shielded.callAll balanced
  rw [callAll_block]
  generalize (k.pushScope.call declaration).1.callAll calls = ended at shielded inside
  have root : 0 < k.scopes.depth := Nat.succ_pos _
  have left : ended.scopes.leave.depth + 1 = ended.scopes.depth := Scopes.depth_leave (by omega)
  have after : ended.scopes.leave.depth = k.scopes.depth := by omega
  refine ⟨after, fun level => ?_⟩
  show ended.scopes.leave.at? ⟨level, x⟩ = _
  rcases Nat.lt_or_ge level k.scopes.depth with below | above
  · rw [Scopes.at?_leave_of_lt (by dsimp only; omega), shielded.below level below]
  · rw [Scopes.at?_of_depth_le (by dsimp only; omega), Scopes.at?_of_depth_le above]

/-- **Calls are atomic and touch one binding only, and a block restores every name that it declares
for itself.** -/
theorem calls_touch_one_binding (k : Checker) :
    (∀ call, k.Frames call) ∧
      ∀ x declaration calls, declaration.declares? = some x →
        (k.pushScope.call declaration).2 = .ok () → Call.Balanced calls →
          (k.callAll (Call.block declaration calls)).scopes.depth = k.scopes.depth ∧
            (k.callAll (Call.block declaration calls)).scopes.place? x = k.scopes.place? x ∧
            (k.callAll (Call.block declaration calls)).scopes.find? x = k.scopes.find? x := by
  refine ⟨k.frames, fun x declaration calls declares done balanced => ?_⟩
  obtain ⟨depth, levels⟩ := block_restores declares done balanced
  exact ⟨depth, Scopes.find?_congr levels⟩

/-- A text, of which it was checked that it is one. -/
def desk : Checker :=
  (start (Catalog.empty.applyAll
    [.pattern (some "Text") [.typeIs (.primitive .string)] [],
      .pattern (some "Short") [.length .lt 5] [⟨0⟩]])).performAll
    [.declare "note" ⟨0⟩,
      .convert "note" (.untyped .string) (.constrainedBy ⟨0⟩) (.string "remember")]

/-- Calls on a name that a block has declared, one of them in a block of its own. -/
def scribbles : List (Call Plan) :=
  [.operate (.convert "note" (.untyped .string) (.constrainedBy ⟨1⟩) (.string "abc")),
    .operate .pushScope,
    .operate (.narrow "note" (.constrainedWith [.length .gt 2]) (.string "abc")),
    .operate .popScope,
    .operate (.assign "note" (.literal (.string "abcdefgh")))]

theorem calls_touch_one_binding_scribbles :
    (desk.scopes.find? "note").isSome ∧
      ((desk.pushScope.call (.operate (.declareExternal "note" ⟨1⟩ .string))).1.callAll
        scribbles).scopes.depth = 2 ∧
      (∀ call, desk.Frames call) ∧
      (desk.callAll (Call.block (.operate (.declareExternal "note" ⟨1⟩ .string))
        scribbles)).scopes.find? "note" = desk.scopes.find? "note" := by
  obtain ⟨_, done⟩ : ∃ u, (desk.pushScope.call (.operate (.declareExternal "note" ⟨1⟩ .string))).2 =
      .ok u := isOk_iff.1 (by decide +kernel)
  have balanced : Call.Balanced scribbles :=
    .cons rfl (.block (.cons rfl .nil) (.cons rfl .nil))
  obtain ⟨frames, blocks⟩ := calls_touch_one_binding desk
  exact ⟨by decide +kernel, by decide +kernel, frames,
    (blocks "note" _ scribbles rfl done balanced).2.2⟩

end Checker

end ProvenShapes
