/-
**The size of the automaton.**

An expression is run by an automaton over bytes, and another one that reads from the end.  Both are
made state by state from the normal form, and neither may take up too much memory.  Only their sizes
are needed here, so a state is no more than its number.

Among the states of a class of characters, those with the same transitions are shared.  They are
found again through a table with a fixed number of places, where a state's place is computed from
its transitions and a later state takes over the place of an earlier one.  So the number of states
depends on the numbers of the states made before.

Main definitions:

* `Automaton.Extent` — how many states were made, and how many bytes their transitions take;
* `Automaton.forwardClass`, `Automaton.backwardClass` — the states of a class of characters;
* `Automaton.Trie` — the states of alternatives that are literals;
* `Automaton.extend` — the states of a form;
* `Form.fits` — **the automata of a form are small enough**.
-/

import Std.Data.HashMap
import ProvenShapes.Regex.Form

set_option autoImplicit false

namespace ProvenShapes.Automaton

/-! ### Sizes -/

/-- The bytes of a state without its transitions. -/
def stateSize : Nat := 32

/-- The bytes of a transition under a range of bytes. -/
def transitionSize : Nat := 8

/-- The bytes of a transition without a byte. -/
def jumpSize : Nat := 4

/-- The bytes that an automaton may take. -/
def limit : Nat := 10 <<< 20

/-- How much of an automaton was made: the number of its states, and the bytes that transitions take
apart from them. -/
structure Extent where
  states : Nat
  extra : Nat

namespace Extent

/-- Nothing was made yet. -/
def none : Extent := ⟨0, 0⟩

/-- The bytes of what was made. -/
def bytes (e : Extent) : Nat := e.states * stateSize + e.extra

/-- One more state. -/
def state (e : Extent) : Extent := { e with states := e.states + 1 }

/-- One more state with transitions under ranges of bytes. -/
def sparse (transitions : Nat) (e : Extent) : Extent :=
  ⟨e.states + 1, e.extra + transitions * transitionSize⟩

/-- More transitions without a byte. -/
def jumps (n : Nat) (e : Extent) : Extent := { e with extra := e.extra + n * jumpSize }

/-- One more state with transitions without a byte. -/
def fork (n : Nat) (e : Extent) : Extent := e.state.jumps n

/-- Makes the same part a number of times, unless the automaton is too large already. -/
def copies (make : Extent → Extent) : Nat → Extent → Extent
  | 0, e => e
  | n + 1, e => if limit < e.bytes then e else copies make n (make e)

end Extent

/-! ### Classes of characters -/

/-- Mixes a number into a place. -/
def mix (place : UInt64) (n : Nat) : UInt64 := (place ^^^ n.toUInt64) * 1099511628211

/-- The place of some numbers in a table with a number of places. -/
def placeOf (size : Nat) (key : List Nat) : Nat := (key.foldl mix 14695981039346656037).toNat % size

/-- States of a class while they are made: what was made, and the table of states by place, with the
transitions and the number of each. -/
structure Sharing where
  extent : Extent
  table : Std.HashMap Nat (List Nat × Nat)

/-- A new state, which takes its place in the table. -/
def Sharing.put (place : Nat) (key : List Nat) (make : Extent → Extent) (s : Sharing) :
    Nat × Sharing :=
  let id := s.extent.states
  (id, ⟨make s.extent, s.table.insert place (key, id)⟩)

/-- The number of the state with some transitions: it is taken from its place in the table, or made
anew. -/
def Sharing.intern (size : Nat) (key : List Nat) (make : Extent → Extent) (s : Sharing) :
    Nat × Sharing :=
  let place := placeOf size key
  match s.table.get? place with
  | some (known, id) => if known == key then (id, s) else s.put place key make
  | none => s.put place key make

/-- The state that sequences of ranges start from, where `target` is the state behind them.  It is
made after the states behind its transitions. -/
def startOf (target : Nat) : Nat → List (List Utf8.ByteRange) → Sharing → Nat × Sharing
  | 0, _, s => (target, s)
  | depth + 1, sequences, s =>
      let groups := sequences.splitBy fun a b => a.head? == b.head?
      let (key, s) := groups.foldl (fun (key, s) group =>
        match group.head? with
        | some [range] => (key ++ [range.1, range.2, target], s)
        | some (range :: _) =>
            let (next, s) := startOf target depth (group.map List.tail) s
            (key ++ [range.1, range.2, next], s)
        | _ => (key, s)) ([], s)
      s.intern 10000 key (Extent.sparse (key.length / 3))

/-- The states of a class of characters: one for each set of transitions. -/
def forwardClass (sequences : List (List Utf8.ByteRange)) (e : Extent) : Extent :=
  (startOf e.states 4 sequences ⟨e.state, {}⟩).2.extent

/-- The states of a class of characters for reading from the end: the ranges of a sequence lead from
its last state to the common one, and sequences that begin alike share them. -/
def backwardClass (sequences : List (List Utf8.ByteRange)) (e : Extent) : Extent :=
  let target := e.states + 1
  let link (next : Nat × Sharing) (range : Utf8.ByteRange) :=
    next.2.intern 1000 [next.1, range.1, range.2] Extent.state
  let chain (s : Sharing) (sequence : List Utf8.ByteRange) := (sequence.foldl link (target, s)).2
  (sequences.foldl chain ⟨e.state.state, {}⟩).extent.jumps sequences.length

/-- The states of a class of characters.  If all are ASCII, one state with all ranges is enough. -/
def classExtent (backward : Bool) (sequences : List (List Utf8.ByteRange)) (e : Extent) : Extent :=
  if sequences.all fun sequence => sequence.length = 1 then e.state.sparse sequences.length
  else if backward then backwardClass sequences e
  else forwardClass sequences e

/-! ### Alternatives of literals -/

mutual

/-- Literals that begin alike: how often a literal ended here, and what goes on. -/
inductive Trie where
  | node (ends : Nat) (edges : Edges)

/-- The bytes that go on, each with the number of literals that had ended here before it came. -/
inductive Edges where
  | nil
  | cons (after : Nat) (byte : Nat) (below : Trie) (rest : Edges)

end

namespace Edges

/-- No byte goes on. -/
def isEmpty : Edges → Bool
  | nil => true
  | cons .. => false

/-- For each byte, the number of literals that had ended before it came. -/
def groups : Edges → List Nat
  | nil => []
  | cons after _ _ rest => after :: rest.groups

/-- Changes what is below a byte that came after a number of literals had ended. -/
def enter (after byte : Nat) (change : Trie → Trie) : Edges → Edges
  | nil => cons after byte (change (.node 0 nil)) nil
  | cons a b below rest =>
      if a = after ∧ b = byte then cons a b (change below) rest
      else cons a b below (rest.enter after byte change)

end Edges

namespace Trie

/-- Adds a literal. -/
def add : List Nat → Trie → Trie
  | [], node ends edges =>
      if edges.isEmpty && 0 < ends then node ends edges else node (ends + 1) edges
  | byte :: rest, node ends edges => node ends (edges.enter ends byte (add rest))

/-- The states for the bytes that go on from one node: one for each group of bytes between two ends,
and one that leads to all of them. -/
def nodeExtent (ends : Nat) (groups : List Nat) (e : Extent) : Extent :=
  let sizes := ((List.range (ends + 1)).map groups.count).filter fun n => n != 0
  let e := sizes.foldl (fun e n => if n = 1 then e.state else e.sparse n) e
  e.fork (sizes.length + ends)

mutual

/-- The states of all literals below a node. -/
def extent : Trie → Extent → Extent
  | node ends edges, e =>
      if edges.isEmpty then e else nodeExtent ends edges.groups (belowExtent edges e)

/-- The states of all literals below some bytes. -/
def belowExtent : Edges → Extent → Extent
  | .nil, e => e
  | .cons _ _ below rest, e => belowExtent rest (below.extent e)

end

end Trie

/-- The bytes of forms that are all literals. -/
def literals? : List Form → Option (List (List Nat))
  | [] => some []
  | .literal bytes :: rest => (literals? rest).map (bytes :: ·)
  | _ => none

/-- The states of alternatives that are literals. -/
def literalsExtent (backward : Bool) (literals : List (List Nat)) (e : Extent) : Extent :=
  let add (t : Trie) (bytes : List Nat) := t.add (if backward then bytes.reverse else bytes)
  (literals.foldl add (.node 0 .nil)).extent e.state

/-! ### Forms -/

/-- The states of a repetition, given the states of what is repeated and whether that can be
nothing. -/
def timesExtent (make : Extent → Extent) (canBeEmpty : Bool) (least : Nat) (most : Option Nat)
    (e : Extent) : Extent :=
  match least, most with
  | 0, some 1 => (make (e.fork 2)).state
  | 0, none => if canBeEmpty then ((make e).fork 2).fork 2 |>.state else make (e.fork 2)
  | least, none => (Extent.copies make least e).fork 2
  | least, some most =>
      let start := if least = 0 then e.state else Extent.copies make least e
      if least = most then start
      else Extent.copies (fun e => make (e.fork 2)) (most - least) start.state

mutual

/-- The states of a form, added to what was made before. -/
def extend (backward : Bool) : Form → Extent → Extent
  | .empty, e => e.state
  | .literal bytes, e => { e with states := e.states + bytes.length }
  | .chars _ sequences, e => classExtent backward sequences e
  | .look _, e => e.state
  | .times f least most _, e =>
      let canBeEmpty := f.least?.getD 0 == 0
      timesExtent (fun e => extend backward f e) canBeEmpty least most e
  | .capture _ f, e => if backward then extend backward f e else (extend backward f e.state).state
  | .row fs, e => if backward then extendBackward fs e else extendRow fs e
  | .anyOf fs, e =>
      match literals? fs with
      | some literals => literalsExtent backward literals e
      | none => extendAny backward 0 fs e

/-- The states of forms in a row. -/
def extendRow : List Form → Extent → Extent
  | [], e => e
  | f :: fs, e => extendRow fs (extend false f e)

/-- The states of forms in a row, made from the last one to the first. -/
def extendBackward : List Form → Extent → Extent
  | [], e => e
  | f :: fs, e => extend true f (extendBackward fs e)

/-- The states of alternatives.  The states where they part and where they meet are made after the
second one. -/
def extendAny (backward : Bool) (earlier : Nat) : List Form → Extent → Extent
  | [], e => e
  | f :: fs, e =>
      let e := (extend backward f e).jumps 1
      extendAny backward (earlier + 1) fs (if earlier = 1 then e.state.state else e)

end

/-! ### Whole automata -/

mutual

/-- Every match of a form starts where the text starts or, backward, ends where it ends. -/
def anchored (backward : Bool) : Form → Bool
  | .look condition => condition == if backward then .textEnd else .textStart
  | .times f least _ _ => 0 < least && anchored backward f
  | .capture _ f => anchored backward f
  | .row fs => if backward then anchoredLast fs else anchoredFirst fs
  | .anyOf fs => anchoredAll backward fs
  | _ => false

/-- One of the first parts of a row is anchored, before any that takes up something. -/
def anchoredFirst : List Form → Bool
  | [] => false
  | f :: fs => anchored false f || (f.most? == some 0 && anchoredFirst fs)

/-- One of the last parts of a row is anchored, behind any that takes up something. -/
def anchoredLast : List Form → Bool
  | [] => false
  | f :: fs =>
      anchoredLast fs || ((fs.all fun g => g.most? == some 0) && anchored true f)

/-- All forms of a list are anchored. -/
def anchoredAll (backward : Bool) : List Form → Bool
  | [] => true
  | f :: fs => anchored backward f && anchoredAll backward fs

end

/-- The whole automaton of a form: what skips bytes before a match unless it is anchored, the states
that keep the stretch of the match, the form, and the end. -/
def whole (backward : Bool) (f : Form) : Extent :=
  let start :=
    if anchored backward f then Extent.none.state else (Extent.none.fork 2).state.sparse 1
  let body := if backward then extend true f start else (extend false f start.state).state
  body.state

end ProvenShapes.Automaton

/-- The automata of a form are small enough. -/
def ProvenShapes.Form.fits (f : Form) : Bool :=
  (Automaton.whole false f).bytes ≤ Automaton.limit &&
    (Automaton.whole true f).bytes ≤ Automaton.limit
