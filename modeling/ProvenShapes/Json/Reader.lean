/-
**Reading JSON text.**

The tokens of a text are fed one after another to a machine that keeps a stack of the arrays and
objects still open.  The text is a document when the machine ends with exactly one value and nothing
open.  At most 127 arrays and objects may be open at once.

Main definitions:

* `Json.Frame` — an open array or object;
* `Json.State` — what the machine has read and what it waits for;
* `Json.State.step` — one token;
* `Json.read?` — **the document of a text**;
* `Value.ofJson?` — the value of a text.
-/

import ProvenShapes.Json.Token

set_option autoImplicit false

namespace ProvenShapes.Json

/-- An array or an object that is still open; the latest part stands first. -/
inductive Frame where
  | array (items : List Json)
  | object (entries : List (String × Json)) (key : String)

/-- What the machine has read and what it waits for. -/
inductive State where
  /-- A value must follow. -/
  | value (stack : List Frame)
  /-- An array was just opened: its first item or its end must follow. -/
  | firstItem (stack : List Frame)
  /-- An object was just opened: its first key or its end must follow. -/
  | firstKey (stack : List Frame)
  /-- A comma of an object was read: a key must follow. -/
  | key (entries : List (String × Json)) (stack : List Frame)
  /-- A key was read: a colon must follow. -/
  | colon (entries : List (String × Json)) (key : String) (stack : List Frame)
  /-- An item was read: a comma or the end of the array must follow. -/
  | itemEnd (items : List Json) (stack : List Frame)
  /-- An entry was read: a comma or the end of the object must follow. -/
  | entryEnd (entries : List (String × Json)) (stack : List Frame)
  /-- The document is complete. -/
  | done (document : Json)

/-- How many arrays and objects may be open at once. -/
def depthLimit : Nat := 127

namespace State

/-- A value is complete: it goes into the innermost open array or object. -/
def deliver (document : Json) : List Frame → State
  | [] => done document
  | .array items :: stack => itemEnd (document :: items) stack
  | .object entries name :: stack => entryEnd ((name, document) :: entries) stack

/-- A token where a value must start. -/
def start (limit : Nat) (stack : List Frame) : Token → Option State
  | .openArray => if stack.length < limit then some (firstItem stack) else none
  | .openObject => if stack.length < limit then some (firstKey stack) else none
  | .null => some (deliver .null stack)
  | .bool b => some (deliver (.bool b) stack)
  | .number n => some (deliver (.number n) stack)
  | .string s => some (deliver (.string s) stack)
  | .closeArray | .closeObject | .comma | .colon => none

/-- One token. -/
def step (limit : Nat) : State → Token → Option State
  | value stack, t => start limit stack t
  | firstItem stack, .closeArray => some (deliver (.array []) stack)
  | firstItem stack, t => start limit (.array [] :: stack) t
  | firstKey stack, .closeObject => some (deliver (.object []) stack)
  | firstKey stack, .string s => some (colon [] s stack)
  | key entries stack, .string s => some (colon entries s stack)
  | colon entries name stack, .colon => some (value (.object entries name :: stack))
  | itemEnd items stack, .comma => some (value (.array items :: stack))
  | itemEnd items stack, .closeArray => some (deliver (.array items.reverse) stack)
  | entryEnd entries stack, .comma => some (key entries stack)
  | entryEnd entries stack, .closeObject => some (deliver (.object entries.reverse) stack)
  | _, _ => none

/-- A sequence of tokens. -/
def run (limit : Nat) : State → List Token → Option State
  | s, [] => some s
  | s, t :: rest =>
      match s.step limit t with
      | some s' => run limit s' rest
      | none => none

end State

/-- The document of a list of tokens, with a limit on how deep it nests. -/
def ofTokens? (limit : Nat) (ts : List Token) : Option Json :=
  match State.run limit (.value []) ts with
  | some (.done document) => some document
  | _ => none

/-- The document of a text. -/
def read? (s : String) : Option Json :=
  match tokens s.toList with
  | some ts => ofTokens? depthLimit ts
  | none => none

end ProvenShapes.Json

/-- The value of a JSON text. -/
def ProvenShapes.Value.ofJson? (s : String) : Option ProvenShapes.Value :=
  (ProvenShapes.Json.read? s).map ProvenShapes.Json.toValue
