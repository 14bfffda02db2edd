/-
**The tokens of YAML text.**

Main definitions:

* `Yaml.Style` — how a scalar is written;
* `Yaml.Tag` — the tag of a node;
* `Yaml.Token` — the tokens, among them the starts and ends of blocks that only indentation shows.
-/

set_option autoImplicit false

namespace ProvenShapes.Yaml

/-- How a scalar is written; only plain scalars have a meaning besides their text. -/
inductive Style where
  | plain
  | quoted
deriving DecidableEq, Repr

/-- The tag of a node: a handle and what follows it. -/
structure Tag where
  handle : String
  suffix : String
deriving DecidableEq, Repr

/-- The tokens of YAML text. -/
inductive Token where
  | directive
  | documentStart
  | documentEnd
  | blockSequence
  | blockMapping
  | blockEnd
  | flowSequence
  | flowSequenceEnd
  | flowMapping
  | flowMappingEnd
  | blockEntry
  | flowEntry
  | key
  | value
  | alias (name : String)
  | anchor (name : String)
  | tag (tag : Tag)
  | scalar (style : Style) (text : String)
deriving DecidableEq, Repr

end ProvenShapes.Yaml
