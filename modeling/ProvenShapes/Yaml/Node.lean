/-
**The nodes of YAML text.**

Tokens are fed one after another to a machine that keeps a stack of the collections still open.  Some
collections end without a token of their own, and then the token at hand goes on to the collection
around them.  Where a node is left out, the null scalar stands for it.  An anchor names the node after
it, and an alias gives the node that was last named so, if it is complete.

Main definitions:

* `Yaml.Node` — scalars, sequences, mappings and aliases of them;
* `Yaml.Node.jumps`, `Yaml.Node.events` — how often aliases are followed, and how long the text is;
* `Yaml.Anchors` — the nodes that anchors name;
* `Yaml.Frame` — an open collection and what it waits for;
* `Yaml.Machine.feed` — one token;
* `Yaml.Node.ofTokens?` — **the node of a list of tokens**, which must hold a single document.
-/

import ProvenShapes.Yaml.Token

set_option autoImplicit false

namespace ProvenShapes.Yaml

/-- A scalar, a sequence or a mapping, or the alias of a node, with the number of aliases that are
followed until it is read. -/
inductive Node where
  | scalar (style : Style) (tag : Option Tag) (text : String)
  | sequence (items : List Node)
  | mapping (entries : List (Node × Node))
  | copyOf (jumps : Nat) (target : Node)
deriving Inhabited

namespace Node

/-- The null scalar, which stands for a node that is left out. -/
def absent : Node := .scalar .plain none "~"

mutual

/-- How many aliases are followed until a node is read. -/
def jumps : Node → Nat
  | scalar .. => 0
  | sequence items => itemJumps items
  | mapping entries => entryJumps entries
  | copyOf n _ => n

/-- How many aliases are followed until a list of nodes is read. -/
def itemJumps : List Node → Nat
  | [] => 0
  | item :: rest => item.jumps + itemJumps rest

/-- How many aliases are followed until a list of entries is read. -/
def entryJumps : List (Node × Node) → Nat
  | [] => 0
  | (key, item) :: rest => key.jumps + item.jumps + entryJumps rest

end

mutual

/-- How many starts and ends of nodes there are in the text of a node. -/
def events : Node → Nat
  | scalar .. | copyOf .. => 1
  | sequence items => itemEvents items + 2
  | mapping entries => entryEvents entries + 2

/-- How many starts and ends of nodes there are in the text of a list of nodes. -/
def itemEvents : List Node → Nat
  | [] => 0
  | item :: rest => item.events + itemEvents rest

/-- How many starts and ends of nodes there are in the text of a list of entries. -/
def entryEvents : List (Node × Node) → Nat
  | [] => 0
  | (key, item) :: rest => key.events + item.events + entryEvents rest

end

/-- The alias of a node. -/
def aliasOf (n : Node) : Node := .copyOf (n.jumps + 1) n

end Node

/-! ### Anchors -/

/-- The nodes that anchors name: the number of each name, the latest first, and the complete nodes
by number. -/
structure Anchors where
  names : List (String × Nat) := []
  nodes : List (Nat × Node) := []
  next : Nat := 0

namespace Anchors

/-- A name for the node to come. -/
def declare (a : Anchors) (name : String) : Anchors :=
  { a with names := (name, a.next) :: a.names, next := a.next + 1 }

/-- The node of a number is complete. -/
def complete (a : Anchors) (anchor : Option Nat) (n : Node) : Anchors :=
  match anchor with
  | some id => { a with nodes := (id, n) :: a.nodes }
  | none => a

/-- The complete node that was last named so. -/
def find? (a : Anchors) (name : String) : Option Node :=
  (a.names.lookup name).bind fun id => a.nodes.lookup id

end Anchors

/-! ### Open collections -/

/-- An open collection and what it waits for; the latest part stands first.  `anchor` is the number
of the collection if it has a name. -/
inductive Frame where
  /-- The node of the document must follow. -/
  | root
  /-- The document is complete. -/
  | done (n : Node)
  /-- An anchor or a tag was read: its node must follow. -/
  | properties (block bare : Bool) (anchor : Option Nat) (tag : Option Tag)
  /-- Block sequence: an entry or the end must follow. -/
  | blockItems (anchor : Option Nat) (items : List Node)
  /-- Block sequence: an entry was begun. -/
  | blockItem (anchor : Option Nat) (items : List Node)
  /-- Sequence that is not indented: an entry follows, or it ends. -/
  | bareItems (anchor : Option Nat) (items : List Node)
  /-- Sequence that is not indented: an entry was begun. -/
  | bareItem (anchor : Option Nat) (items : List Node)
  /-- Block mapping: a key or the end must follow. -/
  | blockKeys (anchor : Option Nat) (entries : List (Node × Node))
  /-- Block mapping: a key was begun. -/
  | blockKey (anchor : Option Nat) (entries : List (Node × Node))
  /-- Block mapping: a key was read. -/
  | blockColon (anchor : Option Nat) (entries : List (Node × Node)) (key : Node)
  /-- Block mapping: a value was begun. -/
  | blockValue (anchor : Option Nat) (entries : List (Node × Node)) (key : Node)
  /-- Flow sequence: a comma or the end must follow. -/
  | flowItems (anchor : Option Nat) (items : List Node)
  /-- Flow sequence: an item or the end must follow. -/
  | flowItem (anchor : Option Nat) (items : List Node)
  /-- Flow sequence: the key of a mapping with one entry was begun. -/
  | pairKey (anchor : Option Nat) (items : List Node)
  /-- Flow sequence: the key of a mapping with one entry was read. -/
  | pairColon (anchor : Option Nat) (items : List Node) (key : Node)
  /-- Flow sequence: the value of a mapping with one entry was begun. -/
  | pairValue (anchor : Option Nat) (items : List Node) (key : Node)
  /-- Flow mapping: a comma or the end must follow. -/
  | flowKeys (anchor : Option Nat) (entries : List (Node × Node))
  /-- Flow mapping: an entry or the end must follow. -/
  | flowEntry (anchor : Option Nat) (entries : List (Node × Node))
  /-- Flow mapping: a key was begun. -/
  | flowKey (anchor : Option Nat) (entries : List (Node × Node))
  /-- Flow mapping: a key was read. -/
  | flowColon (anchor : Option Nat) (entries : List (Node × Node)) (key : Node)
  /-- Flow mapping: a value was begun. -/
  | flowValue (anchor : Option Nat) (entries : List (Node × Node)) (key : Node)

/-- A mapping with one entry. -/
def Node.pair (key value : Node) : Node := .mapping [(key, value)]

/-- The node that a frame waits for is complete. -/
def Frame.receive (n : Node) : Frame → Option Frame
  | root => some (done n)
  | blockItem a items => some (blockItems a (n :: items))
  | bareItem a items => some (bareItems a (n :: items))
  | blockKey a entries => some (blockColon a entries n)
  | blockValue a entries key => some (blockKeys a ((key, n) :: entries))
  | flowItem a items => some (flowItems a (n :: items))
  | pairKey a items => some (pairColon a items n)
  | pairValue a items key => some (flowItems a (.pair key n :: items))
  | flowEntry a entries => some (flowKeys a ((n, .absent) :: entries))
  | flowKey a entries => some (flowColon a entries n)
  | flowValue a entries key => some (flowKeys a ((key, n) :: entries))
  | _ => none

/-! ### The machine -/

/-- The named nodes, the innermost frame and those around it. -/
structure Machine where
  anchors : Anchors
  top : Frame
  below : List Frame

namespace Machine

/-- Nothing is read yet. -/
def start : Machine := ⟨{}, .root, []⟩

/-- A node is complete and goes into the frame that waits for it. -/
def close (a : Anchors) (anchor : Option Nat) (n : Node) : List Frame → Option Machine
  | [] => none
  | parent :: below => (parent.receive n).map fun top => ⟨a.complete anchor n, top, below⟩

/-- The sequence of reversed items is complete. -/
def closeItems (a : Anchors) (anchor : Option Nat) (items : List Node) (below : List Frame) :
    Option Machine :=
  close a anchor (.sequence items.reverse) below

/-- The mapping of reversed entries is complete. -/
def closeEntries (a : Anchors) (anchor : Option Nat) (entries : List (Node × Node))
    (below : List Frame) : Option Machine :=
  close a anchor (.mapping entries.reverse) below

/-- The content of a node starts with the token.  Blocks start only in blocks, and a sequence that is
not indented only in a block mapping. -/
def startsContent (block bare : Bool) : Token → Bool
  | .scalar .. | .flowSequence | .flowMapping => true
  | .blockSequence | .blockMapping => block
  | .blockEntry => bare
  | _ => false

/-- The content of a node starts. -/
def content (t : Token) (a : Anchors) (anchor : Option Nat) (tag : Option Tag)
    (below : List Frame) : Option Machine :=
  match t with
  | .scalar style text => close a anchor (.scalar style tag text) below
  | .flowSequence => some ⟨a, .flowItem anchor [], below⟩
  | .flowMapping => some ⟨a, .flowEntry anchor [], below⟩
  | .blockSequence => some ⟨a, .blockItems anchor [], below⟩
  | .blockMapping => some ⟨a, .blockKeys anchor [], below⟩
  | .blockEntry => some ⟨a, .bareItem anchor [], below⟩
  | _ => none

/-- A node starts for which a frame waits. -/
def beginNode (t : Token) (a : Anchors) (block bare : Bool) (parent : Frame) (below : List Frame) :
    Option Machine :=
  match t with
  | .alias name => (a.find? name).bind fun n => close a none n.aliasOf (parent :: below)
  | .anchor name =>
      some ⟨a.declare name, .properties block bare (some a.next) none, parent :: below⟩
  | .tag tag => some ⟨a, .properties block bare none (some tag), parent :: below⟩
  | t => if startsContent block bare t then content t a none none (parent :: below) else none

/-- One token, given to the innermost frame. -/
def feed (t : Token) (a : Anchors) (top : Frame) (below : List Frame) : Option Machine :=
  let stay (top : Frame) : Option Machine := some ⟨a, top, below⟩
  match top with
  | .root => beginNode t a true false top below
  | .done _ => none
  | .properties block bare anchor tag =>
      match t, anchor, tag with
      | .anchor name, none, _ =>
          some ⟨a.declare name, .properties block bare (some a.next) tag, below⟩
      | .tag tag, _, none => stay (.properties block bare anchor (some tag))
      | t, _, _ =>
          if startsContent block bare t then content t a anchor tag below
          else
            match below with
            | parent :: rest =>
                let n := Node.scalar .plain tag ""
                match parent.receive n with
                | some top => feed t (a.complete anchor n) top rest
                | none => none
            | [] => none
  | .blockItems anchor items =>
      match t with
      | .blockEntry => stay (.blockItem anchor items)
      | .blockEnd => closeItems a anchor items below
      | _ => none
  | .blockItem anchor items =>
      match t with
      | .blockEntry => stay (.blockItem anchor (.absent :: items))
      | .blockEnd => closeItems a anchor (.absent :: items) below
      | t => beginNode t a true false top below
  | .bareItems anchor items =>
      match t, below with
      | .blockEntry, _ => stay (.bareItem anchor items)
      | t, parent :: rest =>
          let n := Node.sequence items.reverse
          match parent.receive n with
          | some top => feed t (a.complete anchor n) top rest
          | none => none
      | _, [] => none
  | .bareItem anchor items =>
      match t, below with
      | .blockEntry, _ => stay (.bareItem anchor (.absent :: items))
      | .key, parent :: rest | .value, parent :: rest | .blockEnd, parent :: rest =>
          let n := Node.sequence (Node.absent :: items).reverse
          match parent.receive n with
          | some top => feed t (a.complete anchor n) top rest
          | none => none
      | t, below => beginNode t a true false top below
  | .blockKeys anchor entries =>
      match t with
      | .key => stay (.blockKey anchor entries)
      | .value => stay (.blockValue anchor entries .absent)
      | .blockEnd => closeEntries a anchor entries below
      | _ => none
  | .blockKey anchor entries =>
      match t with
      | .key => stay (.blockKey anchor ((.absent, .absent) :: entries))
      | .value => stay (.blockValue anchor entries .absent)
      | .blockEnd => closeEntries a anchor ((.absent, .absent) :: entries) below
      | t => beginNode t a true true top below
  | .blockColon anchor entries key =>
      match t with
      | .key => stay (.blockKey anchor ((key, .absent) :: entries))
      | .value => stay (.blockValue anchor entries key)
      | .blockEnd => closeEntries a anchor ((key, .absent) :: entries) below
      | _ => none
  | .blockValue anchor entries key =>
      match t with
      | .key => stay (.blockKey anchor ((key, .absent) :: entries))
      | .value => stay (.blockValue anchor ((key, .absent) :: entries) .absent)
      | .blockEnd => closeEntries a anchor ((key, .absent) :: entries) below
      | t => beginNode t a true true top below
  | .flowItems anchor items =>
      match t with
      | .flowEntry => stay (.flowItem anchor items)
      | .flowSequenceEnd => closeItems a anchor items below
      | _ => none
  | .flowItem anchor items =>
      match t with
      | .key => stay (.pairKey anchor items)
      | .flowSequenceEnd => closeItems a anchor items below
      | t => beginNode t a false false top below
  | .pairKey anchor items =>
      match t with
      | .value | .flowEntry | .flowSequenceEnd => stay (.pairColon anchor items .absent)
      | t => beginNode t a false false top below
  | .pairColon anchor items key =>
      match t with
      | .value => stay (.pairValue anchor items key)
      | .flowEntry => stay (.flowItem anchor (.pair key .absent :: items))
      | .flowSequenceEnd => closeItems a anchor (.pair key .absent :: items) below
      | _ => none
  | .pairValue anchor items key =>
      match t with
      | .flowEntry => stay (.flowItem anchor (.pair key .absent :: items))
      | .flowSequenceEnd => closeItems a anchor (.pair key .absent :: items) below
      | t => beginNode t a false false top below
  | .flowKeys anchor entries =>
      match t with
      | .flowEntry => stay (.flowEntry anchor entries)
      | .flowMappingEnd => closeEntries a anchor entries below
      | _ => none
  | .flowEntry anchor entries =>
      match t with
      | .key => stay (.flowKey anchor entries)
      | .value => stay (.flowValue anchor entries .absent)
      | .flowMappingEnd => closeEntries a anchor entries below
      | t => beginNode t a false false top below
  | .flowKey anchor entries =>
      match t with
      | .value => stay (.flowValue anchor entries .absent)
      | .flowEntry => stay (.flowEntry anchor ((.absent, .absent) :: entries))
      | .flowMappingEnd => closeEntries a anchor ((.absent, .absent) :: entries) below
      | t => beginNode t a false false top below
  | .flowColon anchor entries key =>
      match t with
      | .value => stay (.flowValue anchor entries key)
      | .flowEntry => stay (.flowEntry anchor ((key, .absent) :: entries))
      | .flowMappingEnd => closeEntries a anchor ((key, .absent) :: entries) below
      | _ => none
  | .flowValue anchor entries key =>
      match t with
      | .flowEntry => stay (.flowEntry anchor ((key, .absent) :: entries))
      | .flowMappingEnd => closeEntries a anchor ((key, .absent) :: entries) below
      | t => beginNode t a false false top below
termination_by structural below

/-- A list of tokens. -/
def run (m : Machine) : List Token → Option Machine
  | [] => some m
  | t :: rest =>
      match feed t m.anchors m.top m.below with
      | some next => next.run rest
      | none => none

/-- The document, if it is complete when the tokens end; an anchor or a tag may have no node. -/
def document? (m : Machine) : Option Node :=
  match m.top, m.below with
  | .done n, _ => some n
  | .properties _ _ _ tag, [.root] => some (.scalar .plain tag "")
  | _, _ => none

end Machine

/-- The node of the tokens of a document. -/
def Node.ofContent? (ts : List Token) : Option Node :=
  (Machine.start.run ts).bind Machine.document?

/-- The node of the tokens of a text, which must hold a single document. -/
def Node.ofTokens? (ts : List Token) : Option Node :=
  let opening := ts.dropWhile (· == .directive)
  let single (explicit : Bool) (body : List Token) : Option Node :=
    let content := body.takeWhile (· != .documentEnd)
    if (body.drop content.length).all (· == .documentEnd) then
      if !content.isEmpty then Node.ofContent? content
      else if explicit then some .absent
      else none
    else none
  match opening with
  | .documentStart :: body => single true body
  | body => if body.length = ts.length then single false body else none

end ProvenShapes.Yaml
