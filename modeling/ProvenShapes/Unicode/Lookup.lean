/-
**Classes of characters by name.**

A class can be asked for by one name, or by a property and a value of it.  Names may be written with
separators and in any case.

Main definitions:

* `Unicode.looseName` — a name without the liberties of writing;
* `Unicode.named?` — the class of a name: a property, a category or a script;
* `Unicode.valued?` — the class of a property with a value.
-/

import ProvenShapes.Unicode.Age
import ProvenShapes.Unicode.Border
import ProvenShapes.Unicode.Property
import ProvenShapes.Unicode.Script

set_option autoImplicit false

namespace ProvenShapes.Unicode

/-- A name in lower case, with ASCII characters only and without separators. -/
def plainName (s : List Char) : List Char :=
  (s.filter fun c => c.toNat < 0x80 && c != ' ' && c != '_' && c != '-').map Char.toLower

/-- A name without the liberties of writing.  The word "is" may stand before it, unless a single
letter c is left: the two together are the name of another property. -/
def looseName (s : List Char) : String :=
  match s with
  | a :: b :: rest =>
      if a.toLower = 'i' ∧ b.toLower = 's' then
        let plain := plainName rest
        if plain = ['c'] then "isc" else String.ofList plain
      else String.ofList (plainName s)
  | s => String.ofList (plainName s)

/-- The class of a name: a property, a category or a script.  Three short names are those of
categories although properties have them too. -/
def named? (name : List Char) : Option CharClass :=
  let plain := looseName name
  let property := if plain = "cf" ∨ plain = "sc" ∨ plain = "lc" then none else property? plain
  property.or ((category? plain).or (script? plain))

/-- The class of a property with a value. -/
def valued? (property value : List Char) : Option CharClass :=
  let value := looseName value
  match looseName property with
  | "gc" | "generalcategory" => category? value
  | "sc" | "script" => script? value
  | "scx" | "scriptextensions" => scriptUse? value
  | "age" => age? value
  | "gcb" | "graphemeclusterbreak" => Listing.find? graphemeBreaks value
  | "wb" | "wordbreak" => Listing.find? wordBreaks value
  | "sb" | "sentencebreak" => Listing.find? sentenceBreaks value
  | _ => none

end ProvenShapes.Unicode
