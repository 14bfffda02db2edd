/-
**Loading documents.**

A document is read from text in one of the formats; the format of a file is told by the ending of its
name.

Main definitions:

* `Format.tree?` — the tree of a text;
* `Options.ofJson?` — options written as a text;
* `Catalog.load` — **the document of a text applied to a catalog**;
* `Format.ofFile?` — the format of a file;
* `Catalog.loadFile` — the document of a file applied to a catalog.
-/

import ProvenShapes.Document.Apply
import ProvenShapes.Json.Reader
import ProvenShapes.Yaml.Reader

set_option autoImplicit false

namespace ProvenShapes

/-- The tree of a text. -/
def Format.tree? (format : Format) (text : String) : Option Tree :=
  match format with
  | .json => (Json.read? text).map Json.toTree
  | .yaml => Yaml.tree? text

/-- The options of a JSON text. -/
def Options.ofJson? (text : String) : Option Options := (Format.json.tree? text).bind Document.options?

/-- Applies the document of a text to a catalog. -/
def Catalog.load (c : Catalog) (format : Format) (text : String) :
    Catalog × Except LoadError Unit :=
  match (format.tree? text).bind Document.ofTree? with
  | some d => c.addDocument d
  | none => (c, .error (.malformed format))

/-- The ending of a file's name: what follows the last dot, if something stands before the dot. -/
def ending? (file : String) : Option String :=
  let name := (file.toList.reverse.takeWhile (· ≠ '/'))
  let ending := name.takeWhile (· ≠ '.')
  match name.drop ending.length with
  | _ :: _ :: _ => some (String.ofList ending.reverse)
  | _ => none

/-- The format that the ending of a file's name tells. -/
def Format.ofFile? (file : String) : Option Format :=
  match ending? file with
  | some "json" => some .json
  | some "yaml" | some "yml" => some .yaml
  | _ => none

/-- Applies the document of a file, whose contents are given if it is there, to a catalog. -/
def Catalog.loadFile (c : Catalog) (file : String) (contents : Option String) :
    Catalog × Except LoadError Unit :=
  match contents with
  | none => (c, .error (.unreadable file))
  | some text =>
      match Format.ofFile? file with
      | some format => c.load format text
      | none => (c, .error (.unsupported file))

end ProvenShapes
