import DuckTyping.Conversion.Record
import DuckTyping.Expectations.Loading
import DuckTyping.Narrowing

/-!
# A catalogue of shapes

The shapes of this module differ in what their contracts leave open: a contract may list every
field, only some of them, or properties that are no fields, and a number that passes a check may
still be out of the range of its field.

Main definitions:

- `Package`: a contract for every field.
- `Labelled`: a contract for one of two fields.
- `Point`: two doubles, read from an object or an array.
- `Row`: a contract that only arrays are likely to pass.
- `Contract`: a field that is itself a contract, and one that may be missing.
-/

namespace DuckTyping

/-- The full name of a shape. -/
def Shape.qualifiedName (name : String) : String :=
  "driver::shapes::" ++ name

/-! ## Packages -/

/-- A published package. -/
structure Package where
  name : String
  version : String
  downloads : UInt64
deriving DecidableEq, Repr

namespace Package

/-- The fields of a package that have been read. -/
structure Draft where
  name : Option String
  version : Option String
  downloads : Option UInt64

/-- How a package is read. -/
def record : Record Draft Package where
  name := "Package"
  fields :=
    [.of "name" Reader.string fun draft name => { draft with name := some name },
      .of "version" Reader.string fun draft version => { draft with version := some version },
      .of "downloads" Reader.unsigned64 fun draft downloads =>
        { draft with downloads := some downloads }]
  blank := ⟨none, none, none⟩
  complete draft := do
    let name ← Record.require "name" draft.name
    let version ← Record.require "version" draft.version
    let downloads ← Record.require "downloads" draft.downloads
    return ⟨name, version, downloads⟩

/-- Packages are recognised by all of their fields. -/
def shape : Shape Package where
  name := Shape.qualifiedName "Package"
  expectations := .ofNamed [("name", .string), ("version", .string), ("downloads", .number)]
  read := record.read

end Package

/-! ## Labelled things -/

/-- Something with a number and a label. -/
structure Labelled where
  id : UInt32
  label : String
deriving DecidableEq, Repr

namespace Labelled

/-- The fields of a labelled thing that have been read. -/
structure Draft where
  id : Option UInt32
  label : Option String

/-- How a labelled thing is read. -/
def record : Record Draft Labelled where
  name := "Partial"
  fields :=
    [.of "id" Reader.unsigned32 fun draft id => { draft with id := some id },
      .of "label" Reader.string fun draft label => { draft with label := some label }]
  blank := ⟨none, none⟩
  complete draft := do
    let id ← Record.require "id" draft.id
    let label ← Record.require "label" draft.label
    return ⟨id, label⟩

/-- Labelled things are recognised by their number alone. -/
def shape : Shape Labelled where
  name := Shape.qualifiedName "Partial"
  expectations := .ofNamed [("id", .number)]
  read := record.read

end Labelled

/-! ## Points -/

/-- A point of the plane. -/
structure Point where
  x : Double
  y : Double
deriving DecidableEq, Repr

namespace Point

/-- The coordinates of a point that have been read. -/
structure Draft where
  x : Option Double
  y : Option Double

/-- How a point is read. -/
def record : Record Draft Point where
  name := "Point"
  fields :=
    [.of "x" Reader.double fun draft x => { draft with x := some x },
      .of "y" Reader.double fun draft y => { draft with y := some y }]
  blank := ⟨none, none⟩
  complete draft := do
    let x ← Record.require "x" draft.x
    let y ← Record.require "y" draft.y
    return ⟨x, y⟩

/-- Points are recognised by both coordinates. -/
def shape : Shape Point where
  name := Shape.qualifiedName "Point"
  expectations := .ofNamed [("x", .number), ("y", .number)]
  read := record.read

end Point

/-! ## Rows -/

/-- A row of a table. -/
structure Row where
  id : Int8
  name : String
deriving DecidableEq, Repr

namespace Row

/-- The fields of a row that have been read. -/
structure Draft where
  id : Option Int8
  name : Option String

/-- How a row is read. -/
def record : Record Draft Row where
  name := "Row"
  fields :=
    [.of "id" Reader.signed8 fun draft id => { draft with id := some id },
      .of "name" Reader.string fun draft name => { draft with name := some name }]
  blank := ⟨none, none⟩
  complete draft := do
    let id ← Record.require "id" draft.id
    let name ← Record.require "name" draft.name
    return ⟨id, name⟩

/-- Rows are recognised as arrays that start with a number. -/
def shape : Shape Row where
  name := Shape.qualifiedName "Row"
  expectations := .ofNamed [("0", .number), ("length", .number)]
  read := record.read

end Row

/-! ## Contracts -/

/-- A named contract. -/
structure Contract where
  name : String
  keys : Expectations
  kind : Option Kind
deriving DecidableEq

namespace Contract

/-- The fields of a contract that have been read. -/
structure Draft where
  name : Option String
  keys : Option Expectations
  kind : Option (Option Kind)

/-- How a contract is read. -/
def record : Record Draft Contract where
  name := "Contract"
  fields :=
    [.of "name" Reader.string fun draft name => { draft with name := some name },
      .of "keys" Reader.expectations fun draft keys => { draft with keys := some keys },
      .of "kind" (Reader.optional Reader.kind) fun draft kind => { draft with kind := some kind }]
  blank := ⟨none, none, none⟩
  complete draft := do
    let name ← Record.require "name" draft.name
    let keys ← Record.require "keys" draft.keys
    return ⟨name, keys, draft.kind.getD none⟩

/-- Contracts are recognised by their name and their keys. -/
def shape : Shape Contract where
  name := Shape.qualifiedName "Contract"
  expectations := .ofNamed [("name", .string), ("keys", .object)]
  read := record.read

end Contract

end DuckTyping
