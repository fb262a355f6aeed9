/-! # Catalogs

    A schema has a name or the absent name. The empty name is a name: that
    of the one schema of a product without a schema namespace. The absent
    name is that of the schema which stands in where schemas mean nothing.

    A **catalog** holds the schemas of one reading in the order in which
    they were listed. One schema of a catalog that is not empty can be
    marked as the default: the one that has the wanted name or, failing
    that, a conventional substitute. -/

namespace Schemata

/-! ### Schema names -/

/-- The name of a schema. -/
inductive SchemaName where
  | named (name : String)
  | absent
deriving DecidableEq

namespace SchemaName

/-- The empty name. -/
def unnamed : SchemaName := named ""

/-- The name given, or the absent name. -/
def ofText? (s : Option String) : SchemaName := s.elim absent named

/-- The text of a name that is not absent. -/
def text? : SchemaName → Option String
  | named s => some s
  | absent => none

/-- Is the name absent? -/
def isAbsent : SchemaName → Bool
  | named _ => false
  | absent => true

/-- The number of characters of the name, none for the absent one. -/
def charCount : SchemaName → Nat
  | named s => s.length
  | absent => 0

/-- The name as shown to a user. -/
def display : SchemaName → String
  | named s => s
  | absent => "<absent>"

@[simp] theorem text?_named (s : String) : (named s).text? = some s := rfl

@[simp] theorem text?_absent : absent.text? = none := rfl

@[simp] theorem ofText?_text? (n : SchemaName) : ofText? n.text? = n := by
  cases n <;> rfl

@[simp] theorem text?_ofText? (s : Option String) : (ofText? s).text? = s := by
  cases s <;> rfl

end SchemaName

/-! ### Records and catalogs -/

/-- One schema of a catalog. -/
structure SchemaRecord where
  name       : SchemaName
  /-- The name as it has to be written in a query. -/
  quotedName : Option String
  isDefault  : Bool := false
deriving DecidableEq

/-- The schemas of one reading, in listing order. -/
structure Catalog where
  schemas : List SchemaRecord
deriving DecidableEq

namespace Catalog

/-- The names of the schemas, in order. -/
def names (c : Catalog) : List SchemaName := c.schemas.map (·.name)

/-- The first schema of exactly this name. -/
def find? (c : Catalog) (name : String) : Option SchemaRecord :=
  c.schemas.find? fun s => s.name = .named name

/-- The first schema marked as the default. -/
def default? (c : Catalog) : Option SchemaRecord := c.schemas.find? (·.isDefault)

/-- The position of the first schema marked as the default. -/
def defaultIndex? (c : Catalog) : Option Nat := c.schemas.findIdx? (·.isDefault)

/-! ### Choosing the default -/

/-- The name of the schema that is taken for the default by convention. -/
def conventionalName : String := "dbo"

/-- The position of the first of the shortest names. -/
def shortestIndex (names : List SchemaName) : Nat :=
  names.findIdx fun n => names.all fun m => n.charCount ≤ m.charCount

/-- The position of the substitute for a name that is not listed: the first
    schema of the conventional name, or else the first of the shortest
    names. -/
def substituteIndex (names : List SchemaName) : Nat :=
  (names.findIdx? (· = .named conventionalName)).getD (shortestIndex names)

/-- The position of the schema to mark for a wanted name. Any schema is as
    good as another for the absent name, so the first one is taken. -/
def chosenIndex (names : List SchemaName) : SchemaName → Nat
  | .absent => 0
  | wanted => (names.findIdx? (· = wanted)).getD (substituteIndex names)

/-- Marks the schema at the position, and no other. -/
def markAt (c : Catalog) (i : Nat) : Catalog :=
  ⟨c.schemas.mapIdx fun j s => { s with isDefault := j == i }⟩

/-- Marks the default schema for a wanted name; marks made before count for
    nothing. -/
def mark (c : Catalog) (wanted : SchemaName) : Catalog := c.markAt (chosenIndex c.names wanted)

@[simp] theorem names_markAt (c : Catalog) (i : Nat) : (c.markAt i).names = c.names := by
  apply List.ext_getElem?
  intro j
  simp [names, markAt, List.getElem?_mapIdx, Option.map_map, Function.comp_def]

@[simp] theorem names_mark (c : Catalog) (wanted : SchemaName) :
    (c.mark wanted).names = c.names :=
  names_markAt ..

@[simp] theorem mark_nil (wanted : SchemaName) : mark ⟨[]⟩ wanted = ⟨[]⟩ := rfl

@[simp] theorem length_schemas_mark (c : Catalog) (wanted : SchemaName) :
    (c.mark wanted).schemas.length = c.schemas.length := by
  simp [mark, markAt]

end Catalog

end Schemata
