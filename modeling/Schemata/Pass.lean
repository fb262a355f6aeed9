import Schemata.Catalog
import Schemata.Config
import Schemata.Facts
import Schemata.Metadata.Source

/-! # Passes

    A **pass** reads the contents of a database once, in three stages.

    - **Detection**: the dialect is told by the profile of the source, and H2
      is asked whether it takes the part of MySQL. The answer is evidence or
      it is nothing: an error, an empty result, or any cell other than the
      expected text all mean that it does not.
    - **Enumeration**: the names of the schemas that a user is to see.
      Products without schemas of their own answer without a call; for the
      others the schema listing is read, and rows without a name and internal
      schemas are dropped.
    - **Default schema**: the name of the schema that unqualified names refer
      to. Most dialects have a rule for it; the others flag it in the schema
      listing, where the last flagged row counts. A listing that flags
      nothing, or cannot be read, stands for the empty name.

    A pass fails only if the schemas cannot be listed; what detection and the
    default schema ask for may fail without harm. -/

namespace Schemata

/-! ### Detection -/

/-- The query for the compatibility mode of H2. -/
def modeQuery : String :=
  "SELECT UPPER(VALUE) FROM INFORMATION_SCHEMA.SETTINGS WHERE NAME='MODE'"

/-- The compatibility mode in which H2 takes the part of MySQL. -/
def mysqlModeName : String := "MYSQL"

/-- Is the first cell of the reply exactly the name of the MySQL mode? -/
def reportsMysqlMode : Reply → Bool
  | .ok l => (l.rows.head?.bind (·.text? 0)) == some mysqlModeName
  | .error _ => false

/-- The facts of a connection, H2 being asked for its mode if `probe` is
    set. -/
def detect (p : Profile) (probe : Bool) : Inquiry Facts :=
  let facts := Facts.classify p.product p.url
  if facts.dialect = .h2 && probe then do
    let r ← Inquiry.call (.query modeQuery)
    return facts.withMysqlMode (reportsMysqlMode r)
  else
    return facts

/-! ### Enumeration -/

/-- The names in the schema listing that the dialect does not hide, in
    order. -/
def Listing.visibleNames (l : Listing) (d : Dialect) : List SchemaName :=
  let names := l.rows.filterMap (·.text? l.nameColumn)
  (names.filter fun n => !d.isSystemSchema n).map .named

/-- The names of the schemas to show, or the error of the listing. -/
def schemaNames (f : Facts) : Inquiry (Except MetadataError (List SchemaName)) :=
  match f.dialect.schemaNamespace with
  | .unnamed => return .ok [.unnamed]
  | .absent => return .ok [.absent]
  | .listed => do
    let r ← Inquiry.call .listing
    return r.map (·.visibleNames f.dialect)

/-! ### Default schema -/

/-- The name in a row, absent where the row has no text there. -/
def Row.schemaName (row : Row) (i : Nat) : SchemaName := .ofText? (row.text? i)

/-- The name in the last row whose default flag reads as true. -/
def Listing.flaggedName (l : Listing) : SchemaName :=
  match l.flagColumn? with
  | none => .unnamed
  | some flag =>
    match l.rows.reverse.find? (·.flagged flag) with
    | some row => row.schemaName l.nameColumn
    | none => .unnamed

/-- The name of the default schema as the reply to a schema listing has it. -/
def flaggedReply : Reply → SchemaName
  | .ok l => l.flaggedName
  | .error _ => .unnamed

/-- The name of the default schema. -/
def defaultName (f : Facts) (user : String) : Inquiry SchemaName :=
  match f.dialect.defaultRule with
  | .userName => return .named user
  | .upperUserName => return .named (Text.upper user)
  | .fixed name => return .named name
  | .absent => return .absent
  | .listing => do
    let r ← Inquiry.call .listing
    return flaggedReply r

/-! ### Endings -/

/-- What a successful pass has read. -/
structure Contents where
  facts      : Facts
  catalog    : Catalog
  /-- The object types to ask for when the tables of a schema are read. -/
  tableTypes : List String
deriving DecidableEq

/-- A stage of a pass that can fail. -/
inductive PassStage where
  | schemaEnumeration
deriving DecidableEq

/-- The stage as shown to a user. -/
def PassStage.display : PassStage → String
  | schemaEnumeration => "schema enumeration"

/-- Why a pass failed. -/
structure PassError where
  stage : PassStage
  cause : MetadataError
deriving DecidableEq

/-- The error as shown to a user. -/
def PassError.message (e : PassError) : String :=
  "Failed to read database contents during " ++ e.stage.display ++ ": " ++ e.cause.message

/-- Why a caller gets no contents, or no configuration to read them with. -/
inductive ReadingError where
  | pass (e : PassError)
  | config (e : ConfigError)
deriving DecidableEq

/-- The stage that failed; only a pass has stages. -/
def ReadingError.stage? : ReadingError → Option PassStage
  | pass e => some e.stage
  | config _ => none

/-- The error as shown to a user. -/
def ReadingError.message? : ReadingError → Option String
  | pass e => some e.message
  | config e => e.message?

/-- How a pass ends. -/
abbrev Outcome := Except PassError Contents

/-! ### The stages in turn -/

/-- The record of a schema, not marked as the default. -/
def Facts.record (f : Facts) (name : SchemaName) : SchemaRecord where
  name := name
  quotedName := name.text?.map f.quote

/-- The catalog of the named schemas, none marked as the default. -/
def Facts.unmarked (f : Facts) (names : List SchemaName) : Catalog := ⟨names.map f.record⟩

/-- The catalog of the named schemas with the default marked. Without
    schemas there is nothing to mark and nothing is asked. -/
def markedCatalog (f : Facts) (user : String) (names : List SchemaName) : Inquiry Catalog :=
  if names.isEmpty then
    return f.unmarked names
  else do
    let wanted ← defaultName f user
    return (f.unmarked names).mark wanted

/-- The dialogue of a pass with a source of the given profile. -/
def pass (p : Profile) (cfg : Config) : Inquiry Outcome := do
  let facts ← detect p cfg.probeMode
  match ← schemaNames facts with
  | .error e => return .error ⟨.schemaEnumeration, e⟩
  | .ok names => do
    let catalog ← markedCatalog facts p.user names
    return .ok ⟨facts, catalog, cfg.tableTypes⟩

@[simp] theorem Facts.names_unmarked (f : Facts) (names : List SchemaName) :
    (f.unmarked names).names = names := by
  simp [unmarked, Catalog.names, record, Function.comp_def]

end Schemata
