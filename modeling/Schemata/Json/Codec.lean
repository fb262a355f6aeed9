import Schemata.Json
import Schemata.Pass

/-! # Encoded values

    The JSON form of each kind of value, and the reader of that form. A
    reader takes every accepted spelling: both forms of a variant without
    content, both forms of a record, and records with fields left out where
    a field allows it. Every other document is refused as a whole. -/

namespace Schemata

/-! ### Cells and columns -/

/-- The JSON form of a cell. -/
def Cell.toJson : Cell → Json
  | null => .str "Null"
  | bool b => .obj [("Bool", .bool b)]
  | int16 n => .obj [("Int16", .int n.toInt)]
  | int32 n => .obj [("Int32", .int n.toInt)]
  | int64 n => .obj [("Int64", .int n.toInt)]
  | text s => .obj [("String", .str s)]

/-- The cell that a document stands for. -/
def Cell.ofJson? (j : Json) : Option Cell :=
  match j with
  | .obj [("Bool", v)] => v.bool?.map .bool
  | .obj [("Int16", v)] => v.int16?.map .int16
  | .obj [("Int32", v)] => v.int32?.map .int32
  | .obj [("Int64", v)] => v.int64?.map .int64
  | .obj [("String", v)] => v.str?.map .text
  | j => if j.variant? = some "Null" then some .null else none

/-- The JSON form of a column. -/
def Column.toJson (c : Column) : Json :=
  .obj [("name", .str c.name), ("data_type", .str c.dataType),
    ("ordinal", .int c.ordinal.toNat)]

/-- The column that a document stands for. -/
def Column.ofJson? (j : Json) : Option Column := do
  match ← j.slots? ["name", "data_type", "ordinal"] with
  | [name, dataType, ordinal] =>
    return {
      name := ← name.withDefault "" Json.str?
      dataType := ← dataType.withDefault "" Json.str?
      ordinal := ← ordinal.withDefault 0 Json.uint64? }
  | _ => none

/-! ### Dialects and stages -/

/-- The encoded name of a dialect. -/
def Dialect.code : Dialect → String
  | h2 => "h2"
  | oracle => "oracle"
  | postgreSql => "postgre_sql"
  | mySql => "my_sql"
  | derby => "derby"
  | firebird => "firebird"
  | sqlServer => "ms_sql_server"
  | sqlite => "sqlite"
  | generic => "generic"

/-- The dialect of an encoded name. -/
def Dialect.ofCode? (code : String) : Option Dialect := Dialect.all.find? fun d => d.code = code

/-- The JSON form of a dialect. -/
def Dialect.toJson (d : Dialect) : Json := .str d.code

/-- The dialect that a document stands for. -/
def Dialect.ofJson? (j : Json) : Option Dialect := j.variant?.bind Dialect.ofCode?

/-- The JSON form of a stage. -/
def PassStage.toJson : PassStage → Json
  | schemaEnumeration => .str "SchemaEnumeration"

/-- The stage that a document stands for. -/
def PassStage.ofJson? (j : Json) : Option PassStage :=
  if j.variant? = some "SchemaEnumeration" then some .schemaEnumeration else none

/-! ### Facts -/

/-- The JSON form of connection facts. -/
def Facts.toJson (f : Facts) : Json :=
  .obj [("dialect", f.dialect.toJson), ("mysql_mode", .bool f.mysqlMode),
    ("product_name", .str f.product), ("url", .ofText? f.url)]

/-- The connection facts that a document stands for. -/
def Facts.ofJson? (j : Json) : Option Facts := do
  match ← j.slots? ["dialect", "mysql_mode", "product_name", "url"] with
  | [dialect, mysqlMode, product, url] =>
    return {
      dialect := ← dialect.required Dialect.ofJson?
      mysqlMode := ← mysqlMode.required Json.bool?
      product := ← product.required Json.str?
      url := ← url.nullable Json.strOrNull? }
  | _ => none

/-! ### Schemas -/

/-- The JSON form of a schema name. -/
def SchemaName.toJson (n : SchemaName) : Json := .ofText? n.text?

/-- The schema name that a document stands for. -/
def SchemaName.ofJson? (j : Json) : Option SchemaName := j.strOrNull?.map .ofText?

/-- The JSON form of a schema record. -/
def SchemaRecord.toJson (r : SchemaRecord) : Json :=
  .obj [("name", r.name.toJson), ("quoted_name", .ofText? r.quotedName),
    ("is_default", .bool r.isDefault)]

/-- The schema record that a document stands for. -/
def SchemaRecord.ofJson? (j : Json) : Option SchemaRecord := do
  match ← j.slots? ["name", "quoted_name", "is_default"] with
  | [name, quotedName, isDefault] =>
    return {
      name := ← name.nullable SchemaName.ofJson?
      quotedName := ← quotedName.nullable Json.strOrNull?
      isDefault := ← isDefault.required Json.bool? }
  | _ => none

/-- The JSON form of a catalog. -/
def Catalog.toJson (c : Catalog) : Json :=
  .obj [("schemas", .arr (c.schemas.map SchemaRecord.toJson))]

/-- The catalog that a document stands for. -/
def Catalog.ofJson? (j : Json) : Option Catalog := do
  match ← j.slots? ["schemas"] with
  | [schemas] => return { schemas := ← schemas.required (Json.list? SchemaRecord.ofJson?) }
  | _ => none

/-! ### Configuration -/

/-- The JSON form of a configuration. -/
def Config.toJson (c : Config) : Json :=
  .obj [("probe_compatibility_mode", .bool c.probeMode),
    ("table_types", .arr (c.tableTypes.map .str))]

/-- The configuration that a document stands for. A blank table type is not
    looked for here. -/
def Config.ofJson? (j : Json) : Option Config := do
  match ← j.slots? ["probe_compatibility_mode", "table_types"] with
  | [probeMode, tableTypes] =>
    return {
      probeMode := ← probeMode.withDefault ({} : Config).probeMode Json.bool?
      tableTypes := ← tableTypes.withDefault ({} : Config).tableTypes (Json.list? Json.str?) }
  | _ => none

end Schemata
