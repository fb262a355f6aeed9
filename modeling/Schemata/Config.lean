import Schemata.Text

/-! # Configuration

    The settings of a reading, with a default for each. A configuration
    that comes from a document is checked: no table type may be blank. -/

namespace Schemata

/-- The settings of a reading. -/
structure Config where
  /-- Ask H2 for its compatibility mode? -/
  probeMode  : Bool := true
  /-- The object types to ask for when the tables of a schema are read. -/
  tableTypes : List String :=
    ["TABLE", "SYSTEM TABLE", "VIEW", "SYSTEM VIEW", "TABLE LINK", "SYNONYM", "EXTERNAL"]
deriving DecidableEq

/-- Why there is no configuration. -/
inductive ConfigError where
  /-- The settings are not acceptable. -/
  | invalid (reason : String)
  /-- The document is not well formed, or a setting has the wrong type. -/
  | malformed
  /-- The document cannot be read as text. -/
  | unreadable
deriving DecidableEq

/-- The error as shown to a user; the wording of the causes that lie in the
    document or the file is left to whoever reads those. -/
def ConfigError.message? : ConfigError → Option String
  | invalid reason => some ("Configuration error: " ++ reason)
  | malformed | unreadable => none

namespace Config

/-- Is the entry of white space only? -/
def isBlankEntry (entry : String) : Bool := Text.allBlank entry.toList

/-- The first table type of white space only. -/
def blankEntry? (c : Config) : Option String := c.tableTypes.find? isBlankEntry

/-- What is wrong with a blank table type. -/
def blankReason (entry : String) : String :=
  "table_types contains a blank entry: " ++ Text.escaped entry

/-- The configuration itself, unless a table type is blank. -/
def check (c : Config) : Except ConfigError Config :=
  match c.blankEntry? with
  | some entry => .error (.invalid (blankReason entry))
  | none => .ok c

end Config

end Schemata
