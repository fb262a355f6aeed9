/-! # Dialects

    The database products whose metadata conventions are known, and for
    each of them:

    - the prefix of its connection URLs,
    - how it arranges schemas,
    - the internal schemas that a browser does not show,
    - where the name of the default schema comes from.

    A product that is none of these is `generic`. -/

namespace Schemata

/-- A database product with known metadata conventions. -/
inductive Dialect where
  | h2
  | oracle
  | postgreSql
  | mySql
  | derby
  | firebird
  | sqlServer
  | sqlite
  | generic
deriving DecidableEq

/-- How a product arranges its schemas. -/
inductive SchemaNamespace where
  /-- The schemas are those of the listing. -/
  | listed
  /-- Everything lives in one schema without a name. -/
  | unnamed
  /-- Schemas mean nothing; one schema with an absent name stands in. -/
  | absent
deriving DecidableEq

/-- Where the name of the default schema comes from. -/
inductive DefaultRule where
  /-- It is the name of the user. -/
  | userName
  /-- It is the name of the user in upper case. -/
  | upperUserName
  /-- It is always the same. -/
  | fixed (name : String)
  /-- There is none. -/
  | absent
  /-- The listing flags it. -/
  | listing
deriving DecidableEq

namespace Dialect

/-- All dialects, in the order in which they are shown. -/
def all : List Dialect :=
  [h2, oracle, postgreSql, mySql, derby, firebird, sqlServer, sqlite, generic]

/-- The name shown to a user. -/
def displayName : Dialect → String
  | h2 => "H2"
  | oracle => "Oracle"
  | postgreSql => "PostgreSQL"
  | mySql => "MySQL"
  | derby => "Apache Derby"
  | firebird => "Firebird"
  | sqlServer => "SQL Server"
  | sqlite => "SQLite"
  | generic => "Generic"

/-! ### Connection URLs -/

/-- The start of a connection URL and the dialect that it tells. -/
abbrev UrlTable := List (String × Dialect)

/-- The known starts of connection URLs, in the order in which they are
    tried. -/
def urlTable : UrlTable :=
  [("jdbc:h2:", h2), ("jdbc:oracle:", oracle), ("jdbc:postgresql:", postgreSql),
   ("jdbc:mysql:", mySql), ("jdbc:derby:", derby), ("jdbc:firebirdsql:", firebird),
   ("jdbc:sqlserver:", sqlServer)]

/-- Does the URL start with the given text? -/
def urlStarts (url start : String) : Bool := start.toList.isPrefixOf url.toList

/-- The dialect of the first entry that the URL starts with. -/
def UrlTable.match? (table : UrlTable) (url : String) : Option Dialect :=
  (table.find? fun e => urlStarts url e.1).map (·.2)

/-- The dialect that a connection URL tells. -/
def ofUrl? (url : String) : Option Dialect := urlTable.match? url

/-- The start of the dialect's connection URLs, if they have one. -/
def urlStart? (d : Dialect) : Option String := (urlTable.find? fun e => e.2 = d).map (·.1)

/-! ### Schemas -/

/-- How the dialect arranges its schemas. -/
def schemaNamespace : Dialect → SchemaNamespace
  | mySql | sqlite => .unnamed
  | firebird => .absent
  | _ => .listed

/-- The internal schemas of the dialect. -/
def systemSchemas : Dialect → List String
  | oracle =>
    ["CTXSYS", "DIP", "DBSNMP", "DMSYS", "EXFSYS", "FLOWS_020100", "FLOWS_FILES",
     "MDDATA", "MDSYS", "MGMT_VIEW", "OLAPSYS", "ORDSYS", "ORDPLUGINS", "OUTLN",
     "SI_INFORMTN_SCHEMA", "SYS", "SYSMAN", "SYSTEM", "TSMSYS", "WMSYS", "XDB"]
  | sqlServer =>
    ["sys", "db_accessadmin", "db_backupoperator", "db_datareader", "db_datawriter",
     "db_ddladmin", "db_denydatareader", "db_denydatawriter", "db_owner",
     "db_securityadmin"]
  | _ => []

/-- Is the name exactly that of an internal schema? -/
def isSystemSchema (d : Dialect) (name : String) : Bool := d.systemSchemas.contains name

/-- Where the dialect's default schema comes from. -/
def defaultRule : Dialect → DefaultRule
  | oracle => .userName
  | postgreSql => .fixed "public"
  | mySql => .fixed ""
  | derby => .upperUserName
  | firebird => .absent
  | h2 | sqlServer | sqlite | generic => .listing

end Dialect

end Schemata
