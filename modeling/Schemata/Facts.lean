import Schemata.Dialect
import Schemata.Identifier
import Schemata.Text

/-! # Connection facts

    What is known of a connection before its schemas are read: the dialect,
    whether H2 runs in MySQL compatibility mode, and the product name and
    URL that the dialect was told by. The facts decide how an identifier is
    written in a query. -/

namespace Schemata

/-- What is known of a connection. -/
structure Facts where
  dialect   : Dialect
  /-- Does H2 take the part of MySQL? -/
  mysqlMode : Bool
  product   : String
  url       : Option String
deriving DecidableEq

namespace Facts

/-- The word, in lower case, that tells SQLite in a product name. -/
def sqliteWord : String := "sqlite"

/-- Does the lower-case form of the product name contain the word for
    SQLite? -/
def namesSqlite (product : String) : Bool :=
  Text.contains sqliteWord.toList (Text.lower product).toList

/-- The dialect of a product: SQLite is told by the product name, the others
    by the URL. -/
def classifyDialect (product : String) (url : Option String) : Dialect :=
  if namesSqlite product then .sqlite else (url.bind Dialect.ofUrl?).getD .generic

/-- The facts that product name and URL tell without a query. -/
def classify (product : String) (url : Option String) : Facts where
  dialect := classifyDialect product url
  mysqlMode := false
  product := product
  url := url

/-- The facts with MySQL mode set or not; only H2 has that mode. -/
def withMysqlMode (f : Facts) (on : Bool) : Facts :=
  { f with mysqlMode := on && f.dialect = .h2 }

/-- Plain H2: H2 that does not take the part of MySQL. -/
def isPlainH2 (f : Facts) : Bool := f.dialect = .h2 && !f.mysqlMode

/-- An identifier as it has to be written in a query: delimited on plain H2,
    folded everywhere else. -/
def quote (f : Facts) (identifier : String) : String :=
  if f.isPlainH2 then Identifier.delimited identifier else Identifier.folded identifier

@[simp] theorem dialect_classify (product : String) (url : Option String) :
    (classify product url).dialect = classifyDialect product url := by
  simp only [classify]

@[simp] theorem dialect_withMysqlMode (f : Facts) (on : Bool) :
    (f.withMysqlMode on).dialect = f.dialect := rfl

@[simp] theorem mysqlMode_classify (product : String) (url : Option String) :
    (classify product url).mysqlMode = false := rfl

/-- Facts without a mode stay so if the product is not H2, or if the mode is not to
    be set. -/
theorem withMysqlMode_of_off {f : Facts} {on : Bool} (hoff : f.mysqlMode = false)
    (h : ¬(f.dialect = .h2 ∧ on = true)) : f.withMysqlMode on = f := by
  have hmode : (on && decide (f.dialect = .h2)) = f.mysqlMode := by
    rw [hoff, Bool.and_comm]
    simpa using h
  unfold withMysqlMode
  rw [hmode]

theorem quote_of_plainH2 {f : Facts} (hdialect : f.dialect = .h2) (hmode : f.mysqlMode = false) :
    f.quote = Identifier.delimited := by
  funext identifier
  simp [quote, isPlainH2, hdialect, hmode]

theorem quote_of_not_plainH2 {f : Facts} (h : ¬(f.dialect = .h2 ∧ f.mysqlMode = false)) :
    f.quote = Identifier.folded := by
  have hplain : f.isPlainH2 = false := by
    rw [Bool.eq_false_iff]
    simpa [isPlainH2] using h
  funext identifier
  rw [quote, hplain]
  rfl

theorem quote_of_ne_h2 {f : Facts} (h : f.dialect ≠ .h2) : f.quote = Identifier.folded :=
  quote_of_not_plainH2 fun hplain => h hplain.1

end Facts

end Schemata
