import Schemata.Cell

/-! # Listings

    A **listing** is what a metadata source returns: labelled columns and
    rows of cells. A row may have fewer or more cells than there are
    columns. Columns are found by label, without regard to ASCII case, the
    first of several equal labels; where a label is missing, a position
    stands in. -/

namespace Schemata

/-- A column of a listing. -/
structure Column where
  name     : String := ""
  dataType : String := ""
  /-- The position of the column, from zero. -/
  ordinal  : UInt64 := 0
deriving DecidableEq

/-- A row of cells. -/
abbrev Row := List Cell

/-- The text at a position of the row, if there is a text cell. -/
def Row.text? (row : Row) (i : Nat) : Option String := row[i]?.bind Cell.text?

/-- Does the row have a cell at the position that reads as true? -/
def Row.flagged (row : Row) (i : Nat) : Bool := row[i]?.any Cell.flag

/-- A tabular result of a metadata source. -/
structure Listing where
  columns : List Column
  rows    : List Row
deriving DecidableEq

namespace Listing

/-- The listing with no columns and no rows. -/
def empty : Listing := ⟨[], []⟩

/-- A listing with the given column labels and rows. -/
def ofRows (labels : List String) (rows : List Row) : Listing where
  columns := labels.mapIdx fun i label => { name := label, ordinal := UInt64.ofNat i }
  rows := rows

/-- The position of the first column with the label, in any ASCII case. -/
def column? (l : Listing) (label : String) : Option Nat :=
  l.columns.findIdx? fun c => Text.sameUpToCase c.name label

/-- The position of the column with the label, or `position` where no
    column has it. -/
def columnOr (l : Listing) (label : String) (position : Nat) : Nat :=
  (l.column? label).getD position

/-- The label of the column that holds the schema names. -/
def schemaLabel : String := "TABLE_SCHEM"

/-- The label of the column that flags the default schema. -/
def defaultLabel : String := "IS_DEFAULT"

/-- The position of the schema names: the first column where no label says
    otherwise. -/
def nameColumn (l : Listing) : Nat := l.columnOr schemaLabel 0

/-- The position of the default flags, if the listing has any. -/
def flagColumn? (l : Listing) : Option Nat := l.column? defaultLabel

/-- A listing of schema names alone. -/
def ofNames (names : List String) : Listing :=
  ofRows [schemaLabel] (names.map fun n => [.text n])

/-- A listing of schema names, each with its default flag. -/
def ofFlagged (entries : List (String × Bool)) : Listing :=
  ofRows [schemaLabel, defaultLabel] (entries.map fun e => [.text e.1, .bool e.2])

@[simp] theorem rows_ofRows (labels : List String) (rows : List Row) :
    (ofRows labels rows).rows = rows := rfl

@[simp] theorem nameColumn_ofNames (names : List String) : (ofNames names).nameColumn = 0 := by
  rfl

end Listing

end Schemata
