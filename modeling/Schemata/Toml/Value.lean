/-! # TOML values

    The tree of a TOML document. A table remembers how it came about, since
    that decides who may add to it later.

    Entries are added to tables by keys that may lead through other tables,
    which come about on the way where they are missing. A table can be
    given to by headers and dotted keys in several places; what may be
    combined depends on how the table came about, and no entry is ever
    written over. -/

namespace Schemata.Toml

/-! ### Values -/

/-- How a table came about. -/
inductive Origin where
  /-- Written as a value, in braces: complete as it stands. -/
  | braces
  /-- Opened by a header of its own; the root of a document counts as one. -/
  | header
  /-- Named on the way to the table of a header. -/
  | implied
  /-- Named on the way to a value, by a dotted key. -/
  | dotted
deriving DecidableEq

/-- A TOML value. -/
inductive Value where
  | string (s : String)
  | integer (n : Int)
  /-- A floating-point number, as written. -/
  | float (written : String)
  | boolean (b : Bool)
  /-- A date, a time or both, as written. -/
  | dateTime (written : String)
  | array (items : List Value)
  | table (origin : Origin) (entries : List (String × Value))
  /-- An array of tables that were opened by headers. -/
  | tables (items : List (List (String × Value)))

/-- The entries of a table, each key once. -/
abbrev Entries := List (String × Value)

/-- A key: the names of the tables that lead to the entry, and the name of
    the entry. -/
structure Key where
  path : List String
  name : String

/-! ### Building tables -/

namespace Entries

/-- The entries with a new value for the name, in the place of the old one
    if there is one. -/
def put (es : Entries) (name : String) (v : Value) : Entries :=
  match es with
  | [] => [(name, v)]
  | e :: rest => if e.1 = name then (name, v) :: rest else e :: put rest name v

/-- Edits the table that a path leads to, `origin` being that of the table
    with these entries. Tables that are missing come about as `made`. The
    path may lead through the last of an array of tables, but through no
    other value, no table in braces and, if it is part of a dotted key, no
    table that has a header. -/
def edit (made : Origin) (f : Origin → Entries → Option Entries) :
    List String → Origin → Entries → Option Entries
  | [], origin, es => f origin es
  | k :: ks, _, es =>
    match es.lookup k with
    | none => (edit made f ks made []).map fun sub => es.put k (.table made sub)
    | some (.table origin sub) =>
      if origin = .braces ∨ (made = .dotted ∧ origin = .header) then none
      else (edit made f ks origin sub).map fun sub' => es.put k (.table origin sub')
    | some (.tables items) =>
      (edit made f ks .header (items.getLast?.getD [])).map fun sub =>
        es.put k (.tables (items.dropLast ++ [sub]))
    | some _ => none

/-- Adds an entry to a table. A dotted key adds to tables that came about by
    dotted keys only, and a plain key to any other table. -/
def assign (key : Key) (v : Value) (origin : Origin) (es : Entries) : Option Entries :=
  edit .dotted (fun o sub =>
    if (o = .dotted) = (key.path ≠ []) ∧ (sub.lookup key.name).isNone then
      some (sub.put key.name v)
    else none) key.path origin es

/-- Opens the table of a header, which must not have had a header or been
    given a value by a dotted key before. -/
def openTable (key : Key) (root : Entries) : Option Entries :=
  edit .implied (fun _ es =>
    match es.lookup key.name with
    | none => some (es.put key.name (.table .header []))
    | some (.table .implied sub) => some (es.put key.name (.table .header sub))
    | some _ => none) key.path .header root

/-- Opens the next table of an array of tables. -/
def openItem (key : Key) (root : Entries) : Option Entries :=
  edit .implied (fun _ es =>
    match es.lookup key.name with
    | none => some (es.put key.name (.tables [[]]))
    | some (.tables items) => some (es.put key.name (.tables (items ++ [[]])))
    | some _ => none) key.path .header root

end Entries

/-- The table in braces with the given entries. -/
def bracesTable (pairs : List (Key × Value)) : Option Value :=
  (pairs.foldlM (fun es p => Entries.assign p.1 p.2 .header es) []).map (.table .braces)

end Schemata.Toml
