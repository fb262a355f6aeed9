import Schemata.Toml.DateTime

/-! # TOML documents

    A document is a series of lines: headers, which open a table, and
    entries of the table that was opened last. -/

namespace Schemata.Toml

/-! ### Keys -/

/-- A character of a bare key. -/
def isBare (c : Char) : Bool := c.isAlphanum || c = '_' || c = '-'

/-- One part of a key: a bare word or a text on one line. -/
def keyPart : Reader String
  | '"' :: r => basicText r
  | '\'' :: r => literalText r
  | cs =>
    match cs.takeWhile isBare with
    | [] => none
    | word => some (String.ofList word, cs.dropWhile isBare)

/-- One part of a key with the blanks around it, and whether a dot after it
    tells of another part. -/
def keyStep : Reader (String × Bool) := fun cs => do
  let (part, r) ← keyPart (skipSpace cs)
  match skipSpace r with
  | '.' :: r' => return ((part, true), r')
  | r' => return ((part, false), r')

/-- The number of parts that is too great for a key. -/
def keyLimit : Nat := 80

/-- A key: its parts with dots between them. -/
def key : Reader Key := fun cs => do
  let (parts, r) ← Reader.items keyStep cs
  if parts.length < keyLimit then
    return (⟨parts.dropLast, parts.getLast?.getD ""⟩, r)
  else none

/-! ### Values -/

/-- One item of an array, and whether another one follows; the last item may
    have a comma after it. -/
def arrayStep (value : Reader Value) : Reader (Value × Bool) := fun cs => do
  let (v, r) ← value (skipLines cs)
  match skipLines r with
  | ']' :: r' => return ((v, false), r')
  | ',' :: r' =>
    match skipLines r' with
    | ']' :: r'' => return ((v, false), r'')
    | _ => return ((v, true), r')
  | _ => none

/-- An array; the bracket that opens it has been read. -/
def array (value : Reader Value) : Reader Value := fun cs =>
  match skipLines cs with
  | ']' :: r => some (.array [], r)
  | _ => (Reader.items (arrayStep value) cs).map fun p => (.array p.1, p.2)

/-- An entry: a key, the sign of equality and a value. -/
def entry (value : Reader Value) : Reader (Key × Value) := fun cs => do
  let (k, r) ← key cs
  let (_, r') ← Reader.exactly ['='] r
  let (v, r'') ← value (skipSpace r')
  return ((k, v), r'')

/-- One entry of a table in braces, and whether another one follows. -/
def bracesStep (value : Reader Value) : Reader ((Key × Value) × Bool) := fun cs => do
  let (e, r) ← entry value cs
  match skipSpace r with
  | '\x7d' :: r' => return ((e, false), r')
  | ',' :: r' => return ((e, true), r')
  | _ => none

/-- A table in braces; the brace that opens it has been read. -/
def braces (value : Reader Value) : Reader Value := fun cs =>
  match skipSpace cs with
  | '\x7d' :: r => some (.table .braces [], r)
  | _ => do
    let (pairs, r) ← Reader.items (bracesStep value) cs
    let v ← bracesTable pairs
    return (v, r)

/-- A value that holds no other. -/
def scalar : Reader Value
  | 't' :: 'r' :: 'u' :: 'e' :: r => some (.boolean true, r)
  | 'f' :: 'a' :: 'l' :: 's' :: 'e' :: r => some (.boolean false, r)
  | cs =>
    match cs with
    | '"' :: _ | '\'' :: _ => (anyText cs).map fun p => (.string p.1, p.2)
    | _ => dateTime cs <|> float cs <|> integer cs

/-- A value in which arrays and tables in braces are at most `depth`
    deep. -/
def value : Nat → Reader Value
  | depth + 1, '[' :: r => array (value depth) r
  | depth + 1, '\x7b' :: r => braces (value depth) r
  | _, cs => scalar cs

/-- How deep arrays and tables in braces may be. -/
def depthLimit : Nat := 79

/-! ### Lines -/

/-- A line of a document. -/
inductive Line where
  /-- Nothing but blanks and perhaps a comment. -/
  | blank
  /-- The header of a table. -/
  | table (key : Key)
  /-- The header of the next table of an array. -/
  | item (key : Key)
  /-- An entry. -/
  | entry (key : Key) (v : Value)

/-- What stands on a line, blanks in front of it having been read. -/
def lineContent : Reader Line
  | '[' :: '[' :: r => do
    let (k, r') ← key r
    let (_, r'') ← Reader.exactly [']', ']'] r'
    return (.item k, r'')
  | '[' :: r => do
    let (k, r') ← key r
    let (_, r'') ← Reader.exactly [']'] r'
    return (.table k, r'')
  | cs =>
    match cs.head? with
    | none | some '#' | some '\n' | some '\r' => some (.blank, cs)
    | some _ => (entry (value depthLimit) cs).map fun p => (.entry p.1.1 p.1.2, p.2)

/-- A line with its end, and whether another one follows. -/
def lineStep : Reader (Line × Bool) := fun cs => do
  let (l, r) ← lineContent (skipSpace cs)
  let r' ← lineEnd? r
  return ((l, !r'.isEmpty), r')

/-- A document under way: its root table, and the path of the table that was
    opened last. -/
structure Draft where
  root : Entries := []
  here : List String := []

/-- The document with one more line. -/
def Draft.add (d : Draft) : Line → Option Draft
  | .blank => some d
  | .table k => (d.root.openTable k).map fun root => ⟨root, k.path ++ [k.name]⟩
  | .item k => (d.root.openItem k).map fun root => ⟨root, k.path ++ [k.name]⟩
  | .entry k v =>
    (d.root.edit .implied (Entries.assign k v) d.here .header).map fun root => { d with root }

/-- The entries of the root table of a document, if it is well formed. -/
def ofText? (source : String) : Option Entries := do
  let cs := match source.toList with
    | '\ufeff' :: r => r
    | cs => cs
  let (lines, _) ← Reader.items lineStep cs
  let draft ← lines.foldlM Draft.add {}
  return draft.root

end Schemata.Toml
