import Schemata.Text.Casing

/-! # Identifiers in query text

    An identifier stands in a query in one of two forms: **delimited** by
    double quotes, with the quotes inside it doubled, or **folded** to the
    upper case that an undelimited identifier is read as. `scan` reads a
    delimited identifier off the front of a query text. -/

namespace Schemata.Identifier

/-- The identifier with every double quote doubled. -/
def doubled (cs : List Char) : List Char :=
  cs.flatMap fun c => if c = '"' then ['"', '"'] else [c]

/-- The identifier between double quotes, its own quotes doubled. -/
def delimited (s : String) : String := String.ofList ('"' :: doubled s.toList ++ ['"'])

/-- The identifier in the case that an undelimited one is read as. -/
def folded (s : String) : String := Text.upper s

/-- Reads up to the first quote that is not doubled; a doubled one stands
    for itself. The rest of the text follows that quote. -/
def scanBody : List Char → Option (List Char × List Char)
  | [] => none
  | '"' :: '"' :: r => (scanBody r).map fun p => ('"' :: p.1, p.2)
  | c :: r => if c = '"' then some ([], r) else (scanBody r).map fun p => (c :: p.1, p.2)

/-- Reads a delimited identifier off the front of a text: the identifier
    and the rest of the text. -/
def scan : List Char → Option (List Char × List Char)
  | '"' :: r => scanBody r
  | _ => none

@[simp] theorem doubled_nil : doubled [] = [] := rfl

@[simp] theorem doubled_cons (c : Char) (cs : List Char) :
    doubled (c :: cs) = (if c = '"' then ['"', '"'] else [c]) ++ doubled cs := by
  simp [doubled]

@[simp] theorem toList_delimited (s : String) :
    (delimited s).toList = '"' :: doubled s.toList ++ ['"'] := by
  simp [delimited]

end Schemata.Identifier
