/-! # Readers

    A reader takes what it can use off the front of a text and leaves the
    rest, or refuses the text. -/

namespace Schemata.Toml

/-- What was read, and the rest of the text. -/
abbrev Reader (α : Type) := List Char → Option (α × List Char)

namespace Reader

/-- Reads items as long as the step tells that another one follows. `fuel`
    bounds their number. -/
def loop {α : Type} (step : Reader (α × Bool)) : Nat → Reader (List α)
  | 0, _ => none
  | fuel + 1, cs => do
    let ((a, more), rest) ← step cs
    if more then
      let (as, rest') ← loop step fuel rest
      return (a :: as, rest')
    else
      return ([a], rest)

/-- Reads one or more items, as long as the step tells that another one
    follows. Each item takes at least one character, so that the text is
    long enough to bound their number. -/
def items {α : Type} (step : Reader (α × Bool)) : Reader (List α) :=
  fun cs => loop step (cs.length + 1) cs

/-- Reads the given text. -/
def exactly (expected : List Char) : Reader Unit := fun cs =>
  if expected.isPrefixOf cs then some ((), cs.drop expected.length) else none

end Reader

/-! ### Blanks, line ends and comments -/

/-- A blank within a line. -/
def isSpace (c : Char) : Bool := c = ' ' || c = '\t'

/-- A character that comments and one-line texts may hold: any but the
    controls, of which the tab is allowed. -/
def isPlain (c : Char) : Bool := c = '\t' || (0x20 ≤ c.toNat && c.toNat ≠ 0x7F)

/-- The text after its leading blanks. -/
def skipSpace (cs : List Char) : List Char := cs.dropWhile isSpace

/-- The text after a line end, if it starts with one. -/
def newline? : List Char → Option (List Char)
  | '\n' :: r => some r
  | '\r' :: '\n' :: r => some r
  | _ => none

/-- The text after a comment, if it starts with one. -/
def skipComment : List Char → List Char
  | '#' :: r => r.dropWhile isPlain
  | cs => cs

/-- The text after the end of a line, which blanks and a comment may come
    before. -/
def lineEnd? (cs : List Char) : Option (List Char) :=
  match skipComment (skipSpace cs) with
  | [] => some []
  | r => newline? r

/-- The text after blanks, comments and line ends; `fuel` bounds the number
    of lines. -/
def skipLinesFrom : Nat → List Char → List Char
  | 0, cs => cs
  | fuel + 1, cs =>
    let r := skipComment (skipSpace cs)
    match newline? r with
    | some r' => skipLinesFrom fuel r'
    | none => r

/-- The text after blanks, comments and line ends. -/
def skipLines (cs : List Char) : List Char := skipLinesFrom cs.length cs

end Schemata.Toml
