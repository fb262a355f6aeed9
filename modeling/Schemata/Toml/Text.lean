import Schemata.Toml.Reader

/-! # Texts in TOML

    The four forms of a text: in double quotes with escapes or in single
    quotes as it stands, each on one line or, with the quotes tripled, over
    several lines. A line end inside a text is a line feed, however the
    document ends its lines. -/

namespace Schemata.Toml

/-! ### Escapes -/

/-- The value of a hexadecimal digit. -/
def hexDigit? (c : Char) : Option Nat :=
  if c.isDigit then some (c.toNat - '0'.toNat)
  else if 'a' ≤ c ∧ c ≤ 'f' then some (c.toNat - 'a'.toNat + 10)
  else if 'A' ≤ c ∧ c ≤ 'F' then some (c.toNat - 'A'.toNat + 10)
  else none

/-- The number of a text of hexadecimal digits. -/
def hexNumber? (cs : List Char) : Option Nat :=
  cs.foldlM (fun n c => (hexDigit? c).map (16 * n + ·)) 0

/-- The character of a code point in `count` hexadecimal digits. -/
def codePoint (count : Nat) : Reader Char := fun cs => do
  let digits := cs.take count
  let n ← hexNumber? digits
  if digits.length = count ∧ n.isValidChar then
    return (Char.ofNat n, cs.drop count)
  else none

/-- What an escape stands for; the backslash before it has been read. -/
def escape : Reader Char
  | 'b' :: r => some ('\x08', r)
  | 't' :: r => some ('\t', r)
  | 'n' :: r => some ('\n', r)
  | 'f' :: r => some ('\x0c', r)
  | 'r' :: r => some ('\r', r)
  | '"' :: r => some ('"', r)
  | '\\' :: r => some ('\\', r)
  | 'u' :: r => codePoint 4 r
  | 'U' :: r => codePoint 8 r
  | _ => none

/-! ### One line -/

/-- One piece of a text in double quotes, or the quote that ends it. -/
def basicPiece : Reader (List Char × Bool)
  | '"' :: r => some (([], false), r)
  | '\\' :: r => (escape r).map fun e => (([e.1], true), e.2)
  | c :: r => if isPlain c then some (([c], true), r) else none
  | [] => none

/-- A text in double quotes; the first quote has been read. -/
def basicText : Reader String := fun cs =>
  (Reader.items basicPiece cs).map fun p => (String.ofList p.1.flatten, p.2)

/-- A text in single quotes; the first quote has been read. -/
def literalText : Reader String := fun cs =>
  let plain := fun c => isPlain c && c ≠ '\''
  match cs.dropWhile plain with
  | '\'' :: r => some (String.ofList (cs.takeWhile plain), r)
  | _ => none

/-! ### Several lines -/

/-- The end of a text in tripled quotes: up to two quotes that belong to the
    text come before the three that end it. -/
def tripleEnd? (quote : Char) (cs : List Char) : Option (List Char × List Char) :=
  let run := (cs.takeWhile (· = quote)).length
  if run < 3 then none
  else
    let inside := min (run - 3) 2
    some (List.replicate inside quote, cs.drop (inside + 3))

/-- The text after the blanks and line ends that follow a backslash at the
    end of a line. -/
def skipFold : List Char → List Char
  | '\r' :: '\n' :: r => skipFold r
  | c :: r => if isSpace c || c = '\n' then skipFold r else c :: r
  | [] => []

/-- One piece of a text in tripled double quotes, or the quotes that end
    it. -/
def basicBlockPiece : Reader (List Char × Bool) := fun cs =>
  match tripleEnd? '"' cs with
  | some (inside, r) => some ((inside, false), r)
  | none =>
    match cs with
    | '\\' :: r =>
      match newline? (skipSpace r) with
      | some r' => some (([], true), skipFold r')
      | none => (escape r).map fun e => (([e.1], true), e.2)
    | c :: r =>
      match newline? cs with
      | some r' => some ((['\n'], true), r')
      | none => if isPlain c then some (([c], true), r) else none
    | [] => none

/-- One piece of a text in tripled single quotes, or the quotes that end
    it. -/
def literalBlockPiece : Reader (List Char × Bool) := fun cs =>
  match tripleEnd? '\'' cs with
  | some (inside, r) => some ((inside, false), r)
  | none =>
    match cs with
    | c :: r =>
      match newline? cs with
      | some r' => some ((['\n'], true), r')
      | none => if isPlain c then some (([c], true), r) else none
    | [] => none

/-- A text over several lines; the first three quotes have been read, and a
    line end right after them is passed over. -/
def blockText (piece : Reader (List Char × Bool)) : Reader String := fun cs =>
  (Reader.items piece ((newline? cs).getD cs)).map fun p => (String.ofList p.1.flatten, p.2)

/-- A text in any of the four forms. -/
def anyText : Reader String
  | '"' :: '"' :: '"' :: r => blockText basicBlockPiece r
  | '\'' :: '\'' :: '\'' :: r => blockText literalBlockPiece r
  | '"' :: r => basicText r
  | '\'' :: r => literalText r
  | _ => none

end Schemata.Toml
