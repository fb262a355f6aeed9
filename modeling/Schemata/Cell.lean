import Schemata.Text

/-! # Cells

    A cell of a tabular result is NULL, a truth value, a signed integer of
    one of three widths, or a text. A cell reads as a number, as a text or
    as a flag; the reading as a flag takes any cell, as drivers do that
    have no truth values of their own. -/

namespace Schemata

/-- A cell of a tabular result. -/
inductive Cell where
  | null
  | bool  (b : Bool)
  | int16 (n : Int16)
  | int32 (n : Int32)
  | int64 (n : Int64)
  | text  (s : String)
deriving DecidableEq

namespace Cell

/-- Is the cell NULL? -/
def isNull : Cell → Bool
  | null => true
  | _ => false

/-- The text of a text cell. -/
def text? : Cell → Option String
  | text s => some s
  | _ => none

/-- The truth value of a cell that holds one. -/
def bool? : Cell → Option Bool
  | bool b => some b
  | _ => none

/-- The number that the cell holds or its trimmed text spells. -/
def int64? : Cell → Option Int64
  | int16 n => some n.toInt64
  | int32 n => some n.toInt64
  | int64 n => some n
  | text s => Text.readInt64 (Text.trim s.toList)
  | null => none
  | bool _ => none

/-- The cell read as a flag: a truth value is itself, the word `true` in any
    case is true, a number is true unless it is zero, and NULL is false. -/
def flag : Cell → Bool
  | bool b => b
  | text s =>
    Text.sameUpToCase (String.ofList (Text.trim s.toList)) "true" ||
      (int64? (text s)).any (· != 0)
  | c => c.int64?.any (· != 0)

/-- The cell as text: a number in decimal, a text as it is. -/
def display : Cell → String
  | null => "NULL"
  | bool true => "true"
  | bool false => "false"
  | int16 n => String.ofList (Text.decimal n.toInt)
  | int32 n => String.ofList (Text.decimal n.toInt)
  | int64 n => String.ofList (Text.decimal n.toInt)
  | text s => s

/-- A cell that holds the text, or NULL where there is none. -/
def ofText? (s : Option String) : Cell := s.elim null text

@[simp] theorem text?_text (s : String) : (text s).text? = some s := rfl

theorem text?_eq_some_iff {c : Cell} {s : String} : c.text? = some s ↔ c = text s := by
  cases c <;> simp [text?]

@[simp] theorem flag_bool (b : Bool) : (bool b).flag = b := rfl

@[simp] theorem flag_null : flag null = false := rfl

end Cell

end Schemata
