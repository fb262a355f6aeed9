import Schemata.Toml.Number

/-! # Dates and times in TOML

    A date, a time, or a date and a time with or without an offset. The
    day has to exist in its month. -/

namespace Schemata.Toml

/-- A number of exactly `count` digits, from `lo` to `hi`. -/
def fixedNumber (count lo hi : Nat) : Reader Nat := fun cs =>
  let ds := cs.take count
  let n := Nat.ofDigitChars 10 ds 0
  if ds.length = count && ds.all Char.isDigit && lo ≤ n && n ≤ hi then
    some (n, cs.drop count)
  else none

/-- Does the year have a leap day? -/
def isLeapYear (year : Nat) : Bool := year % 4 = 0 && (year % 100 ≠ 0 || year % 400 = 0)

/-- The number of days of a month. -/
def daysInMonth (year month : Nat) : Nat :=
  if month = 2 then if isLeapYear year then 29 else 28
  else if month = 4 ∨ month = 6 ∨ month = 9 ∨ month = 11 then 30
  else 31

/-- The text after a date. -/
def dateRest? (cs : List Char) : Option (List Char) := do
  let (year, r₁) ← fixedNumber 4 0 9999 cs
  let (_, r₂) ← Reader.exactly ['-'] r₁
  let (month, r₃) ← fixedNumber 2 1 12 r₂
  let (_, r₄) ← Reader.exactly ['-'] r₃
  let (_, r₅) ← fixedNumber 2 1 (daysInMonth year month) r₄
  return r₅

/-- The text after an hour and a minute. -/
def minuteRest? (cs : List Char) : Option (List Char) := do
  let (_, r₁) ← fixedNumber 2 0 23 cs
  let (_, r₂) ← Reader.exactly [':'] r₁
  let (_, r₃) ← fixedNumber 2 0 59 r₂
  return r₃

/-- The text after a time. A minute may have 61 seconds; a second may have
    a fraction. -/
def timeRest? (cs : List Char) : Option (List Char) := do
  let r₁ ← minuteRest? cs
  let (_, r₂) ← Reader.exactly [':'] r₁
  let (_, r₃) ← fixedNumber 2 0 60 r₂
  match r₃ with
  | '.' :: c :: r => if c.isDigit then return r.dropWhile Char.isDigit else none
  | '.' :: [] => none
  | _ => return r₃

/-- The text after an offset from universal time, or the same text if there
    is none. -/
def offsetRest? : List Char → Option (List Char)
  | 'Z' :: r => some r
  | 'z' :: r => some r
  | '+' :: r => minuteRest? r
  | '-' :: r => minuteRest? r
  | cs => some cs

/-- The text after the time that follows a date, or the same text if no time
    follows. -/
def timeAfterDate? (cs : List Char) : Option (List Char) :=
  match cs with
  | c :: r =>
    if c = 'T' || c = 't' || c = ' ' then
      match timeRest? r with
      | some r' => offsetRest? r'
      | none => some cs
    else some cs
  | [] => some []

/-- A date, a time, or both. -/
def dateTime : Reader Value := fun cs =>
  let rest := (dateRest? cs).bind timeAfterDate? <|> timeRest? cs
  rest.map fun r => (.dateTime (written cs r), r)

end Schemata.Toml
