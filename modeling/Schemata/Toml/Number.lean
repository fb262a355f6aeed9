import Schemata.Text
import Schemata.Toml.Text
import Schemata.Toml.Value

/-! # Numbers in TOML

    Integers of 64 bits in four bases, and floating-point numbers. An
    underscore may stand between two digits. -/

namespace Schemata.Toml

/-! ### Digits -/

/-- The digits that follow a digit, each with at most one underscore before
    it, and the rest of the text. -/
def moreDigits (isDigit : Char → Bool) : List Char → List Char × List Char
  | '_' :: c :: r =>
    if isDigit c then
      let p := moreDigits isDigit r
      (c :: p.1, p.2)
    else ([], '_' :: c :: r)
  | c :: r =>
    if isDigit c then
      let p := moreDigits isDigit r
      (c :: p.1, p.2)
    else ([], c :: r)
  | [] => ([], [])

/-- One or more digits, without the underscores between them. -/
def digits (isDigit : Char → Bool) : Reader (List Char)
  | c :: r =>
    if isDigit c then
      let p := moreDigits isDigit r
      some (c :: p.1, p.2)
    else none
  | [] => none

/-- One or more decimal digits with no zero in front of others. -/
def wholeDigits : Reader (List Char)
  | '0' :: r => some (['0'], r)
  | cs => digits Char.isDigit cs

/-- The sign in front of a number, if there is one. -/
def sign : List Char → List Char × List Char
  | '+' :: r => (['+'], r)
  | '-' :: r => (['-'], r)
  | cs => ([], cs)

/-! ### Integers -/

/-- The value of a text of digits in the given base. -/
def baseNumber (base : Nat) (ds : List Char) : Nat :=
  ds.foldl (fun n c => base * n + (hexDigit? c).getD 0) 0

/-- An integer in the given base, after the letter that tells the base. -/
def baseInteger (base : Nat) : Reader Value := fun cs => do
  let (ds, r) ← digits (fun c => (hexDigit? c).any (· < base)) cs
  let n := baseNumber base ds
  if Int.ofNat n ≤ Int64.maxValue.toInt then return (.integer n, r) else none

/-- An integer. -/
def integer : Reader Value
  | '0' :: 'x' :: r => baseInteger 16 r
  | '0' :: 'o' :: r => baseInteger 8 r
  | '0' :: 'b' :: r => baseInteger 2 r
  | cs => do
    let (sgn, r) := sign cs
    let (ds, r') ← wholeDigits r
    let n ← Text.readInt64 (sgn ++ ds)
    return (.integer n.toInt, r')

/-! ### Floating-point numbers -/

/-- Half a unit above the greatest finite number of the double format: the
    numbers from here on round to infinity. -/
def overflowBound : Nat := Nat.pow 2 1024 - Nat.pow 2 970

/-- Is `mantissa` times ten to the power of `exponent` too great for the
    double format? The number of digits decides but for a few powers. -/
def overflows (mantissa : Nat) (exponent : Int) : Bool :=
  let size := (Nat.toDigits 10 mantissa).length + exponent
  if mantissa = 0 || size < 300 then false
  else if 320 < size then true
  else if 0 ≤ exponent then overflowBound ≤ mantissa * Nat.pow 10 exponent.toNat
  else overflowBound * Nat.pow 10 (-exponent).toNat ≤ mantissa

/-- The fraction of a number: its digits, if there is one. -/
def fraction : List Char → Option (Option (List Char) × List Char)
  | '.' :: r => (digits Char.isDigit r).map fun p => (some p.1, p.2)
  | cs => some (none, cs)

/-- The exponent of a number, if there is one. -/
def exponent : List Char → Option (Option Int × List Char)
  | c :: r =>
    if c = 'e' || c = 'E' then do
      let (sgn, r') := sign r
      let (ds, r'') ← digits Char.isDigit r'
      let n ← Text.readSigned (sgn ++ ds)
      return (some n, r'')
    else some (none, c :: r)
  | [] => some (none, [])

/-- The words for infinity and for not a number. -/
def specialFloat (cs : List Char) : Option (List Char) :=
  match cs with
  | 'i' :: 'n' :: 'f' :: r => some r
  | 'n' :: 'a' :: 'n' :: r => some r
  | _ => none

/-- The text after a floating-point number: a fraction, an exponent or both
    follow the whole part. A positive number that is too great is refused. -/
def floatRest? (cs : List Char) : Option (List Char) := do
  let (sgn, r) := sign cs
  match specialFloat r with
  | some r' => return r'
  | none =>
    let (whole, r₁) ← wholeDigits r
    let (frac, r₂) ← fraction r₁
    let (expo, r₃) ← exponent r₂
    if frac.isNone && expo.isNone then none
    else
      let ds := whole ++ frac.getD []
      let scale := expo.getD 0 - (frac.getD []).length
      if sgn ≠ ['-'] && overflows (Nat.ofDigitChars 10 ds 0) scale then none
      else return r₃

/-- The part of the text that comes before the given rest of it. -/
def written (cs rest : List Char) : String := String.ofList (cs.take (cs.length - rest.length))

/-- A floating-point number. -/
def float : Reader Value := fun cs =>
  (floatRest? cs).map fun r => (.float (written cs r), r)

end Schemata.Toml
