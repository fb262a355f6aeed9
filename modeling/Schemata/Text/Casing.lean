import Schemata.Text.Casing.Upper
import Schemata.Text.Casing.Lower
import Schemata.Text.Casing.Context

/-! # Upper and lower case

    The upper-case form of a text is that of its characters, one after the
    other. The lower-case form is so too, but for the capital sigma, which
    becomes the final sigma where it ends a word: a cased letter comes
    before it and none after it, case-ignorable characters aside. -/

namespace Schemata.Text

/-- The text in upper case. -/
def upper (s : String) : String := String.ofList (upperMapping.text s.toList)

/-- Is a cased letter the first character that is not case-ignorable? -/
def cased? (cs : List Char) : Bool :=
  (cs.dropWhile isCaseIgnorable).head?.any isCased

/-- The lower-case form of a character, given the characters `before` it
    (the nearest first) and those `after` it. -/
def lowerChar (before after : List Char) (c : Char) : List Char :=
  if c = 'Σ' then [if cased? before && !cased? after then 'ς' else 'σ']
  else lowerMapping.char c

/-- The lower-case form of the rest of a text, `before` being what precedes
    it, the nearest character first. -/
def lowerFrom (before : List Char) : List Char → List Char
  | [] => []
  | c :: cs => lowerChar before cs c ++ lowerFrom (c :: before) cs

/-- The text in lower case. -/
def lower (s : String) : String := String.ofList (lowerFrom [] s.toList)

@[simp] theorem toList_upper (s : String) :
    (upper s).toList = upperMapping.text s.toList := by
  simp [upper]

@[simp] theorem toList_lower (s : String) : (lower s).toList = lowerFrom [] s.toList := by
  simp [lower]

end Schemata.Text
