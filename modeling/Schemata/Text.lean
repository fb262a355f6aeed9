/-! # Texts

    What is read off a text, and how a text is written.

    - White space is what has the Unicode property `White_Space`; a text can
      be **trimmed** of it at both ends.
    - Column labels and the word for a true flag are matched without regard
      to the case of the letters `A` to `Z`; every other character has to be
      the same one.
    - An integer is read from digits with at most one sign in front, with any
      number of leading zeros; a number that does not fit in 64 bits is not
      read.
    - A text occurs in another one as a run of neighbouring characters.
    - A text in a message stands in double quotes, with escapes for all white
      space but the plain space. -/

namespace Schemata.Text

/-! ### White space -/

/-- White space: the characters with the Unicode property
    `White_Space`. -/
def isBlank (c : Char) : Bool :=
  let n := c.toNat
  (0x09 ≤ n && n ≤ 0x0D) || n == 0x20 || n == 0x85 || n == 0xA0 || n == 0x1680 ||
    (0x2000 ≤ n && n ≤ 0x200A) || n == 0x2028 || n == 0x2029 || n == 0x202F ||
    n == 0x205F || n == 0x3000

/-- A text of white space only; the empty text is one. -/
def allBlank (cs : List Char) : Bool := cs.all isBlank

/-- The text without the white space at its start. -/
def trimStart (cs : List Char) : List Char := cs.dropWhile isBlank

/-- The text without the white space at its ends. -/
def trim (cs : List Char) : List Char := (trimStart (trimStart cs).reverse).reverse

theorem trimStart_eq_nil_iff {cs : List Char} : trimStart cs = [] ↔ allBlank cs = true := by
  induction cs with
  | nil => simp [trimStart, allBlank]
  | cons c r ih =>
    by_cases h : isBlank c
    · rw [trimStart, List.dropWhile_cons_of_pos h, allBlank, List.all_cons, h, Bool.true_and]
      exact ih
    · simp [trimStart, allBlank, h]

theorem trimStart_trimStart (cs : List Char) : trimStart (trimStart cs) = trimStart cs := by
  induction cs with
  | nil => rfl
  | cons c r ih =>
    unfold trimStart at ih ⊢
    by_cases h : isBlank c = true
    · rw [List.dropWhile_cons_of_pos h]
      exact ih
    · rw [List.dropWhile_cons_of_neg h, List.dropWhile_cons_of_neg h]

theorem allBlank_reverse (cs : List Char) : allBlank cs.reverse = allBlank cs :=
  List.all_reverse

/-- Trimming leaves nothing exactly of a blank text. -/
theorem trim_eq_nil_iff {cs : List Char} : trim cs = [] ↔ allBlank cs = true := by
  rw [trim, List.reverse_eq_nil_iff, trimStart_eq_nil_iff, allBlank_reverse]
  -- a text without white space at its start is blank only if it is empty
  rw [← trimStart_eq_nil_iff, trimStart_trimStart, trimStart_eq_nil_iff]

/-! ### Equality up to ASCII case -/

/-- The text with the letters `A` to `Z` in lower case. -/
def asciiLower (s : String) : List Char := s.toList.map Char.toLower

/-- Equality up to the case of ASCII letters. -/
def sameUpToCase (s t : String) : Bool := asciiLower s == asciiLower t

@[simp] theorem sameUpToCase_self (s : String) : sameUpToCase s s = true := by
  simp [sameUpToCase]

theorem sameUpToCase_iff {s t : String} :
    sameUpToCase s t = true ↔ asciiLower s = asciiLower t := by
  simp [sameUpToCase]

/-! ### Decimal integers -/

/-- The value of a text of one or more ASCII digits. -/
def readDigits (cs : List Char) : Option Nat :=
  if !cs.isEmpty && cs.all Char.isDigit then some (Nat.ofDigitChars 10 cs 0) else none

/-- The value of a text of ASCII digits after at most one sign. -/
def readSigned : List Char → Option Int
  | '+' :: ds => (readDigits ds).map Int.ofNat
  | '-' :: ds => (readDigits ds).map fun n => -(n : Int)
  | ds => (readDigits ds).map Int.ofNat

/-- The signed number that a text stands for, if it fits in 64 bits. -/
def readInt64 (cs : List Char) : Option Int64 :=
  (readSigned cs).bind fun n =>
    if Int64.minValue.toInt ≤ n ∧ n ≤ Int64.maxValue.toInt then some (Int64.ofInt n) else none

/-- The decimal form, with a minus sign in front of a negative number. -/
def decimal : Int → List Char
  | .ofNat n => Nat.toDigits 10 n
  | .negSucc n => '-' :: Nat.toDigits 10 (n + 1)

/-! ### Searching -/

/-- Does the text occur, character by character, somewhere in the other
    one? -/
def contains (part : List Char) : List Char → Bool
  | [] => part.isEmpty
  | c :: cs => part.isPrefixOf (c :: cs) || contains part cs

/-- A text contains exactly the runs of its neighbouring characters. -/
theorem contains_iff {part cs : List Char} : contains part cs = true ↔ part <:+: cs := by
  induction cs with
  | nil => simp [contains]
  | cons c cs ih => simp [contains, ih, List.infix_cons_iff]

/-! ### Quoted texts in messages -/

/-- A character as it stands between the quotes. -/
def escapeChar (c : Char) : List Char :=
  if c = '\t' then ['\\', 't']
  else if c = '\n' then ['\\', 'n']
  else if c = '\r' then ['\\', 'r']
  else if c = '"' ∨ c = '\\' then ['\\', c]
  else if isBlank c ∧ c ≠ ' ' then
    ['\\', 'u', '\x7b'] ++ Nat.toDigits 16 c.toNat ++ ['\x7d']
  else [c]

/-- The text between double quotes, its characters escaped. -/
def escaped (s : String) : String :=
  String.ofList ('"' :: s.toList.flatMap escapeChar ++ ['"'])

end Schemata.Text
