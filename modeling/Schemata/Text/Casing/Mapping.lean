/-! # Case mappings

    A case mapping sends every character to a text. Most characters stay as
    they are; the others come in runs that move by one distance, and a few
    expand to several characters. -/

namespace Schemata.Text

/-- A **run** of code points, `step` apart from `first` to `last`, that move
    by one distance: `first` goes to `image`. -/
structure CaseRun where
  first : Nat
  last  : Nat
  step  : Nat
  image : Nat

/-- Is the code point one of the run? -/
def CaseRun.covers (r : CaseRun) (n : Nat) : Bool :=
  r.first ≤ n && n ≤ r.last && (n - r.first) % r.step == 0

/-- Where the run sends a code point that it covers. -/
def CaseRun.apply (r : CaseRun) (n : Nat) : Nat := r.image + (n - r.first)

/-- A case mapping: runs of characters that go to one character each, and
    the characters that expand. -/
structure CaseMapping where
  runs       : List CaseRun
  expansions : List (Nat × List Nat)

namespace CaseMapping

/-- The code points that a code point is mapped to; one that no run covers
    and that does not expand stays. -/
def codes (m : CaseMapping) (n : Nat) : List Nat :=
  match m.expansions.lookup n with
  | some ns => ns
  | none => [((m.runs.find? (·.covers n)).map (·.apply n)).getD n]

/-- The image of one character. -/
def char (m : CaseMapping) (c : Char) : List Char := (m.codes c.toNat).map Char.ofNat

/-- The image of a text, character by character. -/
def text (m : CaseMapping) (cs : List Char) : List Char := cs.flatMap m.char

@[simp] theorem text_nil (m : CaseMapping) : m.text [] = [] := rfl

@[simp] theorem text_cons (m : CaseMapping) (c : Char) (cs : List Char) :
    m.text (c :: cs) = m.char c ++ m.text cs := by
  simp [text]

@[simp] theorem text_append (m : CaseMapping) (cs ds : List Char) :
    m.text (cs ++ ds) = m.text cs ++ m.text ds := by
  simp [text]

end CaseMapping

end Schemata.Text
