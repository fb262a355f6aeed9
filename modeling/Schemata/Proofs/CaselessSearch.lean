import Mathlib.Data.List.Forall2
import Schemata.Text
import Schemata.Text.Casing

/-! # Searching without regard to case

    A product name is put into lower case before a word is searched in it.
    Lower case is that of all of Unicode: one character can become two, a
    character that is not ASCII can become an ASCII letter, and the capital
    sigma looks at its neighbours. So positions in the lower-case form are not
    those in the text.

    For a **steady** word none of this matters (`contains_lower_iff`): it is
    found in the lower-case form exactly if the text spells it, every letter
    being the small ASCII letter or its capital. Two characters decide which
    words are steady: the Kelvin sign becomes `k`, and the capital I with dot
    above becomes `i` with a combining dot. -/

namespace Schemata.Text

/-! ### Spelling -/

/-- The character is the letter, or the ASCII capital of it. -/
def EitherCase (c a : Char) : Prop := c = a ∨ c = a.toUpper

/-- The text starts with the word, each letter in either case. -/
def StartsWith (word cs : List Char) : Prop := ∃ w, w <+: cs ∧ List.Forall₂ EitherCase w word

/-- Neighbouring characters of the text spell the word, each letter in either
    case. -/
def Spells (word cs : List Char) : Prop := ∃ w, w <:+: cs ∧ List.Forall₂ EitherCase w word

section Spelling

variable {word cs : List Char} {a c : Char}

theorem startsWith_cons :
    StartsWith (a :: word) (c :: cs) ↔ EitherCase c a ∧ StartsWith word cs := by
  constructor
  · rintro ⟨w, hw, hforall⟩
    cases hforall with
    | cons hc hrest =>
      obtain ⟨rfl, hrest'⟩ := List.cons_prefix_cons.mp hw
      exact ⟨hc, _, hrest', hrest⟩
  · rintro ⟨hc, w, hw, hrest⟩
    exact ⟨c :: w, List.cons_prefix_cons.mpr ⟨rfl, hw⟩, .cons hc hrest⟩

theorem spells_cons : Spells word (c :: cs) ↔ StartsWith word (c :: cs) ∨ Spells word cs := by
  unfold Spells StartsWith
  simp only [List.infix_cons_iff, or_and_right, exists_or]

end Spelling

/-! ### Small letters -/

/-- What holds of the small ASCII letters holds of every character of that
    class. -/
theorem of_isLower {P : Char → Prop} {a : Char} (ha : a.isLower = true)
    (h : ∀ n < 128, (Char.ofNat n).isLower = true → P (Char.ofNat n)) : P a := by
  have hbounds : (decide (a.val ≥ 'a'.val) && decide (a.val ≤ 'z'.val)) = true := ha
  have hlt : a.toNat < 128 := by
    rw [Bool.and_eq_true, decide_eq_true_eq, decide_eq_true_eq] at hbounds
    have hz : a.toNat ≤ 'z'.toNat := hbounds.2
    exact Nat.lt_of_le_of_lt hz (by decide)
  have hp := h a.toNat hlt
  rw [Char.ofNat_toNat] at hp
  exact hp ha

theorem toNat_bounds {a : Char} (ha : a.isLower = true) : 0x61 ≤ a.toNat ∧ a.toNat ≤ 0x7A :=
  of_isLower (P := fun a => 0x61 ≤ a.toNat ∧ a.toNat ≤ 0x7A) ha (by decide)

theorem eitherCase_iff {a : Char} (ha : a.isLower = true) (c : Char) :
    EitherCase c a ↔ c.toNat = a.toNat ∨ c.toNat + 32 = a.toNat := by
  have hupper : a.toUpper.toNat + 32 = a.toNat :=
    of_isLower (P := fun a => a.toUpper.toNat + 32 = a.toNat) ha (by decide)
  have heq : ∀ b : Char, c = b ↔ c.toNat = b.toNat := fun b => Char.toNat_inj.symm
  unfold EitherCase
  rw [heq, heq]
  omega

/-! ### Characters in lower case -/

/-- The run of `A` to `Z` is the only one of ASCII, and the run of the Kelvin sign
    is the only other one that leads there. -/
theorem lowerRuns_ascii : ∀ r ∈ lowerRuns,
    r.first = 0x41 ∧ r.last = 0x5A ∧ r.image = 0x61 ∨
      0x80 ≤ r.first ∧ (0x80 ≤ r.image ∨ r.first = 0x212A ∧ r.last = 0x212A ∧ r.image = 0x6B) := by
  decide +kernel

/-- The capital letters of ASCII are in a run. -/
theorem exists_lowerRun {n : Nat} (hn : 0x41 ≤ n ∧ n ≤ 0x5A) :
    ∃ r ∈ lowerRuns, r.covers n = true := by
  refine ⟨⟨0x41, 0x5A, 1, 0x61⟩, List.mem_cons_self, ?_⟩
  simp [CaseRun.covers, hn, Nat.mod_one]

/-- A small letter other than `k` is the image of itself and of its capital only,
    apart from what expands. -/
theorem exists_codes_eq {n m : Nat} (hn : n ≠ 0x130) (hm : 0x61 ≤ m ∧ m ≤ 0x7A) (hk : m ≠ 0x6B) :
    ∃ i, lowerMapping.codes n = [i] ∧ (i = m ↔ n = m ∨ n + 32 = m) := by
  have hlookup : lowerMapping.expansions.lookup n = none := by
    rw [List.lookup_eq_none_iff]
    simp [lowerMapping, lowerExpansions, hn]
  unfold CaseMapping.codes
  rw [hlookup]
  refine ⟨_, rfl, ?_⟩
  cases hfind : lowerMapping.runs.find? (·.covers n) with
  | none =>
    -- a capital letter would be in a run
    have hcapital : ¬(0x41 ≤ n ∧ n ≤ 0x5A) := by
      intro hn
      obtain ⟨r, hr, hcovers⟩ := exists_lowerRun hn
      exact absurd hcovers (List.find?_eq_none.mp hfind r hr)
    simp only [Option.map_none, Option.getD_none]
    omega
  | some r =>
    have hcovers : r.covers n = true := (List.find?_eq_some_iff_append.mp hfind).1
    have hmem : r ∈ lowerRuns := List.mem_of_find?_eq_some hfind
    simp only [CaseRun.covers, Bool.and_eq_true, decide_eq_true_eq] at hcovers
    obtain ⟨⟨hfirst, hlast⟩, -⟩ := hcovers
    simp only [Option.map_some, Option.getD_some, CaseRun.apply]
    rcases lowerRuns_ascii r hmem with ⟨h₁, h₂, h₃⟩ | ⟨h₁, h₂ | ⟨h₂, h₃, h₄⟩⟩
    · omega
    · omega
    · omega

theorem toNat_ofNat (n : Nat) : (Char.ofNat n).toNat = n ∨ (Char.ofNat n).toNat = 0 := by
  unfold Char.ofNat
  by_cases h : n.isValidChar
  · rw [dif_pos h]
    exact .inl rfl
  · rw [dif_neg h]
    exact .inr rfl

/-- In lower case a character is a small letter other than `k` exactly if it is
    this letter in either case; but for the capital I with dot above, which
    becomes an `i` and a combining dot. -/
theorem lowerChar_cases {a : Char} (ha : a.isLower = true) (hk : a ≠ 'k')
    (before after : List Char) (c : Char) :
    (c = '\u0130' ∧ lowerChar before after c = ['i', '\u0307']) ∨
      ∃ x, lowerChar before after c = [x] ∧ (x = a ↔ EitherCase c a) := by
  have hbounds := toNat_bounds ha
  have hk' : a.toNat ≠ 0x6B := fun h => hk (Char.toNat_inj.mp h)
  by_cases hdot : c = '\u0130'
  · refine .inl ⟨hdot, ?_⟩
    subst hdot
    rfl
  refine .inr ?_
  rw [eitherCase_iff ha]
  unfold lowerChar
  by_cases hsigma : c = 'Σ'
  · rw [if_pos hsigma]
    refine ⟨_, rfl, ?_⟩
    have hc : c.toNat = 0x3A3 := congrArg Char.toNat hsigma
    rw [← Char.toNat_inj, hc]
    split
    · have hx : 'ς'.toNat = 0x3C2 := rfl
      omega
    · have hx : 'σ'.toNat = 0x3C3 := rfl
      omega
  · rw [if_neg hsigma]
    have hn : c.toNat ≠ 0x130 := fun h => hdot (Char.toNat_inj.mp h)
    obtain ⟨i, hcodes, hi⟩ := exists_codes_eq hn hbounds hk'
    refine ⟨Char.ofNat i, ?_, ?_⟩
    · rw [CaseMapping.char, hcodes]
      rfl
    · rw [← hi, ← Char.toNat_inj]
      -- a code point that no character has becomes NUL, which is no letter
      constructor
      · intro h
        rcases toNat_ofNat i with h' | h' <;> omega
      · rintro rfl
        rw [Char.ofNat_toNat]

/-! ### Steady words -/

/-- The word is of small ASCII letters without a `k`, and does not end in `i`. -/
structure Steady (word : List Char) : Prop where
  letters : ∀ a ∈ word, a.isLower = true ∧ a ≠ 'k'
  last : word.getLast? ≠ some 'i'

theorem Steady.tail {a : Char} {word : List Char} (h : Steady (a :: word)) : Steady word where
  letters := fun b hb => h.letters b (List.mem_cons_of_mem a hb)
  last := by
    cases word with
    | nil => exact fun h => nomatch h
    | cons b word => simpa using h.last

/-- No small letter is the combining dot. -/
theorem Steady.not_prefix_dot {word cs : List Char} (h : Steady word) (hne : word ≠ []) :
    ¬word <+: '\u0307' :: cs := by
  cases word with
  | nil => exact absurd rfl hne
  | cons a word =>
    intro hprefix
    obtain ⟨rfl, -⟩ := List.cons_prefix_cons.mp hprefix
    exact absurd (h.letters _ List.mem_cons_self).1 (by decide)

/-- The two characters of a capital I with dot above do not start a steady word:
    the word would go on with the combining dot. -/
theorem Steady.not_prefix_expansion {word cs : List Char} (h : Steady word) (hne : word ≠ []) :
    ¬word <+: 'i' :: '\u0307' :: cs := by
  cases word with
  | nil => exact absurd rfl hne
  | cons a word =>
    intro hprefix
    obtain ⟨rfl, hrest⟩ := List.cons_prefix_cons.mp hprefix
    by_cases hword : word = []
    · subst hword
      exact h.last rfl
    · exact h.tail.not_prefix_dot hword hrest

theorem not_eitherCase_dotted {a : Char} (ha : a.isLower = true) : ¬EitherCase '\u0130' a := by
  have hbounds := toNat_bounds ha
  have hdot : '\u0130'.toNat = 0x130 := rfl
  rw [eitherCase_iff ha]
  omega

/-- A steady word starts the lower-case form exactly if it starts the text. The
    induction is on the word, so that the text before moves along. -/
theorem Steady.prefix_lowerFrom_iff {word : List Char} (h : Steady word)
    (before cs : List Char) : word <+: lowerFrom before cs ↔ StartsWith word cs := by
  induction word generalizing before cs with
  | nil => exact ⟨fun _ => ⟨[], List.nil_prefix, .nil⟩, fun _ => List.nil_prefix⟩
  | cons a word ih =>
    obtain ⟨ha, hk⟩ := h.letters a List.mem_cons_self
    cases cs with
    | nil =>
      constructor
      · intro hprefix
        exact absurd (List.prefix_nil.mp hprefix) (List.cons_ne_nil a word)
      · rintro ⟨w, hw, hforall⟩
        rw [List.prefix_nil.mp hw] at hforall
        cases hforall
    | cons c cs =>
      rw [startsWith_cons, lowerFrom]
      rcases lowerChar_cases ha hk before cs c with ⟨rfl, himage⟩ | ⟨x, himage, hx⟩
      · rw [himage]
        constructor
        · intro hprefix
          exact absurd hprefix (h.not_prefix_expansion (List.cons_ne_nil a word))
        · rintro ⟨hc, -⟩
          exact absurd hc (not_eitherCase_dotted ha)
      · rw [himage, List.singleton_append, List.cons_prefix_cons, eq_comm, hx, ih h.tail]

/-- A steady word is found in the lower-case form exactly if the text spells it. -/
theorem Steady.infix_lowerFrom_iff {word : List Char} (h : Steady word) (hne : word ≠ [])
    (before cs : List Char) : word <:+: lowerFrom before cs ↔ Spells word cs := by
  induction cs generalizing before with
  | nil =>
    constructor
    · intro hinfix
      exact absurd (List.infix_nil.mp hinfix) hne
    · rintro ⟨w, hw, hforall⟩
      rw [List.infix_nil.mp hw] at hforall
      cases hforall
      exact absurd rfl hne
  | cons c cs ih =>
    have hprefix := h.prefix_lowerFrom_iff before (c :: cs)
    rw [spells_cons, ← hprefix, ← ih (c :: before), lowerFrom]
    -- any letter of the word tells the two kinds of image apart
    obtain ⟨a, word, rfl⟩ := List.exists_cons_of_ne_nil hne
    obtain ⟨ha, hk⟩ := h.letters a List.mem_cons_self
    rcases lowerChar_cases ha hk before cs c with ⟨-, himage⟩ | ⟨x, himage, -⟩
    · rw [himage]
      simp only [List.cons_append, List.nil_append, List.infix_cons_iff]
      constructor
      · rintro (hexpansion | hdot | hrest)
        · exact .inl hexpansion
        · exact absurd hdot (h.not_prefix_dot hne)
        · exact .inr hrest
      · rintro (hexpansion | hrest)
        · exact .inl hexpansion
        · exact .inr (.inr hrest)
    · rw [himage, List.singleton_append, List.infix_cons_iff]

/-- A steady word is found in the lower-case form of a text exactly if the text
    spells it in ASCII letters of either case. -/
theorem Steady.contains_lower_iff {word : List Char} (h : Steady word) (hne : word ≠ [])
    (s : String) : contains word (lower s).toList = true ↔ Spells word s.toList := by
  rw [contains_iff, toList_lower]
  exact h.infix_lowerFrom_iff hne [] s.toList

end Schemata.Text
