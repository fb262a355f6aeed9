import Mathlib.Tactic.Ring
import Schemata.Proofs.CaselessSearch
import Schemata.Proofs.CellTexts

/-! # Numerals

    A text cell reads as a number if its text is a numeral of a number of 64
    bits, white space at the ends aside. A **numeral** is at most one sign and
    one or more ASCII digits (`Text.Numeral`); each digit counts by its place,
    so that leading zeros count for nothing and the length of a numeral says
    little about its size.

    - The reader takes the numerals that fit and no other text
      (`Text.readInt64_eq_some_iff`), both ends of the range included.
    - A scan that takes one digit after the other, and that gives up as soon as
      64 bits overflow, comes to the same (`Text.readInt64_eq_scan`): no digit
      brings a number back that has left the range.
    - The same numerals decide which text cells are true flags
      (`text_numerals_read_exactly`). -/

namespace Schemata

namespace Text

variable {cs ds : List Char} {c : Char} {n m : Int64} {z : Int}

/-! ### Texts without white space at the ends -/

/-- The second text is the first one without the white space at its ends. -/
structure Trimmed (cs t : List Char) : Prop where
  padded : ∃ p q, allBlank p = true ∧ allBlank q = true ∧ cs = p ++ t ++ q
  head_not_blank : ∀ c, t.head? = some c → isBlank c = false
  last_not_blank : ∀ c, t.getLast? = some c → isBlank c = false

theorem not_blank_of_head?_trimStart (h : (trimStart cs).head? = some c) : isBlank c = false := by
  have hhead := List.head?_dropWhile_not isBlank cs
  unfold trimStart at h
  rw [h] at hhead
  simpa using hhead

/-- What is taken off at the start is white space. -/
theorem exists_trimStart (cs : List Char) : ∃ p, allBlank p = true ∧ cs = p ++ trimStart cs :=
  ⟨cs.takeWhile isBlank, List.all_takeWhile, List.takeWhile_append_dropWhile.symm⟩

theorem trimmed_trim (cs : List Char) : Trimmed cs (trim cs) := by
  obtain ⟨p, hp, hcs⟩ := exists_trimStart cs
  obtain ⟨q, hq, hrest⟩ := exists_trimStart (trimStart cs).reverse
  -- read backwards, the second trimming takes off the end
  have hend : trimStart cs = trim cs ++ q.reverse := by
    rw [trim, ← List.reverse_append, ← hrest, List.reverse_reverse]
  constructor
  case padded =>
    refine ⟨p, q.reverse, hp, ?_, ?_⟩
    · rwa [allBlank_reverse]
    · rw [List.append_assoc, ← hend]
      exact hcs
  case head_not_blank =>
    intro c hc
    have hhead : (trimStart cs).head? = some c := by
      rw [hend, List.head?_append, hc, Option.some_or]
    exact not_blank_of_head?_trimStart hhead
  case last_not_blank =>
    intro c hc
    rw [trim, List.getLast?_reverse] at hc
    exact not_blank_of_head?_trimStart hc

/-! ### Digits -/

/-- An ASCII digit. -/
def Digit (c : Char) : Prop := '0' ≤ c ∧ c ≤ '9'

instance (c : Char) : Decidable (Digit c) := inferInstanceAs (Decidable (_ ∧ _))

/-- The number that a digit stands for. -/
def digitValue (c : Char) : Nat := c.toNat - '0'.toNat

/-- The number that digits stand for: each one counts by its place. -/
def placeValue : List Char → Nat
  | [] => 0
  | c :: cs => digitValue c * 10 ^ cs.length + placeValue cs

theorem isDigit_iff : c.isDigit = true ↔ Digit c := by
  rw [Char.isDigit_iff_toNat]
  exact Iff.rfl

/-- Adding digit after digit to ten times the number before is counting by
    place. -/
theorem ofDigitChars_eq (k : Nat) (cs : List Char) :
    Nat.ofDigitChars 10 cs k = k * 10 ^ cs.length + placeValue cs := by
  induction cs generalizing k with
  | nil => simp [placeValue]
  | cons c cs ih =>
    rw [Nat.ofDigitChars_cons, ih, placeValue, List.length_cons]
    show (10 * k + digitValue c) * 10 ^ cs.length + placeValue cs = _
    ring

/-- One or more digits. -/
def Digits (ds : List Char) : Prop := ds ≠ [] ∧ ∀ c ∈ ds, Digit c

theorem readDigits_eq_some_iff {k : Nat} :
    readDigits ds = some k ↔ Digits ds ∧ k = placeValue ds := by
  have hdigits : (!ds.isEmpty && ds.all Char.isDigit) = true ↔ Digits ds := by
    simp [Digits, isDigit_iff]
  have hvalue : Nat.ofDigitChars 10 ds 0 = placeValue ds := by
    rw [ofDigitChars_eq, Nat.zero_mul, Nat.zero_add]
  unfold readDigits
  by_cases h : Digits ds
  · rw [if_pos (hdigits.mpr h), hvalue]
    simp [h, eq_comm]
  · rw [if_neg (fun hd => h (hdigits.mp hd))]
    simp [h]

/-! ### Numerals -/

/-- The text is a numeral of the number. -/
inductive Numeral : List Char → Int → Prop where
  | unsigned {ds : List Char} (h : Digits ds) : Numeral ds (placeValue ds)
  | plus {ds : List Char} (h : Digits ds) : Numeral ('+' :: ds) (placeValue ds)
  | minus {ds : List Char} (h : Digits ds) : Numeral ('-' :: ds) (-(placeValue ds : Int))

/-- A sign is no digit. -/
theorem not_digits_cons (h : ¬Digit c) : ¬Digits (c :: ds) :=
  fun hds => h (hds.2 c List.mem_cons_self)

theorem numeral_plus_iff : Numeral ('+' :: ds) z ↔ Digits ds ∧ z = placeValue ds := by
  constructor
  · intro h
    cases h with
    | unsigned h => exact absurd h (not_digits_cons (by decide))
    | plus h => exact ⟨h, rfl⟩
  · intro h
    rw [h.2]
    exact .plus h.1

theorem numeral_minus_iff :
    Numeral ('-' :: ds) z ↔ Digits ds ∧ z = -(placeValue ds : Int) := by
  constructor
  · intro h
    cases h with
    | unsigned h => exact absurd h (not_digits_cons (by decide))
    | minus h => exact ⟨h, rfl⟩
  · intro h
    rw [h.2]
    exact .minus h.1

theorem numeral_unsigned_iff (hplus : ∀ r, cs ≠ '+' :: r) (hminus : ∀ r, cs ≠ '-' :: r) :
    Numeral cs z ↔ Digits cs ∧ z = placeValue cs := by
  constructor
  · intro h
    cases h with
    | unsigned h => exact ⟨h, rfl⟩
    | plus h => exact absurd rfl (hplus _)
    | minus h => exact absurd rfl (hminus _)
  · intro h
    rw [h.2]
    exact .unsigned h.1

theorem map_readDigits_eq_some_iff {f : Nat → Int} :
    (readDigits ds).map f = some z ↔ Digits ds ∧ z = f (placeValue ds) := by
  rw [Option.map_eq_some_iff]
  constructor
  · intro h
    obtain ⟨k, hk, rfl⟩ := h
    obtain ⟨hds, rfl⟩ := readDigits_eq_some_iff.mp hk
    exact ⟨hds, rfl⟩
  · intro h
    exact ⟨placeValue ds, readDigits_eq_some_iff.mpr ⟨h.1, rfl⟩, h.2.symm⟩

theorem readSigned_minus (ds : List Char) :
    readSigned ('-' :: ds) = (readDigits ds).map fun k : Nat => -(k : Int) := by
  rw [readSigned]
  cases readDigits ds <;> rfl

/-- Numbers are read from their numerals and from nothing else. -/
theorem readSigned_eq_some_iff : readSigned cs = some z ↔ Numeral cs z := by
  unfold readSigned
  split
  · exact map_readDigits_eq_some_iff.trans numeral_plus_iff.symm
  · show readSigned ('-' :: _) = some z ↔ _
    rw [readSigned_minus, map_readDigits_eq_some_iff, numeral_minus_iff]
  · rename_i hplus hminus
    exact map_readDigits_eq_some_iff.trans (numeral_unsigned_iff hplus hminus).symm

/-! ### Numbers of 64 bits -/

/-- The number in 64 bits, if it fits. -/
def int64OfInt? (z : Int) : Option Int64 :=
  if Int64.minValue.toInt ≤ z ∧ z ≤ Int64.maxValue.toInt then some (Int64.ofInt z) else none

theorem exists_toInt_eq_iff : (∃ n : Int64, n.toInt = z) ↔ -2 ^ 63 ≤ z ∧ z ≤ 2 ^ 63 - 1 := by
  constructor
  · intro h
    obtain ⟨n, rfl⟩ := h
    exact ⟨n.minValue_le_toInt, n.toInt_le⟩
  · intro h
    exact ⟨Int64.ofInt z, Int64.toInt_ofInt_of_le h.1 (by omega)⟩

theorem int64OfInt?_eq_some_iff : int64OfInt? z = some n ↔ n.toInt = z := by
  unfold int64OfInt?
  by_cases h : Int64.minValue.toInt ≤ z ∧ z ≤ Int64.maxValue.toInt
  · obtain ⟨m, rfl⟩ := exists_toInt_eq_iff.mpr h
    rw [if_pos h, Int64.ofInt_toInt, Option.some_inj, Int64.toInt_inj, eq_comm]
  · rw [if_neg h]
    have hne : n.toInt ≠ z := fun hn => h (exists_toInt_eq_iff.mp ⟨n, hn⟩)
    simp [hne]

/-- What is read is the number of the numeral: nothing wraps. -/
theorem readInt64_eq_some_iff : readInt64 cs = some n ↔ Numeral cs n.toInt := by
  show (readSigned cs).bind int64OfInt? = some n ↔ _
  simp [Option.bind_eq_some_iff, readSigned_eq_some_iff, int64OfInt?_eq_some_iff]

/-! ### Scanning digit by digit -/

/-- The number with one more digit on its right, unless one of the two steps to it
    leaves 64 bits. -/
def appendDigit? (sign : Int) (n : Int64) (c : Char) : Option Int64 :=
  if Digit c then do
    let tenfold ← int64OfInt? (n.toInt * 10)
    int64OfInt? (tenfold.toInt + sign * digitValue c)
  else none

/-- The number of one or more digits, taken from the left. -/
def scanDigits (sign : Int) (ds : List Char) : Option Int64 :=
  if ds.isEmpty then none else ds.foldlM (appendDigit? sign) 0

/-- The number that a text stands for, by a scan that holds no number of more than
    64 bits. -/
def scanInt64 : List Char → Option Int64
  | '+' :: ds => scanDigits 1 ds
  | '-' :: ds => scanDigits (-1) ds
  | ds => scanDigits 1 ds

section Scan

variable {sign x : Int}

/-- A number that grows away from zero to one of 64 bits has 64 bits itself. The
    range is not symmetric, so each sign has its own end of it. -/
theorem exists_toInt_of_grown (hsign : sign = 1 ∨ sign = -1) (hx : 0 ≤ sign * x) {k v : Nat}
    (hm : m.toInt = x * 10 ^ k + sign * v) : ∃ n : Int64, n.toInt = x := by
  have hbounds := exists_toInt_eq_iff.mp ⟨m, rfl⟩
  have hpow : (1 : Int) ≤ 10 ^ k := Int.pow_pos (by decide)
  rw [exists_toInt_eq_iff]
  rcases hsign with rfl | rfl
  · have hgrow : x * 1 ≤ x * 10 ^ k := Int.mul_le_mul_of_nonneg_left hpow (by omega)
    omega
  · have hgrow : x * 10 ^ k ≤ x * 1 := Int.mul_le_mul_of_nonpos_left (by omega) hpow
    omega

theorem appendDigit?_eq_some_iff (hsign : sign = 1 ∨ sign = -1) (hn : 0 ≤ sign * n.toInt) :
    appendDigit? sign n c = some m ↔ Digit c ∧ m.toInt = n.toInt * 10 + sign * digitValue c := by
  unfold appendDigit?
  by_cases hc : Digit c
  · rw [if_pos hc]
    simp only [Option.bind_eq_bind, Option.bind_eq_some_iff, int64OfInt?_eq_some_iff, hc, true_and]
    constructor
    · intro h
      obtain ⟨tenfold, htenfold, hm⟩ := h
      rw [hm, htenfold]
    · intro hm
      -- ten times the number lies between the number and the result
      have hgrown : m.toInt = n.toInt * 10 * 10 ^ 0 + sign * digitValue c := by
        rw [hm]
        ring
      have htenfold : 0 ≤ sign * (n.toInt * 10) := by
        rw [← Int.mul_assoc]
        omega
      obtain ⟨tenfold, htenfold⟩ := exists_toInt_of_grown hsign htenfold hgrown
      exact ⟨tenfold, htenfold, by rw [hm, htenfold]⟩
  · rw [if_neg hc]
    simp [hc]

theorem foldlM_appendDigit?_eq_some_iff (hsign : sign = 1 ∨ sign = -1)
    (hn : 0 ≤ sign * n.toInt) :
    ds.foldlM (appendDigit? sign) n = some m ↔
      (∀ c ∈ ds, Digit c) ∧ m.toInt = n.toInt * 10 ^ ds.length + sign * placeValue ds := by
  induction ds generalizing n with
  | nil =>
    simp [placeValue, ← Int64.toInt_inj, eq_comm]
  | cons c ds ih =>
    have hplaces : ∀ y : Int, (y * 10 + sign * digitValue c) * 10 ^ ds.length +
        sign * placeValue ds = y * 10 ^ (ds.length + 1) + sign * placeValue (c :: ds) := by
      intro y
      rw [placeValue]
      push_cast
      ring
    -- one more digit leaves the sign as it is
    have hkept : ∀ n' : Int64, n'.toInt = n.toInt * 10 + sign * digitValue c →
        0 ≤ sign * n'.toInt := by
      intro n' hn'
      rw [hn']
      rcases hsign with rfl | rfl <;> omega
    rw [List.foldlM_cons, Option.bind_eq_bind, Option.bind_eq_some_iff, List.forall_mem_cons,
      List.length_cons]
    constructor
    · intro h
      obtain ⟨n', hn', hm⟩ := h
      obtain ⟨hc, hn'⟩ := (appendDigit?_eq_some_iff hsign hn).mp hn'
      obtain ⟨hds, hm⟩ := (ih (hkept n' hn')).mp hm
      refine ⟨⟨hc, hds⟩, ?_⟩
      rw [hm, hn', hplaces]
    · intro h
      obtain ⟨⟨hc, hds⟩, hm⟩ := h
      rw [← hplaces] at hm
      have hpositive : 0 ≤ sign * (n.toInt * 10 + sign * digitValue c) := by
        rcases hsign with rfl | rfl <;> omega
      obtain ⟨n', hn'⟩ := exists_toInt_of_grown hsign hpositive hm
      refine ⟨n', (appendDigit?_eq_some_iff hsign hn).mpr ⟨hc, hn'⟩, ?_⟩
      rw [ih (hkept n' hn'), hn']
      exact ⟨hds, hm⟩

theorem scanDigits_eq_some_iff (hsign : sign = 1 ∨ sign = -1) :
    scanDigits sign ds = some n ↔ Digits ds ∧ n.toInt = sign * placeValue ds := by
  have hzero : 0 ≤ sign * (0 : Int64).toInt := by simp
  unfold scanDigits
  by_cases h : ds = []
  · simp [h, Digits]
  · rw [if_neg (by simpa using h), foldlM_appendDigit?_eq_some_iff hsign hzero]
    simp [Digits, h]

end Scan

theorem scanInt64_eq_some_iff : scanInt64 cs = some n ↔ Numeral cs n.toInt := by
  unfold scanInt64
  split
  · rw [numeral_plus_iff, scanDigits_eq_some_iff (.inl rfl), Int.one_mul]
  · rw [numeral_minus_iff, scanDigits_eq_some_iff (.inr rfl), Int.neg_one_mul]
  · rename_i hplus hminus
    rw [numeral_unsigned_iff hplus hminus, scanDigits_eq_some_iff (.inl rfl), Int.one_mul]

/-- Reading the whole numeral and then looking whether it fits is scanning it digit
    by digit in 64 bits. -/
theorem readInt64_eq_scan (cs : List Char) : readInt64 cs = scanInt64 cs := by
  apply Option.ext
  intro n
  rw [readInt64_eq_some_iff, scanInt64_eq_some_iff]

/-! ### The word for a true flag -/

theorem toLower_eq_iff {a : Char} (ha : a.isLower = true) (c : Char) :
    c.toLower = a ↔ EitherCase c a := by
  have hbounds := toNat_bounds ha
  rw [eitherCase_iff ha, ← Char.toNat_inj]
  unfold Char.toLower
  split
  case isTrue h =>
    have hcapital : 65 ≤ c.toNat ∧ c.toNat ≤ 90 := h
    show (c.val + 32).toNat = a.toNat ↔ _
    rw [UInt32.toNat_add]
    show (c.toNat + 32) % 2 ^ 32 = a.toNat ↔ _
    omega
  case isFalse h =>
    have hcapital : ¬(65 ≤ c.toNat ∧ c.toNat ≤ 90) := h
    omega

theorem map_toLower_eq_iff {word : List Char} (h : ∀ a ∈ word, a.isLower = true) :
    cs.map Char.toLower = word ↔ List.Forall₂ EitherCase cs word := by
  induction word generalizing cs with
  | nil => simp
  | cons a word ih =>
    obtain ⟨ha, hword⟩ := List.forall_mem_cons.mp h
    cases cs with
    | nil => simp
    | cons c cs =>
      rw [List.map_cons, List.cons_eq_cons, List.forall₂_cons, toLower_eq_iff ha, ih hword]

/-- A word in small letters is matched letter by letter, each in either case. -/
theorem sameUpToCase_iff_forall₂ {s word : String} (h : ∀ a ∈ word.toList, a.isLower = true) :
    sameUpToCase s word = true ↔ List.Forall₂ EitherCase s.toList word.toList := by
  have hword : asciiLower word = word.toList := by
    have hself : List.Forall₂ EitherCase word.toList word.toList :=
      List.forall₂_same.mpr fun a _ => .inl rfl
    exact (map_toLower_eq_iff h).mpr hself
  rw [sameUpToCase_iff, hword]
  exact map_toLower_eq_iff h

end Text

/-! ### Text cells -/

namespace Cell

/-- What a text cell reads as, told by what is left of its text without the white
    space at the ends. -/
structure ReadsExactly (s : String) (t : List Char) : Prop where
  trimmed : Text.Trimmed s.toList t
  /-- The cell reads as the number that the text is a numeral of. -/
  number : ∀ n : Int64, (text s).int64? = some n ↔
    ∃ z, Text.Numeral t z ∧ -2 ^ 63 ≤ z ∧ z ≤ 2 ^ 63 - 1 ∧ n.toInt = z
  /-- No number is read if the text is no numeral, or one of a number beyond 64 bits. -/
  no_number : (text s).int64? = none ↔ ∀ z, Text.Numeral t z → z < -2 ^ 63 ∨ 2 ^ 63 - 1 < z
  /-- No number beyond 64 bits need be held on the way. -/
  scanned : (text s).int64? = Text.scanInt64 t
  flag : (text s).flag = true ↔ List.Forall₂ Text.EitherCase t "true".toList ∨
    ∃ n : Int64, (text s).int64? = some n ∧ n ≠ 0

/-- **Numerals.** Take any text cell, and its text without the white space at the
    ends. The cell reads as a number exactly if this text is a numeral of it, so
    that a numeral of a number beyond 64 bits reads as none at all, and so does
    every text that is not a numeral. A scan that holds no number of more than 64
    bits finds the same one. The cell is a true flag exactly if the text is the word
    for it, in letters of either case, or a numeral of a number that is not zero. -/
theorem text_numerals_read_exactly (s : String) : ReadsExactly s (Text.trim s.toList) := by
  have hread : ∀ n, (text s).int64? = some n ↔ Text.Numeral (Text.trim s.toList) n.toInt :=
    fun n => Text.readInt64_eq_some_iff
  constructor
  case trimmed => exact Text.trimmed_trim _
  case scanned => exact Text.readInt64_eq_scan _
  case number =>
    intro n
    rw [hread]
    constructor
    · intro h
      obtain ⟨hlo, hhi⟩ := Text.exists_toInt_eq_iff.mp ⟨n, rfl⟩
      exact ⟨n.toInt, h, hlo, hhi, rfl⟩
    · intro h
      obtain ⟨z, hz, _, _, hn⟩ := h
      rwa [hn]
  case no_number =>
    rw [Option.eq_none_iff_forall_ne_some]
    constructor
    · intro h z hz
      by_contra hbounds
      obtain ⟨n, hn⟩ := Text.exists_toInt_eq_iff.mpr (by omega : -2 ^ 63 ≤ z ∧ z ≤ 2 ^ 63 - 1)
      rw [← hn] at hz
      exact h n ((hread n).mpr hz)
    · intro h n hn
      obtain ⟨hlo, hhi⟩ := Text.exists_toInt_eq_iff.mp ⟨n, rfl⟩
      have hout := h n.toInt ((hread n).mp hn)
      omega
  case flag =>
    have hword : ∀ a ∈ "true".toList, a.isLower = true := List.all_eq_true.mp (by decide)
    rw [Cell.flag, Bool.or_eq_true, Text.sameUpToCase_iff_forall₂ hword, String.toList_ofList,
      Option.any_eq_true]
    simp only [bne_iff_ne]

/-- Leading zeros and the ends of the range are no matter of length; what is not a
    numeral of 64 bits is no number. -/
example :
    ["\u00a0-009223372036854775808 ", "+0009223372036854775807"].map (fun s => (text s).int64?) =
        [some Int64.minValue, some Int64.maxValue] ∧
      ["", "-", "+-1", "1 2", "\u0661", "9223372036854775808", "-9223372036854775809"].all
        (fun s => (text s).int64? = none) = true := by
  decide +kernel

end Cell

end Schemata
