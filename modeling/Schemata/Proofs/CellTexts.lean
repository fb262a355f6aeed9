import Schemata.Proofs.ListingRows

/-! # Cells as texts

    Drivers give a number or a truth value as such or as text, and pad the
    text as they like. It makes no difference: a text cell that shows another
    cell, with any white space around it, reads as the same number and as the
    same flag.

    - White space at the ends is trimmed away, whatever stands in between
      (`Text.trim_padded`).
    - The decimal form of a number of 64 bits is read back as this number, also
      at either end of the range (`Text.readInt64_decimal`), and it is not the
      word for a true flag.
    - `NULL`, `true` and `false` are no numbers. -/

namespace Schemata

namespace Text

variable {cs p q : List Char} {c : Char}

/-! ### White space -/

theorem trimStart_padded (hp : allBlank p = true) (cs : List Char) :
    trimStart (p ++ cs) = trimStart cs :=
  List.dropWhile_append_of_pos (List.all_eq_true.mp hp)

theorem trim_append (hq : allBlank q = true) (cs : List Char) : trim (cs ++ q) = trim cs := by
  by_cases hblank : allBlank cs = true
  · have hall : allBlank (cs ++ q) = true := by
      rw [allBlank, List.all_append, Bool.and_eq_true]
      exact ⟨hblank, hq⟩
    rw [trim_eq_nil_iff.mpr hall, trim_eq_nil_iff.mpr hblank]
  · -- the text does not end before the padding starts
    have hstart : trimStart (cs ++ q) = trimStart cs ++ q := by
      have hne : trimStart cs ≠ [] := fun h => hblank (trimStart_eq_nil_iff.mp h)
      unfold trimStart at hne ⊢
      rw [List.dropWhile_append, if_neg]
      rwa [List.isEmpty_iff]
    have hq' : allBlank q.reverse = true := by
      rwa [allBlank_reverse]
    rw [trim, hstart, List.reverse_append, trimStart_padded hq', trim]

/-- White space around a text is trimmed away, whatever the text is. -/
theorem trim_padded (hp : allBlank p = true) (hq : allBlank q = true) (cs : List Char) :
    trim (p ++ cs ++ q) = trim cs := by
  rw [trim_append hq, trim, trimStart_padded hp, trim]

theorem trimStart_of_not_blank (h : ∀ c ∈ cs, isBlank c = false) : trimStart cs = cs := by
  cases cs with
  | nil => rfl
  | cons c cs =>
    have hc : isBlank c = false := h c List.mem_cons_self
    exact List.dropWhile_cons_of_neg (by simp [hc])

theorem trim_of_not_blank (h : ∀ c ∈ cs, isBlank c = false) : trim cs = cs := by
  have hreverse : ∀ c ∈ cs.reverse, isBlank c = false :=
    fun c hc => h c (List.mem_reverse.mp hc)
  rw [trim, trimStart_of_not_blank h, trimStart_of_not_blank hreverse, List.reverse_reverse]

/-! ### Decimal forms -/

/-- Digits are neither white space nor letters. -/
theorem not_blank_of_isDigit (h : c.isDigit = true) : isBlank c = false ∧ c.toLower = c := by
  have hbounds : 48 ≤ c.toNat ∧ c.toNat ≤ 57 := Char.isDigit_iff_toNat.mp h
  constructor
  · simp only [isBlank, Bool.or_eq_false_iff, Bool.and_eq_false_iff, decide_eq_false_iff_not,
      beq_eq_false_iff_ne]
    omega
  · apply dif_neg
    intro hupper
    have hle : 65 ≤ c.toNat := hupper.1
    omega

/-- A decimal form has digits and a minus sign only. -/
theorem mem_decimal {n : Int} (h : c ∈ decimal n) : c.isDigit = true ∨ c = '-' := by
  have hdigit : ∀ m, c ∈ Nat.toDigits 10 m → c.isDigit = true :=
    fun m => Nat.isDigit_of_mem_toDigits (by decide) (by decide)
  cases n with
  | ofNat m => exact .inl (hdigit m h)
  | negSucc m =>
    rcases List.mem_cons.mp h with rfl | hm
    · exact .inr rfl
    · exact .inl (hdigit _ hm)

theorem readDigits_toDigits (n : Nat) : readDigits (Nat.toDigits 10 n) = some n := by
  have hall : (Nat.toDigits 10 n).all Char.isDigit = true :=
    List.all_eq_true.mpr fun c hc => Nat.isDigit_of_mem_toDigits (by decide) (by decide) hc
  have hne : (Nat.toDigits 10 n).isEmpty = false := by
    simp [Nat.toDigits_ne_nil]
  rw [readDigits, hall, hne, Nat.ofDigitChars_toDigits (by decide) (by decide)]
  rfl

/-- Digits have no sign. -/
theorem readSigned_of_isDigit (h : ∀ c ∈ cs, c.isDigit = true) :
    readSigned cs = (readDigits cs).map Int.ofNat := by
  unfold readSigned
  split
  · exact absurd (h '+' List.mem_cons_self) (by decide)
  · exact absurd (h '-' List.mem_cons_self) (by decide)
  · rfl

theorem readSigned_decimal (n : Int) : readSigned (decimal n) = some n := by
  cases n with
  | ofNat m =>
    have hdigits : ∀ c ∈ Nat.toDigits 10 m, c.isDigit = true :=
      fun c hc => Nat.isDigit_of_mem_toDigits (by decide) (by decide) hc
    rw [decimal, readSigned_of_isDigit hdigits, readDigits_toDigits]
    rfl
  | negSucc m =>
    rw [decimal, readSigned, readDigits_toDigits]
    rfl

/-- A number of 64 bits is read back from its decimal form, the least one too,
    whose magnitude is no such number. -/
theorem readInt64_decimal (n : Int64) : readInt64 (decimal n.toInt) = some n := by
  rw [readInt64, readSigned_decimal, Option.bind_some,
    if_pos ⟨n.minValue_le_toInt, n.toInt_le⟩, Int64.ofInt_toInt]

theorem trim_decimal (n : Int) : trim (decimal n) = decimal n := by
  apply trim_of_not_blank
  intro c hc
  rcases mem_decimal hc with hdigit | rfl
  · exact (not_blank_of_isDigit hdigit).1
  · decide

/-- A decimal form is not the word for a true flag: there is no letter in it. -/
theorem not_sameUpToCase_decimal (n : Int) :
    sameUpToCase (String.ofList (decimal n)) "true" = false := by
  rw [Bool.eq_false_iff]
  intro hsame
  have hletters : (decimal n).map Char.toLower = ['t', 'r', 'u', 'e'] := by
    simpa [asciiLower] using sameUpToCase_iff.mp hsame
  obtain ⟨c, hc, ht⟩ := List.mem_map.mp (hletters ▸ List.mem_cons_self)
  rcases mem_decimal hc with hdigit | rfl
  · rw [(not_blank_of_isDigit hdigit).2] at ht
    subst ht
    exact absurd hdigit (by decide)
  · exact absurd ht (by decide)

end Text

/-! ### Cells -/

namespace Cell

variable {c c' : Cell} {s s' : String}

/-- What a text cell reads as is a matter of its trimmed text. -/
theorem readings_eq_of_trim (h : Text.trim s.toList = Text.trim s'.toList) :
    (text s).int64? = (text s').int64? ∧ (text s).flag = (text s').flag := by
  have hint : (text s).int64? = (text s').int64? := by
    rw [int64?, int64?, h]
  refine ⟨hint, ?_⟩
  rw [flag, flag, h, hint]

/-- The decimal form of a number reads as this number. -/
theorem readings_decimal (n : Int64) :
    (text (String.ofList (Text.decimal n.toInt))).int64? = some n ∧
      (text (String.ofList (Text.decimal n.toInt))).flag = (n != 0) := by
  have hint : (text (String.ofList (Text.decimal n.toInt))).int64? = some n := by
    rw [int64?, String.toList_ofList, Text.trim_decimal, Text.readInt64_decimal]
  refine ⟨hint, ?_⟩
  rw [flag, hint, String.toList_ofList, Text.trim_decimal, Text.not_sameUpToCase_decimal,
    Bool.false_or, Option.any_some]

/-- The text that a cell shows reads like the cell. -/
theorem readings_display (c : Cell) :
    (text c.display).int64? = c.int64? ∧ (text c.display).flag = c.flag := by
  cases c with
  | null => decide
  | bool b => cases b <;> decide
  | int16 n =>
    have h := readings_decimal n.toInt64
    rwa [Int16.toInt_toInt64] at h
  | int32 n =>
    have h := readings_decimal n.toInt64
    rwa [Int32.toInt_toInt64] at h
  | int64 n => exact readings_decimal n
  | text s => exact ⟨rfl, rfl⟩

/-- The second cell is a text: that of the first one between two texts of white
    space. -/
def PaddedText (c c' : Cell) : Prop :=
  ∃ p q : String, Text.allBlank p.toList = true ∧ Text.allBlank q.toList = true ∧
    c' = text (p ++ c.display ++ q)

theorem PaddedText.readings_eq (h : c.PaddedText c') :
    c'.int64? = c.int64? ∧ c'.flag = c.flag := by
  obtain ⟨p, q, hp, hq, rfl⟩ := h
  have htrim : Text.trim (p ++ c.display ++ q).toList = Text.trim c.display.toList := by
    rw [String.toList_append, String.toList_append, Text.trim_padded hp hq]
  obtain ⟨hint, hflag⟩ := readings_eq_of_trim htrim
  obtain ⟨hint', hflag'⟩ := readings_display c
  exact ⟨hint.trans hint', hflag.trans hflag'⟩

end Cell

/-! ### Rows -/

/-- The second row is the first one, but a padded text may have taken the place
    of the cell at the position. -/
def Row.PaddedAt (i : Nat) (row row' : Row) : Prop :=
  row' = row ∨ ∃ c c', row[i]? = some c ∧ c.PaddedText c' ∧ row' = row.set i c'

/-- A scan for the last flag takes both rows alike, the name being in another
    cell. -/
theorem Row.PaddedAt.overwrite_eq {flag name : Nat} {row row' : Row}
    (h : Row.PaddedAt flag row row') (hne : flag ≠ name) (found : SchemaName) :
    Row.overwrite flag name found row' = Row.overwrite flag name found row := by
  rcases h with rfl | ⟨c, c', hc, htext, rfl⟩
  · rfl
  obtain ⟨hflag, _⟩ := List.getElem?_eq_some_iff.mp hc
  have hc' : (row.set flag c')[flag]? = some c' := List.getElem?_set_self hflag
  have hname : Row.cellName (row.set flag c') name = Row.cellName row name := by
    unfold Row.cellName
    rw [List.getElem?_set_ne hne]
  rw [Row.overwrite, Row.overwrite, hc', hc]
  simp only [hname, htext.readings_eq.2]

theorem Row.foldl_overwrite_of_padded {flag name : Nat} {rows rows' : List Row}
    (h : List.Forall₂ (Row.PaddedAt flag) rows rows') (hne : flag ≠ name) (found : SchemaName) :
    rows'.foldl (Row.overwrite flag name) found = rows.foldl (Row.overwrite flag name) found := by
  induction h generalizing found with
  | nil => rfl
  | cons hrow _ ih => rw [List.foldl_cons, List.foldl_cons, hrow.overwrite_eq hne, ih]

theorem Listing.flaggedName_of_padded {l : Listing} {flag : Nat} {rows' : List Row}
    (hflag : l.flagColumn? = some flag) (hne : flag ≠ l.nameColumn)
    (h : List.Forall₂ (Row.PaddedAt flag) l.rows rows') :
    flaggedName ⟨l.columns, rows'⟩ = l.flaggedName := by
  have hflag' : flagColumn? ⟨l.columns, rows'⟩ = some flag := hflag
  rw [flaggedName_eq_foldl hflag, flaggedName_eq_foldl hflag']
  exact Row.foldl_overwrite_of_padded h hne .unnamed

/-- **Cells as texts.** Take any cell, and the text that it shows between two
    texts of white space: both read as the same number, if as any, and as the
    same flag. So the flags of a listing may be given as such texts, each row
    for itself, and the listing flags the same schema as before. -/
theorem padded_texts_read_alike :
    (∀ (c : Cell) (p q : String), Text.allBlank p.toList = true → Text.allBlank q.toList = true →
      (Cell.text (p ++ c.display ++ q)).int64? = c.int64? ∧
        (Cell.text (p ++ c.display ++ q)).flag = c.flag) ∧
    ∀ (l : Listing) (flag : Nat) (rows' : List Row),
      l.flagColumn? = some flag → flag ≠ l.nameColumn →
        List.Forall₂ (Row.PaddedAt flag) l.rows rows' →
        Listing.flaggedName ⟨l.columns, rows'⟩ = l.flaggedName := by
  refine ⟨?_, ?_⟩
  · intro c p q hp hq
    have hpadded : c.PaddedText (.text (p ++ c.display ++ q)) := ⟨p, q, hp, hq, rfl⟩
    exact hpadded.readings_eq
  · intro l flag rows' hflag hne h
    exact Listing.flaggedName_of_padded hflag hne h

/-- The least number of 64 bits is a true flag, also as a text with a no-break space
    before it and a line end after it; the flags after it are false as before. -/
theorem padded_texts_of_least_number :
    let l := Listing.ofRows ["TABLE_SCHEM", "IS_DEFAULT"]
      [[.text "a", .int64 Int64.minValue], [.text "b", .bool false], [.text "c", .null], [.text "d"]]
    let rows' : List Row := [[.text "a", .text "\u00a0-9223372036854775808\n"],
      [.text "b", .text "false "], [.text "c", .text "\u3000NULL"], [.text "d"]]
    l.flagColumn? = some 1 ∧ 1 ≠ l.nameColumn ∧ List.Forall₂ (Row.PaddedAt 1) l.rows rows' ∧
      l.flaggedName = .named "a" ∧ Listing.flaggedName ⟨l.columns, rows'⟩ = .named "a" := by
  intro l rows'
  have hflag : l.flagColumn? = some 1 := by decide +kernel
  have hne : 1 ≠ l.nameColumn := by decide +kernel
  have hpad : ∀ (n c c' : Cell) (p q : String), Text.allBlank p.toList = true →
      Text.allBlank q.toList = true → c' = .text (p ++ c.display ++ q) →
      Row.PaddedAt 1 [n, c] [n, c'] :=
    fun _ c c' p q hp hq hc' => .inr ⟨c, c', rfl, ⟨p, q, hp, hq, hc'⟩, rfl⟩
  have hpadded : List.Forall₂ (Row.PaddedAt 1) l.rows rows' := by
    refine .cons (hpad _ _ _ "\u00a0" "\n" ?_ ?_ ?_) (.cons (hpad _ _ _ "" " " ?_ ?_ ?_)
      (.cons (hpad _ _ _ "\u3000" "" ?_ ?_ ?_) (.cons (.inl rfl) .nil)))
    all_goals decide +kernel
  have hname : l.flaggedName = .named "a" := by decide +kernel
  exact ⟨hflag, hne, hpadded, hname,
    (padded_texts_read_alike.2 l 1 rows' hflag hne hpadded).trans hname⟩

end Schemata
