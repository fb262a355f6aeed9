import Schemata.Proofs.Provenance

/-! # Delimited identifiers

    A delimited identifier cannot be broken out of: `scan` reads it back
    from the front of any text in which no further quote follows it, and it
    reads nothing else back (`scan_eq_some_iff`). A quote inside the
    identifier, also the first or the last character, is half of a pair, so
    that the first quote that is alone is the closing one.

    Plain H2 delimits every identifier. So what it writes for a schema tells
    the name of the schema. -/

namespace Schemata

namespace Identifier

variable {cs rest : List Char} {c : Char}

/-! ### Scanning -/

@[simp] theorem scanBody_pair (r : List Char) :
    scanBody ('"' :: '"' :: r) = (scanBody r).map fun p => ('"' :: p.1, p.2) := rfl

/-- A quote that no other one follows ends the identifier. -/
theorem scanBody_quote (h : rest.head? ≠ some '"') : scanBody ('"' :: rest) = some ([], rest) := by
  cases rest with
  | nil => rfl
  | cons c r =>
    have hc : c ≠ '"' := by simpa using h
    rw [scanBody.eq_3 _ _ (by rintro r' - ⟨⟩; exact hc rfl), if_pos rfl]

/-- Any other character is one of the identifier. -/
theorem scanBody_of_ne (h : c ≠ '"') (r : List Char) :
    scanBody (c :: r) = (scanBody r).map fun p => (c :: p.1, p.2) := by
  rw [scanBody.eq_3 _ _ (by rintro r' ⟨⟩; exact absurd rfl h), if_neg h]

/-- The rest of the text starts where the quote that was added ends. -/
theorem scanBody_doubled (cs : List Char) (h : rest.head? ≠ some '"') :
    scanBody (doubled cs ++ '"' :: rest) = some (cs, rest) := by
  induction cs with
  | nil => exact scanBody_quote h
  | cons c cs ih =>
    by_cases hc : c = '"'
    · subst hc
      show scanBody ('"' :: '"' :: (doubled cs ++ '"' :: rest)) = _
      rw [scanBody_pair, ih]
      rfl
    · rw [doubled_cons, if_neg hc, List.singleton_append, List.cons_append, scanBody_of_ne hc, ih]
      rfl

/-- Nothing else is read back. -/
theorem eq_doubled_of_scanBody {text : List Char} (h : scanBody text = some (cs, rest)) :
    text = doubled cs ++ '"' :: rest ∧ rest.head? ≠ some '"' := by
  induction text using scanBody.induct generalizing cs with
  | case1 => cases h
  | case2 r ih =>
    rw [scanBody_pair, Option.map_eq_some_iff] at h
    obtain ⟨⟨cs', rest'⟩, hr, ⟨⟩⟩ := h
    obtain ⟨rfl, hrest⟩ := ih hr
    exact ⟨by simp, hrest⟩
  | case3 r hpair =>
    -- the closing quote: no other one follows, or this would be a pair
    have hrest : r.head? ≠ some '"' := by
      intro hquote
      obtain ⟨r', rfl⟩ := List.head?_eq_some_iff.mp hquote
      exact hpair r' rfl rfl
    rw [scanBody_quote hrest] at h
    cases h
    exact ⟨rfl, hrest⟩
  | case4 c r hpair hc ih =>
    rw [scanBody_of_ne hc, Option.map_eq_some_iff] at h
    obtain ⟨⟨cs', rest'⟩, hr, ⟨⟩⟩ := h
    obtain ⟨rfl, hrest⟩ := ih hr
    exact ⟨by simp [hc], hrest⟩

/-- Scanning reads a delimited identifier back and leaves what follows it, and
    it accepts no other text. -/
theorem scan_eq_some_iff {text : List Char} {s : String} :
    scan text = some (s.toList, rest) ↔
      text = (delimited s).toList ++ rest ∧ rest.head? ≠ some '"' := by
  have htext : (delimited s).toList ++ rest = '"' :: (doubled s.toList ++ '"' :: rest) := by
    simp
  rw [htext]
  constructor
  · intro h
    unfold scan at h
    split at h
    · obtain ⟨rfl, hrest⟩ := eq_doubled_of_scanBody h
      exact ⟨rfl, hrest⟩
    · cases h
  · rintro ⟨rfl, hrest⟩
    exact scanBody_doubled s.toList hrest

theorem delimited_injective : Function.Injective delimited := by
  intro s s' h
  have hscan : scan (delimited s).toList = some (s.toList, []) :=
    scan_eq_some_iff.mpr ⟨by simp, by simp⟩
  have hscan' : scan (delimited s').toList = some (s'.toList, []) :=
    scan_eq_some_iff.mpr ⟨by simp, by simp⟩
  rw [h, hscan'] at hscan
  simpa [String.toList_inj] using hscan.symm

end Identifier

/-! ### Plain H2 -/

/-- On plain H2 the quoted name tells the name. -/
theorem Contents.WellFormed.name_eq_of_quotedName_eq {p : Profile} {cfg : Config} {c : Contents}
    (h : c.WellFormed p cfg) (hdialect : c.facts.dialect = .h2)
    (hmode : c.facts.mysqlMode = false) {r r' : SchemaRecord} (hr : r ∈ c.catalog.schemas)
    (hr' : r' ∈ c.catalog.schemas) (hquoted : r.quotedName = r'.quotedName) :
    r.name = r'.name := by
  rw [h.quoted r hr, h.quoted r' hr', Facts.quote_of_plainH2 hdialect hmode] at hquoted
  have htext : r.name.text? = r'.name.text? :=
    Option.map_injective Identifier.delimited_injective hquoted
  rw [← SchemaName.ofText?_text? r.name, htext, SchemaName.ofText?_text?]

/-! ### The main result -/

/-- **Delimited identifiers.** A text scans as an identifier and a rest exactly
    if it is the delimited identifier, followed by the rest, and the rest does
    not begin with a quote. So different identifiers are never delimited
    alike; what plain H2 facts write for an identifier scans back as this
    identifier; and of the schemas in a plain H2 snapshot, which any session
    returns, shows or publishes, two have the same quoted name only if they
    have the same name. -/
theorem delimited_identifiers_scan_back :
    (∀ (text : List Char) (s : String) (rest : List Char),
      Identifier.scan text = some (s.toList, rest) ↔
        text = (Identifier.delimited s).toList ++ rest ∧ rest.head? ≠ some '"') ∧
    Function.Injective Identifier.delimited ∧
    (∀ f : Facts, f.dialect = .h2 → f.mysqlMode = false →
      ∀ (s : String) (rest : List Char), rest.head? ≠ some '"' →
        Identifier.scan ((f.quote s).toList ++ rest) = some (s.toList, rest)) ∧
    ∀ (cfg : Config) (sources : List Source) (xs : List Step) (snap : Snapshot),
      let s : Session := { config := cfg, sources := sources }
      ((∃ a ∈ (s.run xs).1, snap ∈ a.snapshots) ∨ (s.run xs).2.published = some snap) →
      snap.contents.facts.dialect = .h2 → snap.contents.facts.mysqlMode = false →
      ∀ r ∈ snap.contents.catalog.schemas, ∀ r' ∈ snap.contents.catalog.schemas,
        r.quotedName = r'.quotedName → r.name = r'.name := by
  refine ⟨fun text s rest => Identifier.scan_eq_some_iff, Identifier.delimited_injective, ?_, ?_⟩
  · intro f hdialect hmode s rest hrest
    rw [Facts.quote_of_plainH2 hdialect hmode]
    exact Identifier.scan_eq_some_iff.mpr ⟨rfl, hrest⟩
  · intro cfg sources xs snap s hshown hdialect hmode r hr r' hr' hquoted
    rcases Session.reads_of_shown hshown with ⟨src, hread⟩ | hnone
    · exact (Session.wellFormed_of_reads hread).name_eq_of_quotedName_eq hdialect hmode hr hr'
        hquoted
    · cases hnone

/-- Quotes at both ends and side by side, before a text that goes on. -/
example : Identifier.scan ((Identifier.delimited "\"a\"\"b\"").toList ++ ".x".toList) =
    some ("\"a\"\"b\"".toList, ".x".toList) := by
  decide +kernel

end Schemata
