import Schemata.Proofs.Marking

/-! # The order of a catalog

    Which schema is marked depends on the order of the catalog, but its name
    hardly does. A name is **eligible** if it is the wanted one or, where
    that is not listed, `dbo` or, where there is none either, one of the
    shortest. This says nothing of an order, and it is all that the order
    leaves open: the default has an eligible name (`eligible_of_chosenAt`),
    and every eligible name is that of the default in some order
    (`exists_order_of_eligible`). So the name of the default is open exactly
    where two names are **tied**. -/

namespace Schemata

namespace Catalog

/-! ### Eligible names -/

/-- The name is listed, and none that is listed has fewer characters. -/
def Shortest (names : List SchemaName) (m : SchemaName) : Prop :=
  m ∈ names ∧ ∀ k ∈ names, m.charCount ≤ k.charCount

/-- The default can have this name if the wanted one is `n`. -/
def Eligible (names : List SchemaName) (n : String) (m : SchemaName) : Prop :=
  m ∈ names ∧
    (m = .named n ∨ .named n ∉ names ∧ (m = .named "dbo" ∨
      .named "dbo" ∉ names ∧ Shortest names m))

/-- The order decides the name of the default: the wanted name is not listed,
    `dbo` is not either, and two different names are both the shortest. -/
structure Tied (names : List SchemaName) (n : String) : Prop where
  unlisted : .named n ∉ names
  no_dbo : .named "dbo" ∉ names
  two_shortest : ∃ a b, a ≠ b ∧ Shortest names a ∧ Shortest names b

variable {names names' : List SchemaName} {n : String} {a b m : SchemaName}

/-- All shortest names are of one length. -/
theorem Shortest.charCount_eq (ha : Shortest names a) (hb : Shortest names b) :
    a.charCount = b.charCount := by
  have hab := ha.2 b hb.1
  have hba := hb.2 a ha.1
  omega

theorem Shortest.of_perm (hperm : names'.Perm names) (h : Shortest names m) :
    Shortest names' m := by
  refine ⟨hperm.mem_iff.mpr h.1, ?_⟩
  intro k hk
  exact h.2 k (hperm.mem_iff.mp hk)

/-- The order of the names does not count. -/
theorem Eligible.of_perm (hperm : names'.Perm names) (h : Eligible names n m) :
    Eligible names' n m := by
  obtain ⟨hm, hcase⟩ := h
  refine ⟨hperm.mem_iff.mpr hm, ?_⟩
  rw [hperm.mem_iff, hperm.mem_iff]
  rcases hcase with hwanted | ⟨hn, hdbo | ⟨hno, hshortest⟩⟩
  · exact .inl hwanted
  · exact .inr ⟨hn, .inl hdbo⟩
  · exact .inr ⟨hn, .inr ⟨hno, hshortest.of_perm hperm⟩⟩

/-- There is one eligible name unless there is a tie. -/
theorem Eligible.eq_or_tied (ha : Eligible names n a) (hb : Eligible names n b) :
    a = b ∨ Tied names n := by
  obtain ⟨ha, hacase⟩ := ha
  obtain ⟨hb, hbcase⟩ := hb
  rcases hacase with hawanted | ⟨hn, hacase⟩
  · rcases hbcase with hbwanted | ⟨hn, _⟩
    · exact .inl (hawanted.trans hbwanted.symm)
    · exact absurd (hawanted ▸ ha) hn
  · rcases hbcase with hbwanted | ⟨_, hbcase⟩
    · exact absurd (hbwanted ▸ hb) hn
    · -- the wanted name is not listed
      rcases hacase with hadbo | ⟨hno, hashortest⟩
      · rcases hbcase with hbdbo | ⟨hno, _⟩
        · exact .inl (hadbo.trans hbdbo.symm)
        · exact absurd (hadbo ▸ ha) hno
      · rcases hbcase with hbdbo | ⟨_, hbshortest⟩
        · exact absurd (hbdbo ▸ hb) hno
        · -- and neither is `dbo`
          by_cases hab : a = b
          · exact .inl hab
          · exact .inr ⟨hn, hno, a, b, hab, hashortest, hbshortest⟩

/-- In a tie the eligible names are the shortest ones. -/
theorem Tied.eligible_iff (h : Tied names n) : Eligible names n m ↔ Shortest names m := by
  constructor
  · rintro ⟨hm, hwanted | ⟨_, hdbo | ⟨_, hshortest⟩⟩⟩
    · exact absurd (hwanted ▸ hm) h.unlisted
    · exact absurd (hdbo ▸ hm) h.no_dbo
    · exact hshortest
  · intro hshortest
    exact ⟨hshortest.1, .inr ⟨h.unlisted, .inr ⟨h.no_dbo, hshortest⟩⟩⟩

theorem names_perm {c c' : Catalog} (h : c'.schemas.Perm c.schemas) : c'.names.Perm c.names :=
  h.map SchemaRecord.name

/-! ### The name of the default -/

theorem eligible_of_chosenAt {i : Nat} (hi : ChosenAt names (.named n) i)
    (hm : names[i]? = some m) : Eligible names n m := by
  have hmem : m ∈ names := List.mem_of_getElem? hm
  -- the name at a first position has the property that was looked for
  have hname : ∀ {P : SchemaName → Prop}, FirstAt names P i → P m := by
    rintro P ⟨⟨k, hk, hP⟩, _⟩
    cases hk.symm.trans hm
    exact hP
  refine ⟨hmem, ?_⟩
  rcases hi with hwanted | ⟨hn, hdbo | ⟨hno, hshortest⟩⟩
  · exact .inl (hname hwanted)
  · exact .inr ⟨hn, .inl (hname hdbo)⟩
  · exact .inr ⟨hn, .inr ⟨hno, hmem, hname hshortest⟩⟩

/-- A catalog with schemas has a default after it was marked, and its name is
    the one at the chosen position. -/
theorem exists_default?_mark {c : Catalog} (wanted : SchemaName) (h : c.schemas ≠ []) :
    ∃ r, (c.mark wanted).default? = some r ∧
      c.names[chosenIndex c.names wanted]? = some r.name := by
  have hlt : chosenIndex c.names wanted < (c.mark wanted).schemas.length := by
    rw [length_schemas_mark]
    exact chosenIndex_names_lt wanted h
  obtain ⟨_, hdefault⟩ := defaultIndex?_mark wanted h
  have hget := List.getElem?_eq_getElem hlt
  refine ⟨_, hdefault.trans hget, ?_⟩
  -- the names are those that there were before the catalog was marked
  have hname : (c.mark wanted).names[chosenIndex c.names wanted]? =
      some (c.mark wanted).schemas[chosenIndex c.names wanted].name := by
    show ((c.mark wanted).schemas.map (·.name))[chosenIndex c.names wanted]? = _
    rw [List.getElem?_map, hget, Option.map_some]
  rwa [names_mark] at hname

/-- The default of a marked catalog has an eligible name. -/
theorem exists_eligible_default {c : Catalog} (n : String) (h : c.schemas ≠ []) :
    ∃ r, (c.mark (.named n)).default? = some r ∧ Eligible c.names n r.name := by
  obtain ⟨r, hr, hname⟩ := exists_default?_mark (.named n) h
  exact ⟨r, hr, eligible_of_chosenAt (chosenAt_chosenIndex (.named n) (names_ne_nil h)) hname⟩

/-- An eligible name that stands first is chosen. -/
theorem chosenIndex_cons_of_eligible {rest : List SchemaName} (h : Eligible (m :: rest) n m) :
    chosenIndex (m :: rest) (.named n) = 0 := by
  obtain ⟨_, hwanted | ⟨hn, hdbo | ⟨hno, _, hshortest⟩⟩⟩ := h
  · subst hwanted
    simp [chosenIndex, List.findIdx?_cons]
  · show ((m :: rest).findIdx? (· = .named n)).getD (substituteIndex (m :: rest)) = 0
    rw [getD_findIdx?_of_not_mem hn, substituteIndex, hdbo]
    simp [conventionalName, List.findIdx?_cons]
  · show ((m :: rest).findIdx? (· = .named n)).getD (substituteIndex (m :: rest)) = 0
    rw [getD_findIdx?_of_not_mem hn, substituteIndex, conventionalName,
      getD_findIdx?_of_not_mem hno, shortestIndex, List.findIdx_cons]
    have hall : ((m :: rest).all fun k => m.charCount ≤ k.charCount) = true := by
      simpa using hshortest
    rw [hall]
    rfl

/-- Every eligible name is that of the default if its schema comes first. -/
theorem exists_order_of_eligible {c : Catalog} (h : Eligible c.names n m) :
    ∃ (c' : Catalog) (r : SchemaRecord), c'.schemas.Perm c.schemas ∧
      (c'.mark (.named n)).default? = some r ∧ r.name = m := by
  obtain ⟨r₀, hr₀, hname⟩ := List.mem_map.mp h.1
  have hperm : (r₀ :: c.schemas.erase r₀).Perm c.schemas := (List.perm_cons_erase hr₀).symm
  let c' : Catalog := ⟨r₀ :: c.schemas.erase r₀⟩
  have hnames : c'.names = m :: (c.schemas.erase r₀).map (·.name) := by
    show r₀.name :: _ = _
    rw [hname]
  have heligible : Eligible c'.names n m := h.of_perm (names_perm hperm)
  obtain ⟨r, hr, hchosen⟩ := exists_default?_mark (c := c') (.named n) (List.cons_ne_nil _ _)
  rw [hnames] at heligible hchosen
  rw [chosenIndex_cons_of_eligible heligible] at hchosen
  refine ⟨c', r, hperm, hr, ?_⟩
  simpa using hchosen.symm

/-! ### The main result -/

/-- **Order.** Whatever the order of a catalog with schemas, marking it for a
    name makes a schema of one and the same name the default, unless two names
    are tied. In a tie the default has one of the shortest names in every
    order, and there is an order in which it has another one. -/
theorem default_independent_of_order {c : Catalog} (h : c.schemas ≠ []) (n : String) :
    ∃ r, (c.mark (.named n)).default? = some r ∧
      (∀ c' : Catalog, c'.schemas.Perm c.schemas →
        ∃ r', (c'.mark (.named n)).default? = some r' ∧
          (¬Tied c.names n → r'.name = r.name) ∧
          (Tied c.names n → Shortest c.names r.name ∧ Shortest c.names r'.name ∧
            r'.name.charCount = r.name.charCount)) ∧
      (Tied c.names n → ∃ (c' : Catalog) (r' : SchemaRecord), c'.schemas.Perm c.schemas ∧
        (c'.mark (.named n)).default? = some r' ∧ r'.name ≠ r.name) := by
  obtain ⟨r, hr, heligible⟩ := exists_eligible_default n h
  refine ⟨r, hr, ?_, ?_⟩
  · intro c' hperm
    have hne : c'.schemas ≠ [] := by
      intro hnil
      rw [hnil, List.nil_perm] at hperm
      exact h hperm
    obtain ⟨r', hr', heligible'⟩ := exists_eligible_default n hne
    have heligible' : Eligible c.names n r'.name :=
      heligible'.of_perm (names_perm hperm.symm)
    refine ⟨r', hr', ?_, ?_⟩
    · intro hnot
      exact (heligible'.eq_or_tied heligible).resolve_right hnot
    · intro htied
      have hshortest := htied.eligible_iff.mp heligible
      have hshortest' := htied.eligible_iff.mp heligible'
      exact ⟨hshortest, hshortest', hshortest'.charCount_eq hshortest⟩
  · intro htied
    obtain ⟨a, b, hab, ha, hb⟩ := htied.two_shortest
    -- one of the two is not the name that the default has
    obtain ⟨m, hm, hne⟩ : ∃ m, Shortest c.names m ∧ m ≠ r.name := by
      by_cases har : a = r.name
      · exact ⟨b, hb, fun hbr => hab (har.trans hbr.symm)⟩
      · exact ⟨a, ha, har⟩
    obtain ⟨c', r', hperm, hr', rfl⟩ := exists_order_of_eligible (htied.eligible_iff.mpr hm)
    exact ⟨c', r', hperm, hr', hne⟩

/-- The absent name and the empty one are tied, whatever was marked before and
    however often each of them is listed. -/
theorem default_of_unnamed_tie :
    let c : Catalog := ⟨[⟨.named "sales", none, true⟩, ⟨.absent, none, false⟩,
      ⟨.named "", some "", true⟩, ⟨.absent, none, true⟩]⟩
    c.schemas ≠ [] ∧ Tied c.names "Dbo" ∧
      ∃ r, (c.mark (.named "Dbo")).default? = some r ∧
        ∃ (c' : Catalog) (r' : SchemaRecord), c'.schemas.Perm c.schemas ∧
          (c'.mark (.named "Dbo")).default? = some r' ∧ r'.name ≠ r.name := by
  intro c
  have hne : c.schemas ≠ [] := List.cons_ne_nil _ _
  have htied : Tied c.names "Dbo" := by
    refine ⟨by decide, by decide, .absent, .named "", by decide, ⟨by decide, ?_⟩, by decide, ?_⟩
    · intro k _
      exact Nat.zero_le _
    · intro k _
      exact Nat.zero_le _
  obtain ⟨r, hr, _, hother⟩ := default_independent_of_order hne "Dbo"
  exact ⟨hne, htied, r, hr, hother htied⟩

end Catalog

end Schemata
