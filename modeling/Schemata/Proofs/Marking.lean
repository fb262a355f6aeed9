import Schemata.Catalog

/-! # Marking the default

    The position that is chosen for a wanted name is one of the catalog, so
    that marking a catalog with schemas leaves exactly one mark, whatever
    marks it had. Names and quoted names stay as they are. Which position it
    is, `FirstAt`, `SubstituteAt` and `ChosenAt` say without a search.

    A marked catalog is made of its `entries` and the wanted name alone
    (`mark_congr`), so that of several markings the last one counts. -/

namespace Schemata

namespace Catalog

/-! ### The chosen position -/

/-- One of the names is at most as long as every other. -/
theorem exists_shortest {names : List SchemaName} (h : names ≠ []) :
    ∃ n ∈ names, ∀ m ∈ names, n.charCount ≤ m.charCount := by
  induction names with
  | nil => exact absurd rfl h
  | cons a as ih =>
    by_cases has : as = []
    · exact ⟨a, by simp, by simp [has]⟩
    · obtain ⟨n, hn, hmin⟩ := ih has
      rcases Nat.le_total a.charCount n.charCount with hle | hle
      · refine ⟨a, by simp, ?_⟩
        intro m hm
        rcases List.mem_cons.mp hm with rfl | hm
        · exact Nat.le_refl _
        · exact Nat.le_trans hle (hmin m hm)
      · refine ⟨n, List.mem_cons_of_mem a hn, ?_⟩
        intro m hm
        rcases List.mem_cons.mp hm with rfl | hm
        · exact hle
        · exact hmin m hm

theorem shortestIndex_lt {names : List SchemaName} (h : names ≠ []) :
    shortestIndex names < names.length := by
  obtain ⟨n, hn, hmin⟩ := exists_shortest h
  unfold shortestIndex
  rw [List.findIdx_lt_length]
  exact ⟨n, hn, by simpa using hmin⟩

/-- A position that was found, or else one of the list, is one of the list. -/
theorem getD_findIdx?_lt {α : Type} {xs : List α} {p : α → Bool} {i : Nat}
    (h : i < xs.length) : (xs.findIdx? p).getD i < xs.length := by
  cases hfound : xs.findIdx? p with
  | none => exact h
  | some j => exact (List.findIdx?_eq_some_iff_getElem.mp hfound).1

theorem substituteIndex_lt {names : List SchemaName} (h : names ≠ []) :
    substituteIndex names < names.length :=
  getD_findIdx?_lt (shortestIndex_lt h)

theorem chosenIndex_lt {names : List SchemaName} (wanted : SchemaName) (h : names ≠ []) :
    chosenIndex names wanted < names.length := by
  cases wanted with
  | absent => exact List.length_pos_iff.mpr h
  | named n => exact getD_findIdx?_lt (substituteIndex_lt h)

theorem names_ne_nil {c : Catalog} (h : c.schemas ≠ []) : c.names ≠ [] := by
  simpa [names] using h

theorem chosenIndex_names_lt {c : Catalog} (wanted : SchemaName) (h : c.schemas ≠ []) :
    chosenIndex c.names wanted < c.schemas.length := by
  simpa [names] using chosenIndex_lt wanted (names_ne_nil h)

/-! ### What is chosen -/

/-- The position is the first one of a name with the property. -/
def FirstAt (names : List SchemaName) (P : SchemaName → Prop) (i : Nat) : Prop :=
  (∃ n, names[i]? = some n ∧ P n) ∧ ∀ j < i, ∀ n, names[j]? = some n → ¬P n

/-- The position is that of the substitute for a name that is not listed: the
    first schema named `dbo` or, where there is none, the first one of those
    with the fewest characters. -/
def SubstituteAt (names : List SchemaName) (i : Nat) : Prop :=
  FirstAt names (· = .named "dbo") i ∨
    .named "dbo" ∉ names ∧ FirstAt names (fun n => ∀ m ∈ names, n.charCount ≤ m.charCount) i

theorem firstAt_findIdx {names : List SchemaName} {P : SchemaName → Prop} [DecidablePred P]
    (h : names.findIdx (P ·) < names.length) : FirstAt names P (names.findIdx (P ·)) := by
  refine ⟨⟨names[names.findIdx (P ·)], List.getElem?_eq_getElem h, ?_⟩, ?_⟩
  · simpa using List.findIdx_getElem (w := h)
  · intro j hj n hn
    obtain ⟨_, rfl⟩ := List.getElem?_eq_some_iff.mp hn
    simpa using List.not_of_lt_findIdx hj

/-- A name that is listed is found where it stands first. -/
theorem firstAt_getD_findIdx? {names : List SchemaName} {n : SchemaName} (h : n ∈ names)
    (i : Nat) : FirstAt names (· = n) ((names.findIdx? (· = n)).getD i) := by
  have hfound : ∃ m ∈ names, decide (m = n) = true := ⟨n, h, by simp⟩
  rw [List.findIdx?_eq_some_of_exists hfound, Option.getD_some]
  exact firstAt_findIdx (List.findIdx_lt_length.mpr hfound)

theorem getD_findIdx?_of_not_mem {names : List SchemaName} {n : SchemaName} (h : n ∉ names)
    (i : Nat) : (names.findIdx? (· = n)).getD i = i := by
  have hnone : names.findIdx? (· = n) = none := by
    rw [List.findIdx?_eq_none_iff]
    rintro m hm
    simp only [decide_eq_false_iff_not]
    rintro rfl
    exact h hm
  rw [hnone, Option.getD_none]

theorem firstAt_shortestIndex {names : List SchemaName} (h : names ≠ []) :
    FirstAt names (fun n => ∀ m ∈ names, n.charCount ≤ m.charCount) (shortestIndex names) := by
  have hlt := shortestIndex_lt h
  have hall : shortestIndex names =
      names.findIdx (fun n => ∀ m ∈ names, n.charCount ≤ m.charCount) := by
    unfold shortestIndex
    congr 1
    funext n
    rw [List.all_eq]
    simp
  rw [hall] at hlt ⊢
  exact firstAt_findIdx hlt

theorem substituteAt_substituteIndex {names : List SchemaName} (h : names ≠ []) :
    SubstituteAt names (substituteIndex names) := by
  unfold substituteIndex conventionalName
  by_cases hdbo : .named "dbo" ∈ names
  · exact .inl (firstAt_getD_findIdx? hdbo _)
  · rw [getD_findIdx?_of_not_mem hdbo]
    exact .inr ⟨hdbo, firstAt_shortestIndex h⟩

theorem firstAt_chosenIndex {names : List SchemaName} {n : String} (h : .named n ∈ names) :
    FirstAt names (· = .named n) (chosenIndex names (.named n)) :=
  firstAt_getD_findIdx? h _

theorem substituteAt_chosenIndex {names : List SchemaName} {n : String} (hne : names ≠ [])
    (h : .named n ∉ names) : SubstituteAt names (chosenIndex names (.named n)) := by
  have hchosen : chosenIndex names (.named n) = substituteIndex names :=
    getD_findIdx?_of_not_mem h _
  rw [hchosen]
  exact substituteAt_substituteIndex hne

/-- The position is the one to mark for a wanted name: the first of all for the
    absent name, otherwise the first one of that name or, where it is not
    listed, that of the substitute. -/
def ChosenAt (names : List SchemaName) : SchemaName → Nat → Prop
  | .absent, i => i = 0
  | .named n, i => FirstAt names (· = .named n) i ∨ .named n ∉ names ∧ SubstituteAt names i

theorem chosenAt_chosenIndex {names : List SchemaName} (wanted : SchemaName) (h : names ≠ []) :
    ChosenAt names wanted (chosenIndex names wanted) := by
  cases wanted with
  | absent => rfl
  | named n =>
    by_cases hn : .named n ∈ names
    · exact .inl (firstAt_chosenIndex hn)
    · exact .inr ⟨hn, substituteAt_chosenIndex h hn⟩

/-- The shortest names there are: the absent one and the empty one. -/
theorem charCount_eq_zero_iff {n : SchemaName} :
    n.charCount = 0 ↔ n = .absent ∨ n = .unnamed := by
  cases n with
  | absent => simp [SchemaName.charCount]
  | named s => simp [SchemaName.charCount, SchemaName.unnamed]

/-! ### The marks -/

theorem countP_isDefault_mapIdx (rs : List SchemaRecord) (i : Nat) :
    (rs.mapIdx fun j r => { r with isDefault := j == i }).countP (·.isDefault) =
      if i < rs.length then 1 else 0 := by
  induction rs generalizing i with
  | nil => simp
  | cons r rs ih =>
    cases i with
    | zero =>
      have hrest : (rs.mapIdx fun j r => { r with isDefault := j + 1 == 0 }).countP
          (·.isDefault) = 0 := by
        rw [List.countP_eq_zero]
        intro r' hr'
        obtain ⟨j, hj, rfl⟩ := List.mem_mapIdx.mp hr'
        simp
      simpa [List.mapIdx_cons] using hrest
    | succ i => simp [List.mapIdx_cons, ih]

@[simp] theorem schemas_mark_eq_nil_iff (c : Catalog) (wanted : SchemaName) :
    (c.mark wanted).schemas = [] ↔ c.schemas = [] := by
  rw [← List.length_eq_zero_iff, length_schemas_mark, List.length_eq_zero_iff]

/-- A catalog with schemas has one mark after it was marked, one without has
    none. -/
theorem countP_isDefault_mark (c : Catalog) (wanted : SchemaName) :
    (c.mark wanted).schemas.countP (·.isDefault) = if c.schemas = [] then 0 else 1 := by
  unfold mark markAt
  rw [countP_isDefault_mapIdx]
  by_cases h : c.schemas = []
  · simp [h]
  · rw [if_neg h, if_pos (chosenIndex_names_lt wanted h)]

/-- The mark is at the chosen position, and the schema there is the default. -/
theorem defaultIndex?_mark {c : Catalog} (wanted : SchemaName) (h : c.schemas ≠ []) :
    (c.mark wanted).defaultIndex? = some (chosenIndex c.names wanted) ∧
      (c.mark wanted).default? = (c.mark wanted).schemas[chosenIndex c.names wanted]? := by
  have hlt : chosenIndex c.names wanted < (c.mark wanted).schemas.length := by
    rw [length_schemas_mark]
    exact chosenIndex_names_lt wanted h
  have hindex : (c.mark wanted).defaultIndex? = some (chosenIndex c.names wanted) := by
    unfold defaultIndex?
    rw [List.findIdx?_eq_some_iff_getElem]
    refine ⟨hlt, by simp [mark, markAt], ?_⟩
    intro j hj
    simp [mark, markAt, Nat.ne_of_lt hj]
  refine ⟨hindex, ?_⟩
  unfold defaultIndex? at hindex
  rw [default?, List.find?_eq_bind_findIdx?_getElem?, hindex, Option.bind_some]

/-- A catalog of one schema has only that one to mark, whatever name is wanted. -/
theorem mark_singleton (r : SchemaRecord) (wanted : SchemaName) :
    mark ⟨[r]⟩ wanted = ⟨[{ r with isDefault := true }]⟩ := by
  have hlt : chosenIndex (names ⟨[r]⟩) wanted < 1 :=
    chosenIndex_names_lt wanted (List.cons_ne_nil r [])
  have hzero : chosenIndex (names ⟨[r]⟩) wanted = 0 := Nat.lt_one_iff.mp hlt
  rw [mark, hzero]
  rfl

theorem mark_eq_of_length_le_one {c : Catalog} (h : c.schemas.length ≤ 1)
    (wanted wanted' : SchemaName) : c.mark wanted = c.mark wanted' := by
  match c with
  | ⟨[]⟩ => rw [mark_nil, mark_nil]
  | ⟨[r]⟩ => rw [mark_singleton, mark_singleton]
  | ⟨_ :: _ :: rs⟩ => exact absurd h (by simp)

/-- Marking changes the marks of the records and nothing else. -/
theorem exists_mem_of_mem_mark {c : Catalog} {wanted : SchemaName} {r : SchemaRecord}
    (h : r ∈ (c.mark wanted).schemas) : ∃ b, ∃ r₀ ∈ c.schemas, r = { r₀ with isDefault := b } := by
  obtain ⟨j, hj, rfl⟩ := List.mem_mapIdx.mp h
  exact ⟨_, c.schemas[j], List.getElem_mem hj, rfl⟩

/-! ### Marking again -/

/-- The records of a catalog in order, but for their marks. -/
def entries (c : Catalog) : List (SchemaName × Option String) :=
  c.schemas.map fun r => (r.name, r.quotedName)

theorem names_eq_of_entries_eq {c c' : Catalog} (h : c.entries = c'.entries) :
    c.names = c'.names := by
  have hnames : ∀ c : Catalog, c.names = c.entries.map (·.1) := by
    intro c
    simp [names, entries, Function.comp_def]
  rw [hnames, hnames, h]

@[simp] theorem entries_markAt (c : Catalog) (i : Nat) : (c.markAt i).entries = c.entries := by
  apply List.ext_getElem?
  intro j
  simp [entries, markAt, List.getElem?_mapIdx, Option.map_map, Function.comp_def]

@[simp] theorem entries_mark (c : Catalog) (wanted : SchemaName) :
    (c.mark wanted).entries = c.entries :=
  entries_markAt ..

/-- A marked catalog is made of the entries and the position of the mark. -/
theorem schemas_markAt (c : Catalog) (i : Nat) :
    (c.markAt i).schemas = c.entries.mapIdx fun j e => ⟨e.1, e.2, j == i⟩ := by
  unfold markAt entries
  apply List.ext_getElem?
  intro j
  simp [List.getElem?_mapIdx, Option.map_map, Function.comp_def]

/-- Marks made before have no influence. -/
theorem mark_congr {c c' : Catalog} (h : c.entries = c'.entries) (wanted : SchemaName) :
    c.mark wanted = c'.mark wanted := by
  have hschemas : (c.mark wanted).schemas = (c'.mark wanted).schemas := by
    rw [mark, mark, schemas_markAt, schemas_markAt, names_eq_of_entries_eq h, h]
  exact congrArg Catalog.mk hschemas

theorem entries_foldl_mark (c : Catalog) (wanteds : List SchemaName) :
    (wanteds.foldl mark c).entries = c.entries := by
  induction wanteds generalizing c with
  | nil => rfl
  | cons w ws ih => rw [List.foldl_cons, ih, entries_mark]

/-- The first schema of a name stands at the first position of that name. -/
theorem exists_findIdx?_of_find? {c : Catalog} {n : String} {r : SchemaRecord}
    (h : c.find? n = some r) :
    ∃ i, c.names.findIdx? (· = .named n) = some i ∧ c.schemas[i]? = some r := by
  unfold find? at h
  rw [List.find?_eq_bind_findIdx?_getElem?, Option.bind_eq_some_iff] at h
  obtain ⟨i, hi, hr⟩ := h
  refine ⟨i, ?_, hr⟩
  rw [names, List.findIdx?_map]
  exact hi

/-- A schema that is found by the wanted name is the default after marking. -/
theorem default?_mark_of_find? {c : Catalog} {n : String} {r : SchemaRecord}
    (h : c.find? n = some r) :
    ∃ i, FirstAt c.names (· = .named n) i ∧ c.schemas[i]? = some r ∧
      (c.mark (.named n)).defaultIndex? = some i ∧
      (c.mark (.named n)).default? = some { r with isDefault := true } := by
  obtain ⟨i, hi, hr⟩ := exists_findIdx?_of_find? h
  have hchosen : chosenIndex c.names (.named n) = i := by
    show (c.names.findIdx? (· = .named n)).getD (substituteIndex c.names) = i
    rw [hi, Option.getD_some]
  have hmem : .named n ∈ c.names := by
    obtain ⟨hlt, hname, _⟩ := List.findIdx?_eq_some_iff_getElem.mp hi
    have hget : c.names[i] = .named n := by simpa using hname
    exact hget ▸ List.getElem_mem hlt
  have hschemas : c.schemas ≠ [] := by
    rintro hnil
    rw [hnil] at hr
    cases hr
  obtain ⟨hindex, hdefault⟩ := defaultIndex?_mark (.named n) hschemas
  rw [hchosen] at hindex hdefault
  refine ⟨i, hchosen ▸ firstAt_chosenIndex hmem, hr, hindex, ?_⟩
  rw [hdefault, mark, markAt, hchosen]
  simp [List.getElem?_mapIdx, hr]

/-- Once marked, the schema that is found by the wanted name is the default. -/
theorem default?_of_find?_mark {c : Catalog} {n : String} {r : SchemaRecord}
    (h : (c.mark (.named n)).find? n = some r) : (c.mark (.named n)).default? = some r := by
  obtain ⟨i, _, hr, hindex, _⟩ := default?_mark_of_find? h
  rw [mark_congr (entries_mark c (.named n)) (.named n)] at hindex
  unfold defaultIndex? at hindex
  rw [default?, List.find?_eq_bind_findIdx?_getElem?, hindex, Option.bind_some, hr]

/-! ### The main result -/

/-- **Marking.** A catalog without schemas stays as it is. In any other exactly
    one schema is marked, at the position that `ChosenAt` describes, whatever
    marks there were; the names and quoted names stay in order. Of several
    markings the last one counts alone, and a schema that was found by the
    wanted name is the default afterwards. -/
theorem mark_marks_chosen (c : Catalog) (wanted : SchemaName) :
    (c.schemas = [] → c.mark wanted = c) ∧
      (c.schemas ≠ [] → ∃ i < c.schemas.length, ChosenAt c.names wanted i ∧
        ∀ j r, (c.mark wanted).schemas[j]? = some r → (r.isDefault = true ↔ j = i)) ∧
      (c.mark wanted).entries = c.entries ∧
      (∀ c' : Catalog, c'.entries = c.entries → c'.mark wanted = c.mark wanted) ∧
      (∀ before : List SchemaName, (before ++ [wanted]).foldl mark c = c.mark wanted) ∧
      (∀ n r, c.find? n = some r → ∃ i, FirstAt c.names (· = .named n) i ∧
        c.schemas[i]? = some r ∧ (c.mark (.named n)).defaultIndex? = some i ∧
        (c.mark (.named n)).default? = some { r with isDefault := true }) ∧
      ∀ n : SchemaName, n.charCount = 0 ↔ n = .absent ∨ n = .unnamed := by
  refine ⟨?_, ?_, entries_mark c wanted, ?_, ?_, ?_, fun n => charCount_eq_zero_iff⟩
  · intro h
    obtain ⟨schemas⟩ := c
    subst h
    exact mark_nil wanted
  · intro h
    have hnames : c.names ≠ [] := by
      simpa [names] using h
    have hlt : chosenIndex c.names wanted < c.schemas.length := by
      simpa [names] using chosenIndex_lt wanted hnames
    refine ⟨_, hlt, chosenAt_chosenIndex wanted hnames, ?_⟩
    intro j r hr
    simp only [mark, markAt, List.getElem?_mapIdx, Option.map_eq_some_iff] at hr
    obtain ⟨r₀, _, rfl⟩ := hr
    exact beq_iff_eq
  · exact fun c' h => mark_congr h wanted
  · intro before
    rw [List.foldl_append]
    exact mark_congr (entries_foldl_mark c before) wanted
  · exact fun n r => default?_mark_of_find?

/-- Of the shortest names the first one is taken, whatever was marked before; an
    umlaut is one character. -/
example : (mark ⟨[⟨.named "sales", none, true⟩, ⟨.named "hü", none, false⟩,
    ⟨.named "hr", none, true⟩]⟩ (.named "ann")).defaultIndex? = some 1 := by
  decide +kernel

end Catalog

end Schemata
