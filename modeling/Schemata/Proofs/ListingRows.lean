import Mathlib.Data.List.Forall2
import Mathlib.Data.List.Induction
import Schemata.Pass

/-! # The rows of a listing

    A listing is read row by row for two things: the names that the dialect
    shows, and the name of the schema that is flagged as the default. Rows
    may be shorter or longer than the columns say.

    - `visibleNames` **keeps** the rows that show a name: their names, all of
      them, as often and in the order in which they are listed.
    - `flaggedName` looks for the last flagged row from the end. It comes to
      the same as a scan from the start in which every flagged row
      **overwrites** what the rows before it have left. -/

namespace Schemata

/-! ### Columns -/

/-- The column has the label, in any ASCII case. -/
def Column.Labelled (c : Column) (label : String) : Prop :=
  Text.sameUpToCase c.name label = true

namespace Listing

/-- The position is that of the first column with the label. -/
def FirstLabelled (columns : List Column) (label : String) (i : Nat) : Prop :=
  (∃ c, columns[i]? = some c ∧ c.Labelled label) ∧
    ∀ j < i, ∀ c, columns[j]? = some c → ¬c.Labelled label

/-- The position is that of the schema names: the first column with their
    label, or the first one of all where no column has it. -/
def NamesAt (columns : List Column) (i : Nat) : Prop :=
  FirstLabelled columns "TABLE_SCHEM" i ∨
    (∀ c ∈ columns, ¬c.Labelled "TABLE_SCHEM") ∧ i = 0

variable {l : Listing} {label : String} {i : Nat}

theorem column?_eq_some_iff : l.column? label = some i ↔ FirstLabelled l.columns label i := by
  unfold column? FirstLabelled Column.Labelled
  rw [List.findIdx?_eq_some_iff_getElem]
  constructor
  · rintro ⟨hi, hlabel, hbefore⟩
    refine ⟨⟨l.columns[i], List.getElem?_eq_getElem hi, hlabel⟩, ?_⟩
    intro j hj c hc
    obtain ⟨_, rfl⟩ := List.getElem?_eq_some_iff.mp hc
    exact hbefore j hj
  · rintro ⟨⟨c, hc, hlabel⟩, hbefore⟩
    obtain ⟨hi, rfl⟩ := List.getElem?_eq_some_iff.mp hc
    refine ⟨hi, hlabel, ?_⟩
    intro j hj
    exact hbefore j hj _ (List.getElem?_eq_getElem (Nat.lt_trans hj hi))

theorem column?_eq_none_iff : l.column? label = none ↔ ∀ c ∈ l.columns, ¬c.Labelled label := by
  unfold column? Column.Labelled
  rw [List.findIdx?_eq_none_iff]
  simp

theorem namesAt_nameColumn (l : Listing) : NamesAt l.columns l.nameColumn := by
  unfold NamesAt nameColumn columnOr
  cases hcolumn : l.column? schemaLabel with
  | none => exact .inr ⟨column?_eq_none_iff.mp hcolumn, rfl⟩
  | some i => exact .inl (column?_eq_some_iff.mp hcolumn)

end Listing

/-! ### The names that are shown -/

namespace Row

variable {row : Row} {d : Dialect} {i : Nat} {n : String}

/-- The row shows the name: its cell at the position is a text, and the
    dialect does not hide this text. -/
def Shows (row : Row) (d : Dialect) (i : Nat) (n : String) : Prop :=
  row[i]? = some (.text n) ∧ n ∉ d.systemSchemas

instance (row : Row) (d : Dialect) (i : Nat) (n : String) : Decidable (row.Shows d i n) :=
  inferInstanceAs (Decidable (_ ∧ _))

/-- The name that the row shows, if it shows one. -/
def shown? (row : Row) (d : Dialect) (i : Nat) : Option String :=
  (row.text? i).filter fun n => !d.isSystemSchema n

theorem text?_eq_some_iff : row.text? i = some n ↔ row[i]? = some (.text n) := by
  simp [text?, Option.bind_eq_some_iff, Cell.text?_eq_some_iff]

theorem shown?_eq_some_iff : row.shown? d i = some n ↔ row.Shows d i n := by
  simp [shown?, Shows, Option.filter_eq_some_iff, text?_eq_some_iff, Dialect.isSystemSchema]

end Row

/-- The names are those that the rows at the positions show, in order, and no
    other row shows a name. -/
structure ShownAt (d : Dialect) (i : Nat) (rows : List Row) (ps : List Nat)
    (names : List SchemaName) : Prop where
  increasing : ps.Pairwise (· < ·)
  mem_iff : ∀ j, j ∈ ps ↔ ∃ row n, rows[j]? = some row ∧ row.Shows d i n
  names_shown : List.Forall₂
    (fun j m => ∃ row n, rows[j]? = some row ∧ row.Shows d i n ∧ m = .named n) ps names

namespace ShownAt

variable {d : Dialect} {i : Nat} {rows : List Row} {row : Row} {n : String} {ps : List Nat}
  {names : List SchemaName}

theorem nil : ShownAt d i [] [] [] where
  increasing := .nil
  mem_iff := by simp
  names_shown := .nil

/-- Positions move by one when a row comes in front. -/
theorem names_shown_map (h : ShownAt d i rows ps names) : List.Forall₂
    (fun j m => ∃ row' n, (row :: rows)[j]? = some row' ∧ row'.Shows d i n ∧ m = .named n)
    (ps.map (· + 1)) names := by
  rw [List.forall₂_map_left_iff]
  exact h.names_shown

theorem increasing_map (h : ShownAt d i rows ps names) :
    (ps.map (· + 1)).Pairwise (· < ·) := by
  rw [List.pairwise_map]
  exact h.increasing.imp Nat.succ_lt_succ

/-- A row that shows a name comes first, with this name. -/
theorem cons_shown (h : ShownAt d i rows ps names) (hrow : row.Shows d i n) :
    ShownAt d i (row :: rows) (0 :: ps.map (· + 1)) (.named n :: names) where
  increasing := by
    refine List.pairwise_cons.mpr ⟨?_, h.increasing_map⟩
    intro j hj
    obtain ⟨k, _, rfl⟩ := List.mem_map.mp hj
    exact Nat.succ_pos k
  mem_iff := by
    intro j
    cases j with
    | zero =>
      constructor
      · intro _
        exact ⟨row, n, rfl, hrow⟩
      · intro _
        exact List.mem_cons_self
    | succ j => simpa using h.mem_iff j
  names_shown := .cons ⟨row, n, rfl, hrow, rfl⟩ h.names_shown_map

/-- A row that shows no name leaves the names as they are. -/
theorem cons_hidden (h : ShownAt d i rows ps names) (hrow : ∀ n, ¬row.Shows d i n) :
    ShownAt d i (row :: rows) (ps.map (· + 1)) names where
  increasing := h.increasing_map
  mem_iff := by
    intro j
    cases j with
    | zero =>
      constructor
      · intro hzero
        obtain ⟨k, _, hk⟩ := List.mem_map.mp hzero
        exact absurd hk (Nat.succ_ne_zero k)
      · rintro ⟨row', n, hget, hshows⟩
        cases hget
        exact absurd hshows (hrow n)
    | succ j => simpa using h.mem_iff j
  names_shown := h.names_shown_map

end ShownAt

namespace Listing

variable {columns : List Column} {rows : List Row} {row : Row} {d : Dialect}

/-- The names in a listing that are shown, row by row. -/
theorem visibleNames_eq_filterMap (l : Listing) (d : Dialect) :
    l.visibleNames d = (l.rows.filterMap (·.shown? d l.nameColumn)).map .named := by
  simp only [visibleNames, Row.shown?, List.filter_filterMap]

/-- Filtering never leaves a name out, makes one up or changes the order. -/
theorem exists_shownAt (rows : List Row) (d : Dialect) (i : Nat) :
    ∃ ps, ShownAt d i rows ps ((rows.filterMap (·.shown? d i)).map .named) := by
  induction rows with
  | nil => exact ⟨[], .nil⟩
  | cons row rows ih =>
    obtain ⟨ps, hps⟩ := ih
    cases hshown : row.shown? d i with
    | none =>
      simp only [List.filterMap_cons, hshown]
      refine ⟨_, hps.cons_hidden ?_⟩
      intro n hrow
      rw [Row.shown?_eq_some_iff.mpr hrow] at hshown
      cases hshown
    | some n =>
      simp only [List.filterMap_cons, hshown, List.map_cons]
      exact ⟨_, hps.cons_shown (Row.shown?_eq_some_iff.mp hshown)⟩

theorem count_visibleNames (l : Listing) (d : Dialect) (n : String) :
    (l.visibleNames d).count (.named n) =
      l.rows.countP fun row => row.Shows d l.nameColumn n := by
  rw [visibleNames_eq_filterMap, List.map_filterMap, List.count_filterMap]
  apply List.countP_congr
  intro row _
  simp [Option.map_eq_some_iff, Row.shown?_eq_some_iff]

theorem mem_visibleNames_iff {l : Listing} {m : SchemaName} :
    m ∈ l.visibleNames d ↔ ∃ row ∈ l.rows, ∃ n, row.Shows d l.nameColumn n ∧ m = .named n := by
  simp only [visibleNames_eq_filterMap, List.mem_map, List.mem_filterMap, Row.shown?_eq_some_iff]
  constructor
  · rintro ⟨n, ⟨row, hrow, hshows⟩, rfl⟩
    exact ⟨row, hrow, n, hshows, rfl⟩
  · rintro ⟨row, hrow, n, hshows, rfl⟩
    exact ⟨n, ⟨row, hrow, hshows⟩, rfl⟩

/-- A row without a name shows nothing, not the absent name. -/
theorem absent_not_mem_visibleNames (l : Listing) (d : Dialect) :
    .absent ∉ l.visibleNames d := by
  intro h
  obtain ⟨_, _, n, _, hn⟩ := mem_visibleNames_iff.mp h
  cases hn

theorem visibleNames_append (columns : List Column) (rows rows' : List Row) (d : Dialect) :
    visibleNames ⟨columns, rows ++ rows'⟩ d =
      visibleNames ⟨columns, rows⟩ d ++ visibleNames ⟨columns, rows'⟩ d := by
  rw [visibleNames_eq_filterMap, List.filterMap_append, List.map_append]
  rw [visibleNames_eq_filterMap, visibleNames_eq_filterMap]
  rfl

/-- A listing of names that are all shown shows these names. -/
theorem visibleNames_ofNames {ns : List String} (h : ∀ n ∈ ns, n ∉ d.systemSchemas) :
    (ofNames ns).visibleNames d = ns.map .named := by
  have hrows : (ofNames ns).rows = ns.map fun n => [.text n] := rfl
  rw [visibleNames_eq_filterMap, nameColumn_ofNames, hrows, List.filterMap_map]
  have hshown : ∀ n ∈ ns, ((fun row : Row => row.shown? d 0) ∘ fun n => [.text n]) n = some n := by
    intro n hn
    exact Row.shown?_eq_some_iff.mpr ⟨rfl, h n hn⟩
  rw [List.filterMap_congr hshown, List.filterMap_some]

/-- **Names.** With the names at the first column labelled `TABLE_SCHEM`, or
    else at column zero, the names of a listing are those of the rows that show
    one, in the order of the rows. Each name is there as often as a row shows
    it, and the absent name never is. Listing the names afresh shows the same
    names, and the rows can be read in two parts. -/
theorem visibleNames_keep_shown (columns : List Column) (d : Dialect) :
    ∃ i, NamesAt columns i ∧
      (∀ rows : List Row,
        (∃ ps, ShownAt d i rows ps (visibleNames ⟨columns, rows⟩ d)) ∧
        (∀ n, (visibleNames ⟨columns, rows⟩ d).count (.named n) =
          rows.countP fun row => row.Shows d i n) ∧
        .absent ∉ visibleNames ⟨columns, rows⟩ d ∧
        ∃ ns, visibleNames ⟨columns, rows⟩ d = ns.map .named ∧
          (ofNames ns).visibleNames d = ns.map .named) ∧
      ∀ rows rows' : List Row, visibleNames ⟨columns, rows ++ rows'⟩ d =
        visibleNames ⟨columns, rows⟩ d ++ visibleNames ⟨columns, rows'⟩ d := by
  refine ⟨_, namesAt_nameColumn ⟨columns, []⟩, ?_, ?_⟩
  · intro rows
    refine ⟨?_, count_visibleNames ⟨columns, rows⟩ d, absent_not_mem_visibleNames _ d, ?_⟩
    · rw [visibleNames_eq_filterMap]
      exact exists_shownAt rows d _
    · refine ⟨_, visibleNames_eq_filterMap _ d, visibleNames_ofNames ?_⟩
      intro n hn
      obtain ⟨row, _, hshown⟩ := List.mem_filterMap.mp hn
      exact (Row.shown?_eq_some_iff.mp hshown).2
  · intro rows rows'
    exact visibleNames_append columns rows rows' d

end Listing

/-! ### The name that is flagged -/

namespace Row

variable {row : Row} {flag name : Nat} {found : SchemaName}

/-- The text in the cell at the position, or the absent name where the cell is
    missing or holds no text. -/
def cellName (row : Row) (i : Nat) : SchemaName :=
  match row[i]? with
  | some (.text s) => .named s
  | _ => .absent

/-- One step of the scan from the start: a row whose cell at `flag` reads as
    true puts its own name in the place of the one found before. -/
def overwrite (flag name : Nat) (found : SchemaName) (row : Row) : SchemaName :=
  match row[flag]? with
  | some cell => if cell.flag then row.cellName name else found
  | none => found

theorem schemaName_eq_cellName (row : Row) (i : Nat) : row.schemaName i = row.cellName i := by
  unfold schemaName cellName text?
  cases row[i]? with
  | none => rfl
  | some cell => cases cell <;> rfl

theorem overwrite_of_flagged (h : row.flagged flag = true) :
    overwrite flag name found row = row.cellName name := by
  unfold flagged at h
  unfold overwrite
  cases hcell : row[flag]? with
  | none => simp [hcell] at h
  | some cell =>
    have hflag : cell.flag = true := by simpa [hcell] using h
    simp [hflag]

theorem overwrite_of_not_flagged (h : row.flagged flag = false) :
    overwrite flag name found row = found := by
  unfold flagged at h
  unfold overwrite
  cases hcell : row[flag]? with
  | none => rfl
  | some cell =>
    have hflag : cell.flag = false := by simpa [hcell] using h
    simp [hflag]

theorem foldl_overwrite_of_not_flagged {rows : List Row}
    (h : ∀ row ∈ rows, row.flagged flag = false) :
    rows.foldl (overwrite flag name) found = found := by
  induction rows with
  | nil => rfl
  | cons row rows ih =>
    rw [List.foldl_cons, overwrite_of_not_flagged (h row List.mem_cons_self)]
    exact ih fun r hr => h r (List.mem_cons_of_mem row hr)

/-- The scan ends with the name of the last flagged row, if there is one. -/
theorem foldl_overwrite (rows : List Row) (found : SchemaName) :
    rows.foldl (overwrite flag name) found =
      match rows.reverse.find? (·.flagged flag) with
      | some row => row.cellName name
      | none => found := by
  induction rows using List.reverseRecOn with
  | nil => rfl
  | append_singleton rows row ih =>
    rw [List.foldl_append, List.foldl_cons, List.foldl_nil, List.reverse_append,
      List.reverse_singleton, List.singleton_append]
    cases hrow : row.flagged flag with
    | true => simp only [overwrite_of_flagged hrow, List.find?_cons, hrow]
    | false => simp only [overwrite_of_not_flagged hrow, List.find?_cons, hrow, ih]

end Row

namespace Listing

variable {l : Listing} {columns : List Column} {row : Row} {flag : Nat}

theorem flaggedName_of_no_flags (h : l.flagColumn? = none) : l.flaggedName = .unnamed := by
  unfold flaggedName
  rw [h]

/-- Looking for the last flagged row is scanning all of them. -/
theorem flaggedName_eq_foldl (h : l.flagColumn? = some flag) :
    l.flaggedName = l.rows.foldl (Row.overwrite flag l.nameColumn) .unnamed := by
  unfold flaggedName
  simp only [h, Row.foldl_overwrite]
  cases l.rows.reverse.find? (·.flagged flag) with
  | none => rfl
  | some row => exact row.schemaName_eq_cellName l.nameColumn

/-- The row has a cell in the first column labelled `IS_DEFAULT`, and the cell
    reads as true. -/
def Flagged (columns : List Column) (row : Row) : Prop :=
  ∃ flag cell, FirstLabelled columns "IS_DEFAULT" flag ∧ row[flag]? = some cell ∧
    cell.flag = true

theorem flagged_iff (rows : List Row) : Flagged columns row ↔
    ∃ flag, flagColumn? ⟨columns, rows⟩ = some flag ∧ row.flagged flag = true := by
  unfold Flagged flagColumn? Row.flagged
  simp only [column?_eq_some_iff, Option.any_eq_true]
  constructor
  · rintro ⟨flag, cell, hfirst, hcell, hflag⟩
    exact ⟨flag, hfirst, cell, hcell, hflag⟩
  · rintro ⟨flag, hfirst, cell, hcell, hflag⟩
    exact ⟨flag, cell, hfirst, hcell, hflag⟩

/-- What comes before a flagged row does not count. -/
theorem flaggedName_of_flagged (before after : List Row) (h : Flagged columns row) :
    ∃ flag, flagColumn? ⟨columns, after⟩ = some flag ∧
      flaggedName ⟨columns, before ++ row :: after⟩ =
        after.foldl (Row.overwrite flag (nameColumn ⟨columns, after⟩))
          (row.cellName (nameColumn ⟨columns, after⟩)) := by
  obtain ⟨flag, hcolumn, hrow⟩ := (flagged_iff after).mp h
  have hcolumn' : flagColumn? ⟨columns, before ++ row :: after⟩ = some flag := hcolumn
  refine ⟨flag, hcolumn, ?_⟩
  rw [flaggedName_eq_foldl hcolumn', List.foldl_append, List.foldl_cons,
    Row.overwrite_of_flagged hrow]
  rfl

/-- A row that is not flagged does not count. -/
theorem flaggedName_of_not_flagged (before after : List Row) (h : ¬Flagged columns row) :
    flaggedName ⟨columns, before ++ row :: after⟩ = flaggedName ⟨columns, before ++ after⟩ := by
  cases hcolumn : flagColumn? ⟨columns, before ++ row :: after⟩ with
  | none =>
    have hcolumn' : flagColumn? ⟨columns, before ++ after⟩ = none := hcolumn
    rw [flaggedName_of_no_flags hcolumn, flaggedName_of_no_flags hcolumn']
  | some flag =>
    have hcolumn' : flagColumn? ⟨columns, before ++ after⟩ = some flag := hcolumn
    have hrow : row.flagged flag = false := by
      rw [flagged_iff (before ++ row :: after)] at h
      simpa [hcolumn] using h
    rw [flaggedName_eq_foldl hcolumn, flaggedName_eq_foldl hcolumn', List.foldl_append,
      List.foldl_cons, Row.overwrite_of_not_flagged hrow, ← List.foldl_append]
    rfl

/-- **The last flag.** The flagged name is what a scan from the start leaves,
    in which every row whose cell in the first column labelled `IS_DEFAULT`
    reads as true overwrites the name found so far; without such a column it is
    the empty name. So rows before a flagged one and rows that are not flagged
    do not count, and a row at the end decides if it is flagged. -/
theorem flaggedName_last_wins (columns : List Column) :
    ∃ name, NamesAt columns name ∧
      (∀ flag, FirstLabelled columns "IS_DEFAULT" flag → ∀ rows : List Row,
        flaggedName ⟨columns, rows⟩ = rows.foldl (Row.overwrite flag name) .unnamed) ∧
      ((∀ c ∈ columns, ¬c.Labelled "IS_DEFAULT") → ∀ rows : List Row,
        flaggedName ⟨columns, rows⟩ = .unnamed) ∧
      (∀ (before before' after : List Row) (row : Row), Flagged columns row →
        flaggedName ⟨columns, before ++ row :: after⟩ =
          flaggedName ⟨columns, before' ++ row :: after⟩) ∧
      (∀ (before after : List Row) (row : Row), ¬Flagged columns row →
        flaggedName ⟨columns, before ++ row :: after⟩ = flaggedName ⟨columns, before ++ after⟩) ∧
      ∀ (rows : List Row) (row : Row),
        (Flagged columns row → flaggedName ⟨columns, rows ++ [row]⟩ = row.cellName name) ∧
        (¬Flagged columns row →
          flaggedName ⟨columns, rows ++ [row]⟩ = flaggedName ⟨columns, rows⟩) := by
  refine ⟨_, namesAt_nameColumn ⟨columns, []⟩, ?_, ?_, ?_, ?_, ?_⟩
  · intro flag hflag rows
    exact flaggedName_eq_foldl (l := ⟨columns, rows⟩) (column?_eq_some_iff.mpr hflag)
  · intro hnone rows
    exact flaggedName_of_no_flags (column?_eq_none_iff.mpr hnone)
  · intro before before' after row hrow
    obtain ⟨flag, hcolumn, hname⟩ := flaggedName_of_flagged before after hrow
    obtain ⟨flag', hcolumn', hname'⟩ := flaggedName_of_flagged before' after hrow
    cases hcolumn.symm.trans hcolumn'
    rw [hname, hname']
  · intro before after row
    exact flaggedName_of_not_flagged before after
  · intro rows row
    constructor
    · intro hrow
      obtain ⟨_, _, hname⟩ := flaggedName_of_flagged rows [] hrow
      exact hname
    · intro hrow
      rw [flaggedName_of_not_flagged rows [] hrow, List.append_nil]

end Listing

end Schemata
