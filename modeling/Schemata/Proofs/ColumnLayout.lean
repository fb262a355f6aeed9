import Mathlib.Data.List.Perm.Basic
import Mathlib.Data.Multiset.Defs
import Schemata.Proofs.Influence
import Schemata.Proofs.ListingRows

/-! # The layout of columns

    Sources list the same schemas with their columns in another order, under
    labels in another case, or among columns that nobody reads. Such changes
    of the **layout** do not matter, as long as a label stands over one column
    only and every row has a cell for every column.

    - `Listing.Rearranged` is what may be done to a listing, any number of
      times.
    - `Listing.under` is what stands under a label, row by row and in no
      order. Every change keeps it.
    - `Listing.heeded` is all that is read of a listing. What stands under the
      two labels decides it. -/

namespace Schemata

/-! ### Lists side by side -/

section Pick

variable {α β : Type} {order : List Nat} {xs : List α} {ys : List β}

/-- The elements at the positions, in the order of the positions. -/
def pick (order : List Nat) (xs : List α) : List α := order.filterMap (xs[·]?)

theorem pick_range (xs : List α) : pick (List.range xs.length) xs = xs := by
  unfold pick
  induction xs with
  | nil => rfl
  | cons x xs ih =>
    rw [List.length_cons, List.range_succ_eq_map, List.filterMap_cons, List.filterMap_map]
    simpa [Function.comp_def] using ih

theorem perm_pick (h : order.Perm (List.range xs.length)) : (pick order xs).Perm xs := by
  have hpick : (pick order xs).Perm (pick (List.range xs.length) xs) := h.filterMap _
  rwa [pick_range] at hpick

theorem zip_pick (order : List Nat) (h : xs.length = ys.length) :
    (pick order xs).zip (pick order ys) = pick order (xs.zip ys) := by
  unfold pick
  induction order with
  | nil => rfl
  | cons i order ih =>
    rw [List.filterMap_cons, List.filterMap_cons, List.filterMap_cons, ← ih]
    by_cases hi : i < xs.length
    · have hi' : i < ys.length := by omega
      have hzip : (xs.zip ys)[i]? = some (xs[i], ys[i]) :=
        List.getElem?_zip_eq_some.mpr ⟨List.getElem?_eq_getElem hi, List.getElem?_eq_getElem hi'⟩
      rw [hzip, List.getElem?_eq_getElem hi, List.getElem?_eq_getElem hi']
      rfl
    · have hi' : ys.length ≤ i := by omega
      have hzip : (xs.zip ys).length ≤ i := by
        rw [List.length_zip]
        omega
      rw [List.getElem?_eq_none hzip, List.getElem?_eq_none hi', List.getElem?_eq_none (by omega)]

theorem zip_insertIdx (i : Nat) (x : α) (y : β) (h : xs.length = ys.length) :
    (xs.insertIdx i x).zip (ys.insertIdx i y) = (xs.zip ys).insertIdx i (x, y) := by
  induction i generalizing xs ys with
  | zero => rfl
  | succ i ih =>
    cases xs with
    | nil =>
      have hnil : ys = [] := List.eq_nil_of_length_eq_zero h.symm
      rw [hnil]
      rfl
    | cons a xs =>
      cases ys with
      | nil => cases h
      | cons b ys => simpa using ih (Nat.succ.inj h)

theorem eq_of_perm_of_length_le_one {as bs : List α} (h : as.Perm bs) (hlength : bs.length ≤ 1) :
    as = bs := by
  match bs with
  | [] => exact h.eq_nil
  | [b] => exact List.perm_singleton.mp h

end Pick

/-! ### Changes of the layout -/

instance (c : Column) (label : String) : Decidable (c.Labelled label) :=
  inferInstanceAs (Decidable (_ = true))

namespace Listing

variable {l l' : Listing} {label : String}

/-- The listing with its columns in another order, the cells of every row with
    them. -/
def inOrder (l : Listing) (order : List Nat) : Listing where
  columns := pick order l.columns
  rows := l.rows.map (pick order)

/-- The listing with one more column at the position; its cells are given row
    by row. -/
def insertColumn (l : Listing) (i : Nat) (c : Column) (cells : List Cell) : Listing where
  columns := l.columns.insertIdx i c
  rows := List.zipWith (fun row cell => row.insertIdx i cell) l.rows cells

/-- The labels of the columns that are read. -/
def heededLabels : List String := ["TABLE_SCHEM", "IS_DEFAULT"]

/-- The second listing comes from the first one by changes of the layout. -/
inductive Rearranged (l : Listing) : Listing → Prop where
  | refl : Rearranged l l
  /-- The columns are put in another order. -/
  | permute {l' : Listing} (h : Rearranged l l') (order : List Nat)
      (horder : order.Perm (List.range l'.columns.length)) : Rearranged l (l'.inOrder order)
  /-- The labels are written in another case. -/
  | relabel {l' : Listing} (h : Rearranged l l') (columns : List Column)
      (hcolumns : List.Forall₂ (fun c c' => Text.sameUpToCase c.name c'.name = true)
        l'.columns columns) : Rearranged l ⟨columns, l'.rows⟩
  /-- A column that is not read is added, with a cell in every row. -/
  | insert {l' : Listing} (h : Rearranged l l') (i : Nat) (c : Column) (cells : List Cell)
      (hi : i ≤ l'.columns.length) (hcells : cells.length = l'.rows.length)
      (hc : ∀ label ∈ heededLabels, ¬c.Labelled label) : Rearranged l (l'.insertColumn i c cells)

/-- Every row has a cell for every column. -/
def Full (l : Listing) : Prop := ∀ row ∈ l.rows, row.length = l.columns.length

instance (l : Listing) : Decidable l.Full :=
  inferInstanceAs (Decidable (∀ row ∈ l.rows, row.length = l.columns.length))

/-- There is one column for the names of the schemas and at most one for the
    default flags, and every row has a cell for every column. -/
structure Unambiguous (l : Listing) : Prop where
  full : l.Full
  one_name : l.columns.countP (·.Labelled "TABLE_SCHEM") = 1
  flags_le_one : l.columns.countP (·.Labelled "IS_DEFAULT") ≤ 1

end Listing

/-! ### What stands under a label -/

namespace Row

variable {row : Row} {columns : List Column} {label : String}

/-- The cells of the row that stand under the label, from left to right. -/
def under (row : Row) (columns : List Column) (label : String) : List Cell :=
  ((columns.zip row).filter fun x => x.1.Labelled label).map (·.2)

theorem perm_under {row' : Row} {columns' : List Column}
    (h : (columns'.zip row').Perm (columns.zip row)) :
    (row'.under columns' label).Perm (row.under columns label) :=
  (h.filter _).map _

/-- The first of these cells is the one in the first column with the label. -/
theorem head?_under (hfull : row.length = columns.length) (rows : List Row) :
    (row.under columns label).head? =
      ((Listing.mk columns rows).column? label).bind (row[·]?) := by
  unfold under Listing.column?
  induction columns generalizing row with
  | nil => rfl
  | cons c columns ih =>
    cases row with
    | nil => cases hfull
    | cons cell row =>
      have ih' := ih (Nat.succ.inj hfull)
      by_cases hc : c.Labelled label
      · have hc' : Text.sameUpToCase c.name label = true := hc
        simp [List.findIdx?_cons, hc, hc']
      · have hc' : Text.sameUpToCase c.name label = false := by simpa [Column.Labelled] using hc
        simpa [List.findIdx?_cons, hc, hc', Option.bind_map, Function.comp_def] using ih'

theorem length_under (hfull : row.length = columns.length) :
    (row.under columns label).length = columns.countP (·.Labelled label) := by
  have hfst : (columns.zip row).map (·.1) = columns := List.map_fst_zip (by omega)
  conv_rhs => rw [← hfst, List.countP_map]
  rw [under, List.length_map, ← List.countP_eq_length_filter]
  rfl

/-- The case of the labels does not matter. -/
theorem under_relabel {columns' : List Column}
    (h : List.Forall₂ (fun c c' => Text.sameUpToCase c.name c'.name = true) columns columns')
    (row : Row) : row.under columns' label = row.under columns label := by
  unfold under
  induction h generalizing row with
  | nil => rfl
  | @cons c c' columns columns' hc _ ih =>
    cases row with
    | nil => rfl
    | cons cell row =>
      have hlabel : c'.Labelled label ↔ c.Labelled label := by
        unfold Column.Labelled
        rw [Text.sameUpToCase_iff] at hc ⊢
        rw [Text.sameUpToCase_iff, hc]
      have ih' := ih row
      by_cases hlabelled : c.Labelled label <;> simpa [hlabel, hlabelled] using ih'

/-- A column with another label does not matter. -/
theorem perm_under_insertIdx (hfull : row.length = columns.length) {i : Nat}
    (hi : i ≤ columns.length) {c : Column} (hc : ¬c.Labelled label) (cell : Cell) :
    (Row.under (row.insertIdx i cell) (columns.insertIdx i c) label).Perm
      (row.under columns label) := by
  have hzip : i ≤ (columns.zip row).length := by
    rw [List.length_zip]
    omega
  have hperm := List.perm_insertIdx (c, cell) (columns.zip row) hzip
  rw [← zip_insertIdx i c cell hfull.symm] at hperm
  have hunder := (hperm.filter fun x => x.1.Labelled label).map (·.2)
  rwa [List.filter_cons_of_neg (by simpa using hc)] at hunder

end Row

namespace Listing

variable {l l' : Listing} {label : String}

/-- What stands under the label, row by row; within a row in no order. -/
def under (l : Listing) (label : String) : List (Multiset Cell) :=
  l.rows.map fun row => (row.under l.columns label : Multiset Cell)

theorem under_inOrder {order : List Nat} (hfull : l.Full)
    (horder : order.Perm (List.range l.columns.length)) (label : String) :
    (l.inOrder order).under label = l.under label := by
  unfold under inOrder
  rw [List.map_map]
  apply List.map_congr_left
  intro row hrow
  have hlength : l.columns.length = row.length := (hfull row hrow).symm
  have hzip : ((pick order l.columns).zip (pick order row)).Perm (l.columns.zip row) := by
    rw [zip_pick order hlength]
    apply perm_pick
    rwa [List.length_zip, ← hlength, Nat.min_self]
  exact Multiset.coe_eq_coe.mpr (Row.perm_under hzip)

theorem full_inOrder {order : List Nat} (hfull : l.Full)
    (horder : order.Perm (List.range l.columns.length)) : (l.inOrder order).Full := by
  intro row' hrow'
  obtain ⟨row, hrow, rfl⟩ := List.mem_map.mp hrow'
  have hlength : row.length = l.columns.length := hfull row hrow
  have horder' : order.Perm (List.range row.length) := by
    rwa [hlength]
  calc (pick order row).length = row.length := (perm_pick horder').length_eq
    _ = l.columns.length := hlength
    _ = (pick order l.columns).length := (perm_pick horder).length_eq.symm

theorem under_insertColumn {i : Nat} {c : Column} {cells : List Cell} (hfull : l.Full)
    (hi : i ≤ l.columns.length) (hcells : cells.length = l.rows.length)
    (hc : ¬c.Labelled label) : (l.insertColumn i c cells).under label = l.under label := by
  unfold under insertColumn
  apply List.ext_getElem
  · simp [hcells]
  · intro k hk hk'
    simp only [List.getElem_map, List.getElem_zipWith]
    apply Multiset.coe_eq_coe.mpr
    exact Row.perm_under_insertIdx (hfull _ (List.getElem_mem _)) hi hc _

theorem full_insertColumn {i : Nat} {c : Column} {cells : List Cell} (hfull : l.Full)
    (hi : i ≤ l.columns.length) : (l.insertColumn i c cells).Full := by
  intro row' hrow'
  obtain ⟨k, hk, rfl⟩ := List.mem_iff_getElem.mp hrow'
  simp only [insertColumn, List.getElem_zipWith] at hk ⊢
  have hlength := hfull _ (List.getElem_mem (by simpa using (Nat.lt_min.mp (by simpa using hk)).1))
  rw [List.length_insertIdx_of_le_length hi, List.length_insertIdx_of_le_length, hlength]
  omega

/-- No change of the layout takes anything from under the labels that are read,
    or puts anything there. -/
theorem Rearranged.under_eq (h : l.Rearranged l') (hfull : l.Full) :
    l'.Full ∧ ∀ label ∈ heededLabels, l'.under label = l.under label := by
  induction h with
  | refl => exact ⟨hfull, fun _ _ => rfl⟩
  | permute _ order horder ih =>
    obtain ⟨hfull', hunder⟩ := ih
    refine ⟨full_inOrder hfull' horder, fun label hlabel => ?_⟩
    rw [under_inOrder hfull' horder, hunder label hlabel]
  | @relabel l' _ columns hcolumns ih =>
    obtain ⟨hfull', hunder⟩ := ih
    refine ⟨fun row hrow => ?_, fun label hlabel => ?_⟩
    · rw [hfull' row hrow, hcolumns.length_eq]
    · rw [← hunder label hlabel]
      unfold under
      apply List.map_congr_left
      intro row _
      rw [Row.under_relabel hcolumns]
  | insert _ i c cells hi hcells hc ih =>
    obtain ⟨hfull', hunder⟩ := ih
    refine ⟨full_insertColumn hfull' hi, fun label hlabel => ?_⟩
    rw [under_insertColumn hfull' hi hcells (hc label hlabel), hunder label hlabel]

/-! ### What is read -/

/-- The cells of the row that are read: that of the name and that of the
    flag. -/
def heededCells (l : Listing) (row : Row) : Option Cell × Option Cell :=
  (row[l.nameColumn]?, l.flagColumn?.bind (row[·]?))

/-- All that is read of the listing, row by row. -/
def heeded (l : Listing) : List (Option Cell × Option Cell) := l.rows.map l.heededCells

/-- What a scan for the last flag makes of the two cells. -/
def overwriteCells (found : SchemaName) : Option Cell × Option Cell → SchemaName
  | (name, some flag) => if flag.flag then .ofText? (name.bind Cell.text?) else found
  | (_, none) => found

theorem visibleNames_eq_heeded (l : Listing) (d : Dialect) :
    l.visibleNames d = (l.heeded.filterMap fun x =>
      (x.1.bind Cell.text?).filter fun n => !d.isSystemSchema n).map .named := by
  rw [visibleNames_eq_filterMap, heeded, List.filterMap_map]
  rfl

theorem flaggedName_eq_heeded (l : Listing) :
    l.flaggedName = l.heeded.foldl overwriteCells .unnamed := by
  rw [heeded, List.foldl_map]
  cases hcolumn : l.flagColumn? with
  | none =>
    rw [flaggedName_of_no_flags hcolumn]
    simp [heededCells, hcolumn, overwriteCells]
  | some flag =>
    rw [flaggedName_eq_foldl hcolumn]
    congr 1
    funext found row
    unfold Row.overwrite overwriteCells heededCells
    rw [hcolumn, ← Row.schemaName_eq_cellName, Option.bind_some]
    cases row[flag]? <;> rfl

/-- Where one cell stands under the label of the names, it is the name that is
    read. -/
theorem heededCells_eq {row : Row} {cell : Cell} (hfull : row.length = l.columns.length)
    (hname : row.under l.columns "TABLE_SCHEM" = [cell]) :
    l.heededCells row = (some cell, (row.under l.columns "IS_DEFAULT").head?) := by
  have hcell : (l.column? "TABLE_SCHEM").bind (row[·]?) = some cell := by
    rw [← Row.head?_under hfull l.rows, hname]
    rfl
  obtain ⟨i, hcolumn, hget⟩ := Option.bind_eq_some_iff.mp hcell
  have hcolumn' : l.nameColumn = i := by
    unfold nameColumn columnOr
    rw [schemaLabel, hcolumn, Option.getD_some]
  rw [Row.head?_under hfull l.rows, heededCells, hcolumn', hget]
  rfl

/-- What stands under the two labels is all that is read, once a label stands
    over one column only. -/
theorem heeded_eq_of_under (hl : l.Unambiguous) (hfull' : l'.Full)
    (hunder : ∀ label ∈ heededLabels, l'.under label = l.under label) :
    l'.heeded = l.heeded := by
  have hlength : l'.rows.length = l.rows.length := by
    simpa [under] using congrArg List.length (hunder "TABLE_SCHEM" (by decide))
  apply List.ext_getElem
  · simpa [heeded] using hlength
  intro k hk' hk
  simp only [heeded, List.length_map] at hk hk'
  simp only [heeded, List.getElem_map]
  have hrow : l.rows[k].length = l.columns.length := hl.full _ (List.getElem_mem hk)
  have hrow' : l'.rows[k].length = l'.columns.length := hfull' _ (List.getElem_mem hk')
  have hcells : ∀ label ∈ heededLabels, l.columns.countP (·.Labelled label) ≤ 1 →
      l'.rows[k].under l'.columns label = l.rows[k].under l.columns label := by
    intro label hlabel hcount
    apply eq_of_perm_of_length_le_one
    · have hget := List.getElem_of_eq (hunder label hlabel) (by simpa [under] using hk')
      simpa [under] using hget
    · rwa [Row.length_under hrow]
  have hone : (l.rows[k].under l.columns "TABLE_SCHEM").length = 1 := by
    rw [Row.length_under hrow, hl.one_name]
  obtain ⟨cell, hcell⟩ := List.length_eq_one_iff.mp hone
  have hcell' := hcells "TABLE_SCHEM" (by decide) hl.one_name.le
  rw [hcell] at hcell'
  rw [heededCells_eq hrow hcell, heededCells_eq hrow' hcell',
    hcells "IS_DEFAULT" (by decide) hl.flags_le_one]

/-- Changes of the layout leave all that is read as it is. -/
theorem Rearranged.heeded_eq (h : l.Rearranged l') (hl : l.Unambiguous) :
    l'.heeded = l.heeded := by
  obtain ⟨hfull', hunder⟩ := h.under_eq hl.full
  exact heeded_eq_of_under hl hfull' hunder

theorem Rearranged.visibleNames_eq (h : l.Rearranged l') (hl : l.Unambiguous) (d : Dialect) :
    l'.visibleNames d = l.visibleNames d := by
  rw [visibleNames_eq_heeded, visibleNames_eq_heeded, h.heeded_eq hl]

theorem Rearranged.flaggedName_eq (h : l.Rearranged l') (hl : l.Unambiguous) :
    l'.flaggedName = l.flaggedName := by
  rw [flaggedName_eq_heeded, flaggedName_eq_heeded, h.heeded_eq hl]

end Listing

/-! ### Passes -/

/-- The replies are the same error, or listings that are unambiguous and differ in
    their layout. -/
inductive Relaid : Reply → Reply → Prop where
  | listed {l l' : Listing} (hl : l.Unambiguous) (h : l.Rearranged l') : Relaid (.ok l) (.ok l')
  | failed (e : MetadataError) : Relaid (.error e) (.error e)

theorem Relaid.readAlike {r r' : Reply} (h : Relaid r r') (d : Dialect) : ReadAlike d r r' := by
  cases h with
  | failed e => exact ⟨rfl, rfl⟩
  | listed hl h => exact ⟨congrArg Except.ok (h.visibleNames_eq hl d), h.flaggedName_eq hl⟩

namespace Source

/-- **Layout.** Where one column is labelled `TABLE_SCHEM`, at most one is
    labelled `IS_DEFAULT` and every row is full, the columns may change their
    order, the case of their labels, and their company: the same schemas are
    shown by any facts, and the same one is flagged. So passes through two
    sources whose listings differ in their layout make the same calls and end
    alike in every respect. -/
theorem column_layout_leaves_no_trace :
    (∀ l l' : Listing, l.Unambiguous → l.Rearranged l' →
      (∀ f : Facts, l'.visibleNames f.dialect = l.visibleNames f.dialect) ∧
        l'.flaggedName = l.flaggedName) ∧
      ∀ (s s' : Source) (cfg : Config), s'.profile = s.profile →
        (∀ text, s'.reply (.query text) = s.reply (.query text)) →
        (∀ made, Relaid ((s.afterAll made).reply .listing) ((s'.afterAll made).reply .listing)) →
        (s'.hold (pass s'.profile cfg)).1 = (s.hold (pass s.profile cfg)).1 ∧
          s'.asked (pass s'.profile cfg) = s.asked (pass s.profile cfg) := by
  refine ⟨?_, ?_⟩
  · intro l l' hl h
    exact ⟨fun f => h.visibleNames_eq hl f.dialect, h.flaggedName_eq hl⟩
  · intro s s' cfg hprofile hquery hlists
    exact pass_eq_of_readAlike hprofile hquery (fun made => (hlists made).readAlike _) cfg

/-- SQL Server lists names before flags. A catalog column comes in between, the
    flags move to the front, and the labels change their case. -/
theorem column_layout_of_sqlServer :
    let l := Listing.ofRows ["TABLE_SCHEM", "IS_DEFAULT"]
      [[.text "sales", .text "no"], [.text "dbo", .text " TRUE "], [.text "sys", .int16 0]]
    let l' := Listing.mk
      [{ name := "Is_Default" }, { name := "TABLE_CATALOG" }, { name := "table_schem" }]
      [[.text "no", .text "master", .text "sales"], [.text " TRUE ", .null, .text "dbo"],
        [.int16 0, .bool true, .text "sys"]]
    let set : List Setting := [.url "jdbc:sqlserver://host", .user "sa"]
    let s := (Source.inMemory "Microsoft SQL Server").setAll (set ++ [.listing l])
    let s' := (Source.inMemory "Microsoft SQL Server").setAll (set ++ [.listing l'])
    l.Unambiguous ∧ l.Rearranged l' ∧ l'.flaggedName = .named "dbo" ∧
      s'.profile = s.profile ∧ (∀ text, s'.reply (.query text) = s.reply (.query text)) ∧
      (∀ made, Relaid ((s.afterAll made).reply .listing) ((s'.afterAll made).reply .listing)) ∧
      (s'.hold (pass s'.profile {})).1 = (s.hold (pass s.profile {})).1 ∧
      s'.asked (pass s'.profile {}) = s.asked (pass s.profile {}) := by
  intro l l' set s s'
  have hl : l.Unambiguous := ⟨by decide +kernel, by decide +kernel, by decide +kernel⟩
  have h : l.Rearranged l' := by
    have hinsert : l.Rearranged (l.insertColumn 1 { name := "TABLE_CATALOG" }
        [.text "master", .null, .bool true]) :=
      .insert .refl 1 _ _ (by decide) rfl (by decide +kernel)
    have hpermute := hinsert.permute [2, 1, 0] (by decide +kernel)
    refine hpermute.relabel
      [{ name := "Is_Default" }, { name := "TABLE_CATALOG" }, { name := "table_schem" }] ?_
    exact .cons (by decide +kernel) (.cons (by decide +kernel) (.cons (by decide +kernel) .nil))
  have hprofile : s'.profile = s.profile := rfl
  have hquery : ∀ text, s'.reply (.query text) = s.reply (.query text) := fun _ => rfl
  have hlists : ∀ made, Relaid ((s.afterAll made).reply .listing)
      ((s'.afterAll made).reply .listing) := fun _ => .listed hl h
  obtain ⟨hreadings, hpasses⟩ := column_layout_leaves_no_trace
  have hflagged : l'.flaggedName = .named "dbo" := by
    rw [(hreadings l l' hl h).2]
    decide +kernel
  exact ⟨hl, h, hflagged, hprofile, hquery, hlists, hpasses s s' {} hprofile hquery hlists⟩

end Source

end Schemata
