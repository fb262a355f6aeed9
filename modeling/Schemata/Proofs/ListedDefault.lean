import Schemata.Proofs.Stages
import Schemata.Proofs.WellFormed

/-! # The default schema of a listing

    Where the listing flags the default schema, a pass reads it twice: once
    for the names to show and once for the name that is flagged. The two
    readings know nothing of each other. If the source replies to both with
    one listing, they fit together: the flagged schema is the default if it
    is shown, and otherwise the choice is the one that `Listing.DefaultAt`
    states, row by row of the listing. -/

namespace Schemata

open Catalog (FirstAt SubstituteAt)

namespace Listing

variable {l : Listing} {row : Row} {d : Dialect}

/-! ### The flagged row -/

/-- The row is the last one of the listing whose default flag reads as true. -/
def LastFlagged (l : Listing) (row : Row) : Prop :=
  ∃ flag before after, l.flagColumn? = some flag ∧ l.rows = before ++ row :: after ∧
    row.flagged flag = true ∧ ∀ r ∈ after, r.flagged flag = false

theorem LastFlagged.mem_rows (h : l.LastFlagged row) : row ∈ l.rows := by
  obtain ⟨flag, before, after, _, hrows, _, _⟩ := h
  rw [hrows]
  exact List.mem_append_right before List.mem_cons_self

/-- The scan keeps the name of the last flagged row to the end. -/
theorem flaggedName_of_lastFlagged (h : l.LastFlagged row) :
    l.flaggedName = row.cellName l.nameColumn := by
  obtain ⟨flag, before, after, hflag, hrows, hrow, hafter⟩ := h
  rw [flaggedName_eq_foldl hflag, hrows, List.foldl_append, List.foldl_cons,
    Row.overwrite_of_flagged hrow]
  exact Row.foldl_overwrite_of_not_flagged hafter

/-- No row of the listing is flagged; there may be no column for flags. -/
def Unflagged (l : Listing) : Prop :=
  ∀ flag, l.flagColumn? = some flag → ∀ row ∈ l.rows, row.flagged flag = false

theorem flaggedName_of_unflagged (h : l.Unflagged) : l.flaggedName = .unnamed := by
  cases hflag : l.flagColumn? with
  | none => exact flaggedName_of_no_flags hflag
  | some flag =>
    rw [flaggedName_eq_foldl hflag]
    exact Row.foldl_overwrite_of_not_flagged (h flag hflag)

/-! ### The flagged row among the names -/

theorem named_mem_visibleNames (hrow : row ∈ l.rows) {n : String}
    (hn : row.text? l.nameColumn = some n) (hvisible : n ∉ d.systemSchemas) :
    .named n ∈ l.visibleNames d :=
  mem_visibleNames_iff.mpr ⟨row, hrow, n, ⟨Row.text?_eq_some_iff.mp hn, hvisible⟩, rfl⟩

/-- Where the default schema of a listing is among the names that the dialect
    shows of it. -/
structure DefaultAt (l : Listing) (d : Dialect) (i : Nat) : Prop where
  /-- A flagged schema that is shown is the default, where it is listed
      first. -/
  shown : ∀ row n, l.LastFlagged row → row.text? l.nameColumn = some n → n ∉ d.systemSchemas →
    FirstAt (l.visibleNames d) (· = .named n) i
  /-- A flagged row without a name leaves the choice to the order. -/
  nameless : ∀ row, l.LastFlagged row → row.text? l.nameColumn = none → i = 0
  /-- A flagged schema that is hidden has a substitute. -/
  hidden : ∀ row n, l.LastFlagged row → row.text? l.nameColumn = some n → n ∈ d.systemSchemas →
    SubstituteAt (l.visibleNames d) i
  /-- Where nothing is flagged the default is the schema with the empty name
      or, where there is none, the substitute. -/
  unflagged : l.Unflagged →
    FirstAt (l.visibleNames d) (· = .named "") i ∨
      .named "" ∉ l.visibleNames d ∧ SubstituteAt (l.visibleNames d) i

theorem defaultAt_chosenIndex (h : l.visibleNames d ≠ []) :
    l.DefaultAt d (Catalog.chosenIndex (l.visibleNames d) l.flaggedName) := by
  constructor
  case shown =>
    intro row n hlast hn hvisible
    have hname : l.flaggedName = .named n := by
      rw [flaggedName_of_lastFlagged hlast, ← Row.schemaName_eq_cellName, Row.schemaName, hn]
      rfl
    rw [hname]
    exact Catalog.firstAt_chosenIndex (named_mem_visibleNames hlast.mem_rows hn hvisible)
  case nameless =>
    intro row hlast hn
    have hname : l.flaggedName = .absent := by
      rw [flaggedName_of_lastFlagged hlast, ← Row.schemaName_eq_cellName, Row.schemaName, hn]
      rfl
    rw [hname]
    rfl
  case hidden =>
    intro row n hlast hn hsystem
    have hname : l.flaggedName = .named n := by
      rw [flaggedName_of_lastFlagged hlast, ← Row.schemaName_eq_cellName, Row.schemaName, hn]
      rfl
    rw [hname]
    apply Catalog.substituteAt_chosenIndex h
    exact fun hmem => not_mem_systemSchemas hmem hsystem
  case unflagged =>
    intro hnone
    have hname : l.flaggedName = .named "" := flaggedName_of_unflagged hnone
    rw [hname]
    by_cases hmem : .named "" ∈ l.visibleNames d
    · exact .inl (Catalog.firstAt_chosenIndex hmem)
    · exact .inr ⟨hmem, Catalog.substituteAt_chosenIndex h hmem⟩

end Listing

/-! ### The main result -/

-- The stages are what `hold_pass` and `exchanges_pass` say of them.
attribute [local irreducible] Facts.classify pass

namespace Source

/-- **One listing.** On H2, SQL Server and generic products, a pass to which
    the source replies with one listing, and which shows a schema, succeeds
    and marks the schema that this listing makes the default. -/
theorem default_of_one_listing {src : Source} {cfg : Config} {l : Listing}
    (hdialect : src.profile.dialect = .h2 ∨ src.profile.dialect = .sqlServer ∨
      src.profile.dialect = .generic)
    (hlisting : ∀ r, (.listing, r) ∈ src.exchanges (pass src.profile cfg) → r = .ok l)
    (hshown : l.visibleNames src.profile.dialect ≠ []) :
    ∃ c i, (src.hold (pass src.profile cfg)).1 = .ok c ∧
      c.catalog.names = l.visibleNames src.profile.dialect ∧
      c.catalog.defaultIndex? = some i ∧ c.catalog.default? = c.catalog.schemas[i]? ∧
      l.DefaultAt src.profile.dialect i := by
  have hlisted : src.profile.dialect.schemaNamespace = .listed := by
    rcases hdialect with hd | hd | hd <;> rw [hd] <;> rfl
  have hrule : src.profile.dialect.defaultRule = .listing := by
    rcases hdialect with hd | hd | hd <;> rw [hd] <;> rfl
  -- enumeration reads `l`
  have hnames : src.names cfg = .ok (l.visibleNames src.profile.dialect) := by
    have hreply := hlisting _ (src.mem_exchanges_pass_of_listed cfg hlisted)
    rw [names_of_listed src cfg hlisted, hreply]
    rfl
  -- and so does default resolution, there being a schema
  have hwanted : src.wanted cfg = l.flaggedName := by
    have hschemas : (src.hold (pass src.profile cfg)).1.hasSchemas = true := by
      rw [hasSchemas_hold_pass, hnames]
      simpa using hshown
    obtain ⟨before, hexchanges⟩ := src.exchanges_pass_of_listing cfg hrule hschemas
    have hreply := hlisting ((src.enumerated cfg).reply .listing) (by simp [hexchanges])
    rw [wanted_of_listing src cfg hrule, hreply]
    rfl
  have hschemas : ((src.facts cfg).unmarked (l.visibleNames src.profile.dialect)).schemas ≠ [] := by
    simpa [Facts.unmarked] using hshown
  obtain ⟨hindex, hdefault⟩ := Catalog.defaultIndex?_mark l.flaggedName hschemas
  rw [Facts.names_unmarked] at hindex hdefault
  rw [hold_pass, hnames, hwanted]
  refine ⟨_, _, rfl, ?_, hindex, hdefault, Listing.defaultAt_chosenIndex hshown⟩
  rw [Catalog.names_mark, Facts.names_unmarked]

/-- SQL Server flags an internal schema last, in a listing with ragged rows and
    columns of the same label: the substitute is the default. -/
theorem default_of_hidden_flag :
    let l := Listing.ofRows ["is_default", "TABLE_SCHEM", "IS_DEFAULT", "table_schem"]
      [[.bool true, .text "sales", .null, .text "x"], [.text " TRUE ", .text "dbo"], [.null],
        [.int16 1, .text "sys"], [.int16 0, .text "hr", .bool true]]
    let src := (Source.inMemory "Microsoft SQL Server").setAll
      [.url "jdbc:sqlserver://host", .listing l]
    (src.profile.dialect = .h2 ∨ src.profile.dialect = .sqlServer ∨
        src.profile.dialect = .generic) ∧
      (∀ r, (.listing, r) ∈ src.exchanges (pass src.profile {}) → r = .ok l) ∧
      l.visibleNames src.profile.dialect ≠ [] ∧
      ∃ c i, (src.hold (pass src.profile {})).1 = .ok c ∧ c.catalog.defaultIndex? = some i ∧
        SubstituteAt c.catalog.names i := by
  intro l src
  have hdialect : src.profile.dialect = .sqlServer := by decide +kernel
  have hlisting : ∀ r, (.listing, r) ∈ src.exchanges (pass src.profile {}) → r = .ok l :=
    fun r => reply_of_mem_exchanges fun _ => rfl
  have hshown : l.visibleNames src.profile.dialect ≠ [] := by
    rw [hdialect]
    decide +kernel
  -- the row that flags `sys` is followed by one that flags nothing
  have hlast : l.LastFlagged [.int16 1, .text "sys"] :=
    ⟨0, l.rows.take 3, l.rows.drop 4, by decide +kernel, by decide +kernel, by decide +kernel,
      by decide +kernel⟩
  obtain ⟨c, i, hc, hnames, hindex, _, hat⟩ :=
    default_of_one_listing (.inr (.inl hdialect)) hlisting hshown
  refine ⟨.inr (.inl hdialect), hlisting, hshown, c, i, hc, hindex, ?_⟩
  have hsystem : "sys" ∈ src.profile.dialect.systemSchemas := by
    rw [hdialect]
    decide +kernel
  rw [hnames]
  exact hat.hidden _ "sys" hlast (by decide +kernel) hsystem

end Source

end Schemata
