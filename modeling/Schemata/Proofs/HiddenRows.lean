import Schemata.Proofs.Influence
import Schemata.Proofs.ListingRows

/-! # Hidden rows

    A row of the schema listing is **inert** if the dialect does not show
    its schema and it does not flag the default. Inert rows leave no trace:
    a listing that is padded with them, anywhere and with any number of
    them, shows the same names and flags the same default, so that a pass
    makes the same calls and comes to the same contents.

    A listing is read twice in a pass, once for the names and once for the
    flag. `Padded.filterMap_eq` and `Padded.foldl_eq` say of each way of
    reading what padding means for it. -/

namespace Schemata

/-! ### Padding -/

/-- The second list is the first one with more elements in between, all of
    which have the property. -/
inductive Padded {α : Type} (P : α → Prop) : List α → List α → Prop where
  | nil : Padded P [] []
  /-- An element of both lists. -/
  | keep (a : α) {as bs : List α} (h : Padded P as bs) : Padded P (a :: as) (a :: bs)
  /-- An element that the first list does not have. -/
  | pad (b : α) (hb : P b) {as bs : List α} (h : Padded P as bs) : Padded P as (b :: bs)

section Padded

variable {α β : Type} {P : α → Prop} {as bs : List α}

/-- A reading that makes nothing of the padding comes to the same. -/
theorem Padded.filterMap_eq {f : α → Option β} (h : Padded P as bs)
    (hf : ∀ a, P a → f a = none) : bs.filterMap f = as.filterMap f := by
  induction h with
  | nil => rfl
  | keep a _ ih =>
    rw [List.filterMap_cons, List.filterMap_cons, ih]
  | pad b hb _ ih =>
    rw [List.filterMap_cons_none (hf b hb)]
    exact ih

/-- A scan that the padding does not move ends the same. -/
theorem Padded.foldl_eq {f : β → α → β} (h : Padded P as bs) (hf : ∀ a, P a → ∀ b, f b a = b)
    (b : β) : bs.foldl f b = as.foldl f b := by
  induction h generalizing b with
  | nil => rfl
  | keep a _ ih =>
    rw [List.foldl_cons, List.foldl_cons, ih]
  | pad a ha _ ih =>
    rw [List.foldl_cons, hf a ha]
    exact ih b

end Padded

/-! ### Inert rows -/

namespace Listing

variable {l l' : Listing} {d : Dialect}

/-- The row shows no schema and flags none: the cell of the name is missing,
    holds no text, or holds the name of an internal schema of the dialect; and
    there is no column for flags, or the cell in it is missing or reads as
    false. -/
structure Inert (l : Listing) (d : Dialect) (row : Row) : Prop where
  hidden : ∀ n ∈ row.text? l.nameColumn, n ∈ d.systemSchemas
  unflagged : ∀ flag ∈ l.flagColumn?, row.flagged flag = false

instance (l : Listing) (d : Dialect) (row : Row) : Decidable (l.Inert d row) :=
  decidable_of_iff ((∀ n ∈ row.text? l.nameColumn, n ∈ d.systemSchemas) ∧
    ∀ flag ∈ l.flagColumn?, row.flagged flag = false)
    ⟨fun h => ⟨h.1, h.2⟩, fun h => ⟨h.hidden, h.unflagged⟩⟩

/-- The second listing is the first one with inert rows in between. -/
structure PaddedBy (l : Listing) (d : Dialect) (l' : Listing) : Prop where
  columns_eq : l'.columns = l.columns
  rows_padded : Padded (l.Inert d) l.rows l'.rows

theorem PaddedBy.nameColumn_eq (h : l.PaddedBy d l') : l'.nameColumn = l.nameColumn := by
  unfold nameColumn columnOr column?
  rw [h.columns_eq]

theorem PaddedBy.flagColumn?_eq (h : l.PaddedBy d l') : l'.flagColumn? = l.flagColumn? := by
  unfold flagColumn? column?
  rw [h.columns_eq]

theorem PaddedBy.visibleNames_eq (h : l.PaddedBy d l') :
    l'.visibleNames d = l.visibleNames d := by
  rw [visibleNames_eq_filterMap, visibleNames_eq_filterMap, h.nameColumn_eq]
  congr 1
  apply h.rows_padded.filterMap_eq
  intro row hrow
  rw [Row.shown?, Option.filter_eq_none_iff]
  intro n hn
  simpa [Dialect.isSystemSchema] using hrow.hidden n hn

theorem PaddedBy.flaggedName_eq (h : l.PaddedBy d l') : l'.flaggedName = l.flaggedName := by
  cases hflag : l.flagColumn? with
  | none =>
    rw [flaggedName_of_no_flags hflag]
    exact flaggedName_of_no_flags (h.flagColumn?_eq.trans hflag)
  | some flag =>
    rw [flaggedName_eq_foldl hflag, flaggedName_eq_foldl (h.flagColumn?_eq.trans hflag),
      h.nameColumn_eq]
    apply h.rows_padded.foldl_eq
    intro row hrow found
    exact Row.overwrite_of_not_flagged (hrow.unflagged flag hflag)

end Listing

/-! ### Passes -/

-- The stages are what their lemmas say of them.
attribute [local irreducible] Facts.classify pass

namespace Source

variable {s s' : Source} {l l' : Listing} {cfg : Config}

/-- The source replies to every listing with `l`, however it was called
    before. -/
def Serves (s : Source) (l : Listing) : Prop :=
  ∀ made, (s.afterAll made).reply .listing = .ok l

/-- **Hidden rows.** Two sources have the same profile and reply alike to the
    query for the mode. One always serves a listing, and the other always
    serves this listing padded with rows that are inert for the dialect.
    Passes through them make the same calls and end alike in every respect. -/
theorem hidden_rows_leave_no_trace (hprofile : s'.profile = s.profile)
    (hquery : ∀ text, s'.reply (.query text) = s.reply (.query text))
    (hserves : s.Serves l) (hserves' : s'.Serves l')
    (hpadded : l.PaddedBy s.profile.dialect l') (cfg : Config) :
    (s'.hold (pass s'.profile cfg)).1 = (s.hold (pass s.profile cfg)).1 ∧
      s'.asked (pass s'.profile cfg) = s.asked (pass s.profile cfg) := by
  apply pass_eq_of_readAlike hprofile hquery
  intro made
  rw [hserves made, hserves' made]
  exact ⟨congrArg Except.ok hpadded.visibleNames_eq, hpadded.flaggedName_eq⟩

/-- SQL Server lists ragged rows under labels that name no schema column. Internal
    schemas, empty rows and cells that hold no text come in between, and one
    more internal schema follows the row that is flagged last. -/
theorem hidden_rows_of_sqlServer :
    let l := Listing.ofRows ["SCHEMA", "is_default"]
      [[.text "sales", .text "no"], [.text "dbo", .text " TRUE "], [.text "hr"]]
    let l' := Listing.ofRows ["SCHEMA", "is_default"]
      [[.text "sys", .bool false], [.text "sales", .text "no"], [], [.text "dbo", .text " TRUE "],
        [.text "db_owner", .int16 0], [.int64 7], [.text "hr"], [.null, .null, .text "hr"]]
    let set : List Setting := [.url "jdbc:sqlserver://host", .user "sa"]
    let s := (Source.inMemory "Microsoft SQL Server").setAll (set ++ [.listing l])
    let s' := (Source.inMemory "Microsoft SQL Server").setAll (set ++ [.listing l'])
    s'.profile = s.profile ∧ (∀ text, s'.reply (.query text) = s.reply (.query text)) ∧
      s.Serves l ∧ s'.Serves l' ∧ l.PaddedBy s.profile.dialect l' ∧
      (s'.hold (pass s'.profile {})).1 = (s.hold (pass s.profile {})).1 ∧
      s'.asked (pass s'.profile {}) = s.asked (pass s.profile {}) := by
  intro l l' set s s'
  have hprofile : s'.profile = s.profile := rfl
  have hquery : ∀ text, s'.reply (.query text) = s.reply (.query text) := fun _ => rfl
  have hserves : s.Serves l := fun _ => rfl
  have hserves' : s'.Serves l' := fun _ => rfl
  have hpadded : l.PaddedBy s.profile.dialect l' := by
    have hdialect : s.profile.dialect = .sqlServer := by decide +kernel
    rw [hdialect]
    refine ⟨rfl, ?_⟩
    refine .pad _ (by decide +kernel) (.keep _ ?_)
    refine .pad _ (by decide +kernel) (.keep _ ?_)
    refine .pad _ (by decide +kernel) (.pad _ (by decide +kernel) (.keep _ ?_))
    exact .pad _ (by decide +kernel) .nil
  exact ⟨hprofile, hquery, hserves, hserves', hpadded,
    hidden_rows_leave_no_trace hprofile hquery hserves hserves' hpadded {}⟩

end Source

end Schemata
