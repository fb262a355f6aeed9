import Schemata.Proofs.Marking
import Schemata.Proofs.Stages

/-! # A single schema

    Where schemas are not listed, enumeration comes to one name that the dialect
    fixes (`SchemaNamespace.onlyName?`). Default resolution may still ask for a
    listing, and may be told anything: whichever name it comes to, a catalog of
    one schema has only that one to mark. So the outcome is one record
    (`hold_pass_of_onlyName?`), and it is a fact of product, URL and configuration
    alone. -/

namespace Schemata

/-- The schemas of H2 are listed. -/
theorem Dialect.ne_h2_of_onlyName? {d : Dialect} {name : SchemaName}
    (h : d.schemaNamespace.onlyName? = some name) : d ≠ .h2 := by
  rintro rfl
  exact nomatch h

-- How a product is classified plays no part from here on.
attribute [local irreducible] Facts.classify

namespace Source

/-- Where schemas are not listed a pass succeeds with the one schema of the
    dialect, marked as the default, whatever the source replies. -/
theorem hold_pass_of_onlyName? (s : Source) (cfg : Config) {f : Facts} {name : SchemaName}
    (hf : Facts.classify s.profile.product s.profile.url = f)
    (h : f.dialect.schemaNamespace.onlyName? = some name) :
    (s.hold (pass s.profile cfg)).1 =
      .ok ⟨f, ⟨[⟨name, name.text?.map f.quote, true⟩]⟩, cfg.tableTypes⟩ := by
  have honly : s.profile.dialect.schemaNamespace.onlyName? = some name := by
    rwa [Profile.dialect, hf]
  -- off H2 the mode is not probed for
  have hfacts : s.facts cfg = f := by
    rw [s.facts_of_not_probed cfg fun hprobed => Dialect.ne_h2_of_onlyName? honly hprobed.1, hf]
  have hnames := s.names_of_onlyName? cfg honly
  rw [hold_pass, hfacts, hnames, conclude, Facts.unmarked, List.map_singleton]
  -- the wanted name may come from the source, but it does not matter
  rw [Catalog.mark_singleton]
  rfl

/-- **Single schema.** On MySQL and SQLite a pass succeeds with the schema of the
    empty name, and on Firebird with that of the absent name; it is the default,
    whatever the user is and whatever the source replies to any call. -/
theorem single_schema_whatever_replied (s : Source) (cfg : Config) :
    let f := Facts.classify s.profile.product s.profile.url
    let outcome := (s.hold (pass s.profile cfg)).1
    (f.dialect = .mySql ∨ f.dialect = .sqlite →
      outcome = .ok ⟨f, ⟨[⟨.named "", some "", true⟩]⟩, cfg.tableTypes⟩) ∧
    (f.dialect = .firebird →
      outcome = .ok ⟨f, ⟨[⟨.absent, none, true⟩]⟩, cfg.tableTypes⟩) := by
  intro f outcome
  constructor
  · intro hdialect
    have hname : f.dialect.schemaNamespace.onlyName? = some .unnamed := by
      rcases hdialect with hd | hd <;> rw [hd] <;> rfl
    have hquoted : SchemaName.unnamed.text?.map f.quote = some "" := by
      rw [Facts.quote_of_ne_h2 (Dialect.ne_h2_of_onlyName? hname)]
      rfl
    have hpass : outcome = _ := s.hold_pass_of_onlyName? cfg rfl hname
    rwa [hquoted] at hpass
  · intro hd
    have hname : f.dialect.schemaNamespace.onlyName? = some .absent := by
      rw [hd]
      rfl
    exact s.hold_pass_of_onlyName? cfg rfl hname

/-- On SQLite the listing flags a row without a name, and on Firebird it fails. -/
theorem single_schema_of_sqlite_and_firebird :
    let flagged := Listing.ofRows ["TABLE_SCHEM", "IS_DEFAULT"] [[.null, .bool true]]
    let s := Source.scripted ⟨"SQLite", some "jdbc:h2:mem:test", "sa"⟩ ⟨[.ok flagged], []⟩
    let s' := Source.scripted ⟨"Firebird", some "jdbc:firebirdsql:test", "sa"⟩
      ⟨[.error (.metadata "gone")], []⟩
    let f := Facts.classify s.profile.product s.profile.url
    let f' := Facts.classify s'.profile.product s'.profile.url
    f.dialect = .sqlite ∧ f'.dialect = .firebird ∧
      (s.hold (pass s.profile {})).1 =
        .ok ⟨f, ⟨[⟨.named "", some "", true⟩]⟩, ({} : Config).tableTypes⟩ ∧
      (s'.hold (pass s'.profile {})).1 =
        .ok ⟨f', ⟨[⟨.absent, none, true⟩]⟩, ({} : Config).tableTypes⟩ := by
  intro flagged s s' f f'
  have hd : f.dialect = .sqlite := by decide +kernel
  have hd' : f'.dialect = .firebird := by decide +kernel
  exact ⟨hd, hd', (s.single_schema_whatever_replied {}).1 (.inr hd),
    (s'.single_schema_whatever_replied {}).2 hd'⟩

end Source

end Schemata
