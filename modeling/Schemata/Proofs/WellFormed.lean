import Schemata.Proofs.ListingRows
import Schemata.Proofs.Marking
import Schemata.Proofs.Stages

/-! # Well-formed contents

    What a pass has read is **well-formed** whatever the source replied: the
    facts are those of the product and URL, every quoted name is the name as
    the facts quote it, nothing internal shows, one schema is the default,
    and only Firebird has a schema without a name. Each stage contributes its
    part of this; `Source.wellFormed_hold_pass` puts the parts together. -/

namespace Schemata

/-- What holds of everything that a pass reads through a source of the given
    profile. -/
structure Contents.WellFormed (p : Profile) (cfg : Config) (c : Contents) : Prop where
  /-- The dialect is the one that product and URL tell. -/
  dialect_classified : c.facts.dialect = (Facts.classify p.product p.url).dialect
  /-- MySQL mode is only ever set on H2, and only after a probe. -/
  probed : c.facts.mysqlMode = true → c.facts.dialect = .h2 ∧ cfg.probeMode = true
  /-- Names are quoted the way the facts say. -/
  quoted : ∀ r ∈ c.catalog.schemas, r.quotedName = r.name.text?.map c.facts.quote
  /-- No internal schema is listed. -/
  visible : ∀ r ∈ c.catalog.schemas, ∀ n, r.name = .named n → n ∉ c.facts.dialect.systemSchemas
  /-- No internal schema is the default. -/
  default_visible : ∀ r, c.catalog.default? = some r →
    ∀ n, r.name = .named n → n ∉ c.facts.dialect.systemSchemas
  /-- One schema is the default, if there are any. -/
  one_default : c.catalog.schemas.countP (·.isDefault) = if c.catalog.schemas = [] then 0 else 1
  /-- Only Firebird has a schema with an absent name. -/
  absent_iff : (∃ r ∈ c.catalog.schemas, r.name = .absent) ↔ c.facts.dialect = .firebird
  /-- And it has no other. -/
  absent_alone : c.facts.dialect = .firebird → c.catalog.names = [.absent]
  tableTypes_eq : c.tableTypes = cfg.tableTypes

/-! ### Detection -/

-- Unfolding it where terms are compared would take its tables apart.
attribute [local irreducible] Facts.classify

/-- The mode is only found out about H2, and only by a probe. -/
theorem Source.probed_of_mysqlMode {s : Source} {cfg : Config}
    (h : (s.facts cfg).mysqlMode = true) :
    (s.facts cfg).dialect = .h2 ∧ cfg.probeMode = true := by
  by_cases hprobed : s.profile.dialect = .h2 ∧ cfg.probeMode = true
  · rwa [dialect_facts]
  · rw [s.facts_of_not_probed cfg hprobed, Facts.mysqlMode_classify] at h
    cases h

/-! ### Enumeration -/

theorem not_mem_systemSchemas {l : Listing} {d : Dialect} {n : String}
    (h : .named n ∈ l.visibleNames d) : n ∉ d.systemSchemas := by
  obtain ⟨_, _, m, hshows, hm⟩ := Listing.mem_visibleNames_iff.mp h
  cases hm
  exact hshows.2

/-- The names that a dialect may show: visible ones, or the absent name alone
    on Firebird. -/
def Dialect.Shows (d : Dialect) (names : List SchemaName) : Prop :=
  (∀ n, .named n ∈ names → n ∉ d.systemSchemas) ∧
    (.absent ∈ names ↔ d = .firebird) ∧ (d = .firebird → names = [.absent])

theorem schemaNamespace_eq_absent_iff {d : Dialect} :
    d.schemaNamespace = .absent ↔ d = .firebird := by
  cases d <;> decide

theorem systemSchemas_eq_nil {d : Dialect} (h : d.schemaNamespace ≠ .listed) :
    d.systemSchemas = [] := by
  cases d <;> first | rfl | exact absurd rfl h

theorem ne_firebird_of_schemaNamespace {d : Dialect} (h : d.schemaNamespace ≠ .absent) :
    d ≠ .firebird :=
  fun hd => h (schemaNamespace_eq_absent_iff.mpr hd)

/-- What is left of a listing may be shown. -/
theorem Dialect.shows_visibleNames {d : Dialect} (h : d.schemaNamespace = .listed)
    (l : Listing) : d.Shows (l.visibleNames d) := by
  have hd : d ≠ .firebird := ne_firebird_of_schemaNamespace (by simp [h])
  refine ⟨fun n => not_mem_systemSchemas, ?_, fun hfirebird => absurd hfirebird hd⟩
  simp [Listing.absent_not_mem_visibleNames, hd]

/-- Where schemas are not listed the one name may be shown. -/
theorem Dialect.shows_onlyName? {d : Dialect} {name : SchemaName}
    (h : d.schemaNamespace.onlyName? = some name) : d.Shows [name] := by
  rcases SchemaNamespace.onlyName?_eq_some_iff.mp h with ⟨hns, rfl⟩ | ⟨hns, rfl⟩
  · have hd : d ≠ .firebird := ne_firebird_of_schemaNamespace (by simp [hns])
    -- no internal schema is known of a product that does not list its schemas
    have hsys := systemSchemas_eq_nil (d := d) (by simp [hns])
    simp [Dialect.Shows, SchemaName.unnamed, hsys, hd]
  · simp [Dialect.Shows, schemaNamespace_eq_absent_iff.mp hns]

theorem Source.shows_names {s : Source} {cfg : Config} {names : List SchemaName}
    (h : s.names cfg = .ok names) : s.profile.dialect.Shows names := by
  by_cases hns : s.profile.dialect.schemaNamespace = .listed
  · rw [s.names_of_listed cfg hns] at h
    cases hreply : (s.detected cfg).reply .listing with
    | error e =>
      rw [hreply] at h
      cases h
    | ok l =>
      rw [hreply] at h
      cases h
      exact Dialect.shows_visibleNames hns l
  · obtain ⟨name, hname⟩ := SchemaNamespace.exists_onlyName? hns
    rw [s.names_of_onlyName? cfg hname] at h
    cases h
    exact Dialect.shows_onlyName? hname

/-! ### The catalog -/

/-- A record of a marked catalog is the record of one of the names, but for
    the mark. -/
theorem record_of_mem_mark {f : Facts} {names : List SchemaName} {wanted : SchemaName}
    {r : SchemaRecord} (h : r ∈ ((f.unmarked names).mark wanted).schemas) :
    r.name ∈ names ∧ r.quotedName = r.name.text?.map f.quote := by
  obtain ⟨b, r₀, hr₀, rfl⟩ := Catalog.exists_mem_of_mem_mark h
  obtain ⟨n, hn, rfl⟩ := List.mem_map.mp hr₀
  exact ⟨hn, rfl⟩

theorem mem_names_iff {c : Catalog} {n : SchemaName} :
    (∃ r ∈ c.schemas, r.name = n) ↔ n ∈ c.names := by
  simp [Catalog.names]

theorem wellFormed_of_stages {p : Profile} {cfg : Config} {f : Facts} {names : List SchemaName}
    (wanted : SchemaName)
    (hfacts : f.dialect = (Facts.classify p.product p.url).dialect ∧
      (f.mysqlMode = true → f.dialect = .h2 ∧ cfg.probeMode = true))
    (hnames : f.dialect.Shows names) :
    Contents.WellFormed p cfg ⟨f, (f.unmarked names).mark wanted, cfg.tableTypes⟩ := by
  obtain ⟨hvisible, habsent, halone⟩ := hnames
  -- the mark moves, the names stay
  have hshown : ∀ r ∈ ((f.unmarked names).mark wanted).schemas,
      ∀ n, r.name = .named n → n ∉ f.dialect.systemSchemas := by
    intro r hr n hn
    have hmem := (record_of_mem_mark hr).1
    rw [hn] at hmem
    exact hvisible n hmem
  constructor
  case dialect_classified => exact hfacts.1
  case probed => exact hfacts.2
  case quoted => exact fun r hr => (record_of_mem_mark hr).2
  case visible => exact hshown
  case default_visible => exact fun r hr => hshown r (List.mem_of_find?_eq_some hr)
  case one_default =>
    simp only [Catalog.countP_isDefault_mark, Catalog.schemas_mark_eq_nil_iff]
  case absent_iff => rw [mem_names_iff, Catalog.names_mark, Facts.names_unmarked, habsent]
  case absent_alone =>
    intro h
    rw [Catalog.names_mark, Facts.names_unmarked, halone h]
  case tableTypes_eq => rfl

/-- Whatever a source replies, what a pass reads through it is well-formed. -/
theorem Source.wellFormed_hold_pass {s : Source} {cfg : Config} {c : Contents}
    (h : (s.hold (pass s.profile cfg)).1 = .ok c) : c.WellFormed s.profile cfg := by
  rw [hold_pass, conclude_eq_ok_iff] at h
  obtain ⟨names, hnames, rfl⟩ := h
  refine wellFormed_of_stages (s.wanted cfg) ⟨s.dialect_facts cfg, probed_of_mysqlMode⟩ ?_
  rw [dialect_facts]
  exact shows_names hnames

end Schemata
