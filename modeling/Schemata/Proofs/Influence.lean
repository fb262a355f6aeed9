import Schemata.Proofs.Traffic

/-! # Influence

    Two passes side by side, through sources that differ in one respect:
    what can the difference change?

    - A different reply to the mode query changes how names are quoted, and
      only on H2 (`probe_influences_quoting_only`).
    - A different user, or a different listing for the default schema,
      changes which schema is marked (`default_influences_mark_only`).

    Both follow from `hold_pass`: the passes are compared stage by stage, up
    to the stage that the difference reaches. -/

namespace Schemata

variable {α β : Type}

-- The stages are what their lemmas say of them, the classification is any.
attribute [local irreducible] Facts.classify detect schemaNames defaultName

/-! ### Two endings -/

/-- Both passes fail with the same error, or both end with contents that are
    related. -/
inductive Outcome.Alike (R : Contents → Contents → Prop) : Outcome → Outcome → Prop where
  | failed (e : PassError) : Alike R (.error e) (.error e)
  | read {c₁ c₂ : Contents} (h : R c₁ c₂) : Alike R (.ok c₁) (.ok c₂)

/-- The contents are the same but for the mode of H2 and the quoted names. -/
structure Contents.SameButQuoting (c₁ c₂ : Contents) : Prop where
  facts_eq : c₂.facts = { c₁.facts with mysqlMode := c₂.facts.mysqlMode }
  tableTypes_eq : c₂.tableTypes = c₁.tableTypes
  /-- Names and marks are the same, record by record. -/
  records_eq : c₂.catalog.schemas.map (fun r => (r.name, r.isDefault)) =
    c₁.catalog.schemas.map fun r => (r.name, r.isDefault)

/-- The contents are the same but for the schema that is marked. -/
structure Contents.SameButMark (c₁ c₂ : Contents) : Prop where
  facts_eq : c₂.facts = c₁.facts
  tableTypes_eq : c₂.tableTypes = c₁.tableTypes
  /-- Names and quoted names are the same, record by record. -/
  records_eq : c₂.catalog.schemas.map (fun r => (r.name, r.quotedName)) =
    c₁.catalog.schemas.map fun r => (r.name, r.quotedName)
  /-- One schema is marked in each, if there are any. -/
  one_mark : ∀ c, c = c₁ ∨ c = c₂ →
    c.catalog.schemas.countP (·.isDefault) = if c.catalog.schemas = [] then 0 else 1

/-- Stages that come to the same names end alike if the contents of these names
    are related. -/
theorem alike_conclude {R : Contents → Contents → Prop} {f₁ f₂ : Facts} {cfg : Config}
    {w₁ w₂ : SchemaName} {names : Except MetadataError (List SchemaName)}
    (h : ∀ ns, R ⟨f₁, (f₁.unmarked ns).mark w₁, cfg.tableTypes⟩
      ⟨f₂, (f₂.unmarked ns).mark w₂, cfg.tableTypes⟩) :
    Outcome.Alike R (conclude f₁ cfg w₁ names) (conclude f₂ cfg w₂ names) := by
  cases names with
  | error e => exact .failed _
  | ok ns => exact .read (h ns)

/-- What the records of a marked catalog show: the name and the facts decide on
    the quoted name, the position decides on the mark. -/
theorem map_schemas_mark (g : SchemaRecord → β) (f : Facts) (ns : List SchemaName)
    (wanted : SchemaName) : ((f.unmarked ns).mark wanted).schemas.map g =
      ns.mapIdx fun j n => g ⟨n, n.text?.map f.quote, j == Catalog.chosenIndex ns wanted⟩ := by
  unfold Catalog.mark Catalog.markAt
  rw [Facts.names_unmarked]
  apply List.ext_getElem?
  intro j
  simp [Facts.unmarked, Facts.record, List.getElem?_mapIdx, Option.map_map, Function.comp_def]

theorem sameButQuoting_of_facts {f₁ f₂ : Facts} {mode : Bool}
    (h : f₂ = { f₁ with mysqlMode := mode }) (ns : List SchemaName) (wanted : SchemaName)
    (cfg : Config) : Contents.SameButQuoting ⟨f₁, (f₁.unmarked ns).mark wanted, cfg.tableTypes⟩
      ⟨f₂, (f₂.unmarked ns).mark wanted, cfg.tableTypes⟩ where
  facts_eq := by rw [h]
  tableTypes_eq := rfl
  records_eq := by simp only [map_schemas_mark]

theorem sameButMark_of_names (f : Facts) (ns : List SchemaName) (w₁ w₂ : SchemaName)
    (cfg : Config) : Contents.SameButMark ⟨f, (f.unmarked ns).mark w₁, cfg.tableTypes⟩
      ⟨f, (f.unmarked ns).mark w₂, cfg.tableTypes⟩ where
  facts_eq := rfl
  tableTypes_eq := rfl
  records_eq := by simp only [map_schemas_mark]
  one_mark := by
    rintro c (rfl | rfl)
    · simp only [Catalog.countP_isDefault_mark, Catalog.schemas_mark_eq_nil_iff]
    · simp only [Catalog.countP_isDefault_mark, Catalog.schemas_mark_eq_nil_iff]

/-! ### Sources that list alike -/

/-- The inquiry asks for listings only. -/
def Inquiry.OnlyLists : Inquiry α → Prop
  | .done _ => True
  | .ask c next => c = .listing ∧ ∀ r, (next r).OnlyLists

namespace Source

/-- The sources reply alike to every listing, if they are called alike from now
    on. -/
def ListAlike (s₁ s₂ : Source) : Prop :=
  ∀ made, (s₁.afterAll made).reply .listing = (s₂.afterAll made).reply .listing

variable {s₁ s₂ : Source}

theorem ListAlike.afterAll (h : s₁.ListAlike s₂) (calls : List Call) :
    (s₁.afterAll calls).ListAlike (s₂.afterAll calls) := by
  intro made
  rw [← afterAll_append, ← afterAll_append]
  exact h (calls ++ made)

/-- Sources that list alike lead the same dialogue where only listings are asked
    for. -/
theorem ListAlike.dialogue {q : Inquiry α} (h : s₁.ListAlike s₂) (hq : q.OnlyLists) :
    s₁.exchanges q = s₂.exchanges q ∧ (s₁.hold q).1 = (s₂.hold q).1 := by
  induction q generalizing s₁ s₂ with
  | done a => exact ⟨rfl, rfl⟩
  | ask c next ih =>
    obtain ⟨rfl, hnext⟩ := hq
    have hreply : s₁.reply .listing = s₂.reply .listing := by
      simpa using h []
    have hafter : (s₁.after .listing).ListAlike (s₂.after .listing) := h.afterAll [.listing]
    obtain ⟨hexchanges, hhold⟩ := ih _ hafter (hnext (s₂.reply .listing))
    refine ⟨?_, ?_⟩
    · rw [exchanges_ask, exchanges_ask, hreply, hexchanges]
    · rw [hold_ask, hold_ask, hreply, hhold]

end Source

/-! ### Stages that only list -/

theorem onlyLists_schemaNames (f : Facts) : (schemaNames f).OnlyLists := by
  by_cases h : f.dialect.schemaNamespace = .listed
  · rw [schemaNames_of_listed h]
    exact ⟨rfl, fun _ => trivial⟩
  · obtain ⟨name, hname⟩ := schemaNames_of_not_listed h
    rw [hname]
    trivial

theorem onlyLists_defaultName (f : Facts) (user : String) : (defaultName f user).OnlyLists := by
  by_cases h : f.dialect.defaultRule = .listing
  · rw [defaultName_of_listing user h]
    exact ⟨rfl, fun _ => trivial⟩
  · rw [defaultName_of_not_listing user h]
    trivial

/-! ### The mode of H2 -/

theorem schemaNames_mode (f : Facts) (mode : Bool) :
    schemaNames { f with mysqlMode := mode } = schemaNames f := by
  unfold schemaNames
  rfl

theorem defaultName_mode (f : Facts) (mode : Bool) (user : String) :
    defaultName { f with mysqlMode := mode } user = defaultName f user := by
  unfold defaultName
  rfl

/-- Off H2 the mode does not matter for quoting. -/
theorem quote_mode_of_ne {f : Facts} (h : f.dialect ≠ .h2) (mode : Bool) :
    ({ f with mysqlMode := mode } : Facts).quote = f.quote := by
  have hmode : ({ f with mysqlMode := mode } : Facts).dialect ≠ .h2 := h
  rw [Facts.quote_of_ne_h2 hmode, Facts.quote_of_ne_h2 h]

/-- On H2 it does: delimited and folded, the empty identifier differs. -/
theorem quote_mode_iff (f : Facts) :
    ({ f with mysqlMode := !f.mysqlMode } : Facts).quote = f.quote ↔ f.dialect ≠ .h2 := by
  refine ⟨?_, fun h => quote_mode_of_ne h _⟩
  intro heq h
  have hempty := congrFun heq ""
  have hdelimited : Identifier.delimited "" ≠ Identifier.folded "" := by decide +kernel
  cases hmode : f.mysqlMode with
  | false => exact hdelimited (by simpa [Facts.quote, Facts.isPlainH2, h, hmode] using hempty.symm)
  | true => exact hdelimited (by simpa [Facts.quote, Facts.isPlainH2, h, hmode] using hempty)

namespace Source

variable {s₁ s₂ : Source}

/-- With the same profile detection finds out the same but for the mode. -/
theorem facts_eq_of_profile (h : s₁.profile = s₂.profile) (cfg : Config) :
    s₂.facts cfg = { s₁.facts cfg with mysqlMode := (s₂.facts cfg).mysqlMode } := by
  obtain ⟨mode₁, hfacts₁⟩ := s₁.exists_facts_eq cfg
  obtain ⟨mode₂, hfacts₂⟩ := s₂.exists_facts_eq cfg
  rw [hfacts₁, hfacts₂, h]

/-- The stages after detection read no mode. -/
theorem stages_of_profile (h : s₁.profile = s₂.profile) (cfg : Config) :
    schemaNames (s₂.facts cfg) = schemaNames (s₁.facts cfg) ∧
      defaultName (s₂.facts cfg) s₂.profile.user =
        defaultName (s₁.facts cfg) s₁.profile.user := by
  rw [facts_eq_of_profile h cfg, h]
  exact ⟨schemaNames_mode _ _, defaultName_mode _ _ _⟩

theorem ListAlike.detected (h : s₁.ListAlike s₂) (hprofile : s₁.profile = s₂.profile)
    (cfg : Config) : (s₁.detected cfg).ListAlike (s₂.detected cfg) := by
  rw [detected_eq, detected_eq, hprofile]
  exact h.afterAll _

theorem ListAlike.enumerated (h : s₁.ListAlike s₂) (hprofile : s₁.profile = s₂.profile)
    (cfg : Config) : (s₁.enumerated cfg).ListAlike (s₂.enumerated cfg) := by
  rw [enumerated_eq, enumerated_eq, hprofile]
  exact (h.detected hprofile cfg).afterAll _

/-- Sources that list alike bring the stages after detection to the same names,
    whatever mode was detected. -/
theorem ListAlike.stages (h : s₁.ListAlike s₂) (hprofile : s₁.profile = s₂.profile)
    (cfg : Config) :
    s₁.names cfg = s₂.names cfg ∧ s₁.wanted cfg = s₂.wanted cfg := by
  obtain ⟨hschemaNames, hdefaultName⟩ := stages_of_profile hprofile cfg
  refine ⟨?_, ?_⟩
  · unfold names
    rw [hschemaNames]
    exact ((h.detected hprofile cfg).dialogue (onlyLists_schemaNames _)).2
  · unfold wanted
    rw [hdefaultName]
    exact ((h.enumerated hprofile cfg).dialogue (onlyLists_defaultName _ _)).2

/-- Where nothing is probed for, they lead the same dialogue throughout. -/
theorem ListAlike.exchanges_pass_eq (h : s₁.ListAlike s₂) (hprofile : s₁.profile = s₂.profile)
    {cfg : Config} (hprobe : ¬(s₁.profile.dialect = .h2 ∧ cfg.probeMode = true)) :
    s₁.exchanges (pass s₁.profile cfg) = s₂.exchanges (pass s₂.profile cfg) := by
  obtain ⟨hschemaNames, hdefaultName⟩ := stages_of_profile hprofile cfg
  have hdetect : s₁.exchanges (detect s₁.profile cfg.probeMode) =
      s₂.exchanges (detect s₂.profile cfg.probeMode) := by
    rw [← hprofile, detect_of_not_probed hprobe]
    rfl
  have henumerate := ((h.detected hprofile cfg).dialogue (onlyLists_schemaNames (s₁.facts cfg))).1
  have hresolve := ((h.enumerated hprofile cfg).dialogue
    (onlyLists_defaultName (s₁.facts cfg) s₁.profile.user)).1
  rw [exchanges_pass, exchanges_pass, hasSchemas_hold_pass, hasSchemas_hold_pass,
    (h.stages hprofile cfg).1, hschemaNames, hdefaultName, hdetect, henumerate, hresolve]

/-- **Probe.** Two sources have the same profile and list alike, but reply to
    queries as they like. Off H2, or without a probe, passes through them are
    one and the same dialogue with one outcome. With a probe they make the
    same calls and end alike, but for the mode and the quoted names. No
    function of the facts reads the mode but the one that quotes, and that one
    on H2 only. -/
theorem probe_influences_quoting_only (hprofile : s₁.profile = s₂.profile)
    (hlists : s₁.ListAlike s₂) (cfg : Config) :
    (¬(s₁.profile.dialect = .h2 ∧ cfg.probeMode = true) →
      s₁.exchanges (pass s₁.profile cfg) = s₂.exchanges (pass s₂.profile cfg) ∧
        (s₁.hold (pass s₁.profile cfg)).1 = (s₂.hold (pass s₂.profile cfg)).1) ∧
      s₁.asked (pass s₁.profile cfg) = s₂.asked (pass s₂.profile cfg) ∧
      Outcome.Alike Contents.SameButQuoting (s₁.hold (pass s₁.profile cfg)).1
        (s₂.hold (pass s₂.profile cfg)).1 ∧
      ∀ (f : Facts) (mode : Bool),
        let f' : Facts := { f with mysqlMode := mode }
        schemaNames f' = schemaNames f ∧
          (∀ l : Listing, l.visibleNames f'.dialect = l.visibleNames f.dialect) ∧
          (∀ user, defaultName f' user = defaultName f user) ∧
          (f.dialect ≠ .h2 → f'.quote = f.quote) ∧
          (({ f with mysqlMode := !f.mysqlMode } : Facts).quote = f.quote ↔ f.dialect ≠ .h2) := by
  obtain ⟨hnames, hwanted⟩ := hlists.stages hprofile cfg
  refine ⟨?_, ?_, ?_, ?_⟩
  · intro hprobe
    refine ⟨hlists.exchanges_pass_eq hprofile hprobe, ?_⟩
    have hprobe' : ¬(s₂.profile.dialect = .h2 ∧ cfg.probeMode = true) := by
      rwa [← hprofile]
    rw [hold_pass, hold_pass, hnames, hwanted, s₁.facts_of_not_probed cfg hprobe,
      s₂.facts_of_not_probed cfg hprobe', hprofile]
  · -- which calls a pass makes, the names decide once the profile is given
    rw [asked_pass, asked_pass, passCalls, passCalls, hasSchemas_hold_pass, hasSchemas_hold_pass,
      hnames, hprofile]
  · rw [hold_pass, hold_pass, hnames, hwanted]
    have hfacts := facts_eq_of_profile hprofile cfg
    exact alike_conclude fun ns => sameButQuoting_of_facts hfacts ns _ cfg
  · intro f mode f'
    exact ⟨schemaNames_mode f mode, fun l => rfl, defaultName_mode f mode,
      fun h => quote_mode_of_ne h mode, quote_mode_iff f⟩

/-- Two sources of one H2 database, with a schema that is not flagged, one of
    which reports the mode of MySQL while the other fails to answer. -/
theorem probe_influences_quoting_of_h2 :
    let set : List Setting := [.url "jdbc:h2:mem:test", .user "sa",
      .flagged [("INFORMATION_SCHEMA", false), ("Public", true)]]
    let s₁ := (Source.inMemory "H2").setAll (set ++
      [.result modeQuery (.ofRows ["VALUE"] [[.text "MYSQL"]])])
    let s₂ := (Source.inMemory "H2").setAll (set ++ [.failure modeQuery "denied"])
    s₁.profile = s₂.profile ∧ s₁.ListAlike s₂ ∧
      s₁.asked (pass s₁.profile {}) = s₂.asked (pass s₂.profile {}) ∧
      Outcome.Alike Contents.SameButQuoting (s₁.hold (pass s₁.profile {})).1
        (s₂.hold (pass s₂.profile {})).1 := by
  intro set s₁ s₂
  have hprofile : s₁.profile = s₂.profile := rfl
  have hlists : s₁.ListAlike s₂ := fun _ => rfl
  obtain ⟨_, hasked, halike, _⟩ := probe_influences_quoting_only hprofile hlists {}
  exact ⟨hprofile, hlists, hasked, halike⟩

end Source

/-! ### The default schema -/

namespace Source

variable {s₁ s₂ : Source} {cfg : Config}

/-- Detection reads product, URL and the reply to a query. -/
theorem facts_congr (hproduct : s₁.profile.product = s₂.profile.product)
    (hurl : s₁.profile.url = s₂.profile.url)
    (hquery : ∀ text, s₁.reply (.query text) = s₂.reply (.query text)) :
    s₁.facts cfg = s₂.facts cfg := by
  rw [facts_eq, facts_eq, hproduct, hurl, hquery]

/-- Enumeration reads the facts and, where schemas are listed, the first
    listing. -/
theorem names_congr (hfacts : s₁.facts cfg = s₂.facts cfg)
    (hfirst : s₁.profile.dialect.schemaNamespace = .listed →
      s₁.firstListing? (pass s₁.profile cfg) = s₂.firstListing? (pass s₂.profile cfg)) :
    s₁.names cfg = s₂.names cfg := by
  have hdialect : s₁.profile.dialect = s₂.profile.dialect := by
    rw [← dialect_facts s₁ cfg, hfacts, dialect_facts]
  by_cases h : s₁.profile.dialect.schemaNamespace = .listed
  · have h' : s₂.profile.dialect.schemaNamespace = .listed := by
      rwa [← hdialect]
    have hreply := hfirst h
    rw [firstListing?_pass s₁ cfg h, firstListing?_pass s₂ cfg h', Option.some.injEq] at hreply
    rw [names_of_listed s₁ cfg h, names_of_listed s₂ cfg h', hreply, hdialect]
  · have h' : (s₂.facts cfg).dialect.schemaNamespace ≠ .listed := by
      rwa [dialect_facts, ← hdialect]
    obtain ⟨name, hname⟩ := schemaNames_of_not_listed h'
    unfold names
    rw [hfacts, hname]
    rfl

/-- A rule that needs no listing reads the user at most. -/
theorem wanted_congr_of_rule {d : Dialect} (hd₁ : s₁.profile.dialect = d)
    (hd₂ : s₂.profile.dialect = d) (hrule : d.defaultRule ≠ .listing)
    (hname : d.defaultRule.name s₁.profile.user = d.defaultRule.name s₂.profile.user) :
    s₁.wanted cfg = s₂.wanted cfg := by
  subst hd₁
  have hrule' : s₂.profile.dialect.defaultRule ≠ .listing := by
    rwa [hd₂]
  rw [wanted_of_not_listing s₁ cfg hrule, wanted_of_not_listing s₂ cfg hrule', hname, hd₂]

/-- The rule of the listing reads the last listing, if there is a schema. -/
theorem wanted_congr_of_listing (hdialect : s₁.profile.dialect = s₂.profile.dialect)
    (hnames : s₁.names cfg = s₂.names cfg) (hrule : s₁.profile.dialect.defaultRule = .listing)
    (hschemas : (s₁.hold (pass s₁.profile cfg)).1.hasSchemas = true)
    (hlast : s₁.lastListing? (pass s₁.profile cfg) = s₂.lastListing? (pass s₂.profile cfg)) :
    s₁.wanted cfg = s₂.wanted cfg := by
  have hrule' : s₂.profile.dialect.defaultRule = .listing := by
    rwa [← hdialect]
  have hschemas' : (s₂.hold (pass s₂.profile cfg)).1.hasSchemas = true := by
    rw [hasSchemas_hold_pass] at hschemas ⊢
    rwa [← hnames]
  rw [lastListing?_pass s₁ cfg hrule hschemas, lastListing?_pass s₂ cfg hrule' hschemas',
    Option.some.injEq] at hlast
  rw [wanted_of_listing s₁ cfg hrule, wanted_of_listing s₂ cfg hrule', hlast]

/-- Where there is at most one schema, the wanted name does not matter. -/
theorem conclude_eq_of_length_le_one {f : Facts} {names : Except MetadataError (List SchemaName)}
    {w w' : SchemaName}
    (h : ∀ c, conclude f cfg w names = .ok c → c.catalog.schemas.length ≤ 1) :
    conclude f cfg w names = conclude f cfg w' names := by
  cases names with
  | error e => rfl
  | ok ns =>
    have hlength : (f.unmarked ns).schemas.length ≤ 1 := by
      simpa using h _ rfl
    have hmark := Catalog.mark_eq_of_length_le_one hlength w w'
    simp only [conclude, hmark]

/-- **Default schema.** Two sources have the same product and URL, reply alike to
    the query and, where schemas are listed, to the first listing of a pass.
    Their users and the listings that default resolution reads are any. Passes
    through them end alike, but for the schema that is marked; and the mark is
    the same where there is at most one schema, where the dialect fixes the
    default, where it takes it from the user and the users are the same, and
    where it takes it from the listing and the last listings are the same. -/
theorem default_influences_mark_only
    (hproduct : s₁.profile.product = s₂.profile.product)
    (hurl : s₁.profile.url = s₂.profile.url)
    (hquery : ∀ text, s₁.reply (.query text) = s₂.reply (.query text))
    (hfirst : s₁.profile.dialect.schemaNamespace = .listed →
      s₁.firstListing? (pass s₁.profile cfg) = s₂.firstListing? (pass s₂.profile cfg)) :
    let d := s₁.profile.dialect
    let o₁ := (s₁.hold (pass s₁.profile cfg)).1
    let o₂ := (s₂.hold (pass s₂.profile cfg)).1
    Outcome.Alike Contents.SameButMark o₁ o₂ ∧
      ((∀ c, o₁ = .ok c → c.catalog.schemas.length ≤ 1) → o₁ = o₂) ∧
      (d = .postgreSql ∨ d = .mySql ∨ d = .firebird → o₁ = o₂) ∧
      (d = .oracle ∨ d = .derby → s₁.profile.user = s₂.profile.user → o₁ = o₂) ∧
      (d = .h2 ∨ d = .sqlServer ∨ d = .sqlite ∨ d = .generic →
        s₁.lastListing? (pass s₁.profile cfg) = s₂.lastListing? (pass s₂.profile cfg) →
        o₁ = o₂) := by
  intro d o₁ o₂
  have hfacts : s₁.facts cfg = s₂.facts cfg := facts_congr hproduct hurl hquery
  have hnames : s₁.names cfg = s₂.names cfg := names_congr hfacts hfirst
  have hd₁ : s₁.profile.dialect = d := rfl
  have hd₂ : s₂.profile.dialect = d := (Profile.dialect_congr hproduct hurl).symm
  -- the two outcomes differ in the wanted name at most
  have ho₁ : o₁ = conclude (s₂.facts cfg) cfg (s₁.wanted cfg) (s₂.names cfg) := by
    rw [← hfacts, ← hnames]
    exact s₁.hold_pass cfg
  have ho₂ : o₂ = conclude (s₂.facts cfg) cfg (s₂.wanted cfg) (s₂.names cfg) := s₂.hold_pass cfg
  have hone : (∀ c, o₁ = .ok c → c.catalog.schemas.length ≤ 1) → o₁ = o₂ := by
    rw [ho₁, ho₂]
    exact conclude_eq_of_length_le_one
  have hsame : s₁.wanted cfg = s₂.wanted cfg → o₁ = o₂ := by
    intro h
    rw [ho₁, ho₂, h]
  refine ⟨?_, hone, ?_, ?_, ?_⟩
  · rw [ho₁, ho₂]
    exact alike_conclude fun ns => sameButMark_of_names _ ns _ _ cfg
  · intro hd
    apply hsame
    apply wanted_congr_of_rule hd₁ hd₂
    · rcases hd with hd | hd | hd <;> rw [hd] <;> decide
    · rcases hd with hd | hd | hd <;> rw [hd] <;> rfl
  · intro hd huser
    apply hsame
    apply wanted_congr_of_rule hd₁ hd₂
    · rcases hd with hd | hd <;> rw [hd] <;> decide
    · exact congrArg d.defaultRule.name huser
  · intro hd hlast
    by_cases hschemas : o₁.hasSchemas = true
    · have hrule : d.defaultRule = .listing := by
        rcases hd with hd | hd | hd | hd <;> rw [hd] <;> rfl
      exact hsame (wanted_congr_of_listing hd₂.symm hnames hrule hschemas hlast)
    · -- nothing is asked for the default where there is nothing to mark
      apply hone
      intro c hc
      rw [hc] at hschemas
      have hempty : c.catalog.schemas = [] := by
        simpa [Outcome.hasSchemas] using hschemas
      simp [hempty]

/-- Two users of one H2 database: the listing for the default schema flags a
    schema for one of them and fails for the other. -/
theorem default_influences_mark_of_h2 :
    let l := Listing.ofNames ["Public", "A"]
    let s₁ := Source.scripted ⟨"H2", some "jdbc:h2:mem:test", "sa"⟩
      ⟨[.ok l, .ok (.ofFlagged [("A", false), ("Public", true)])], [.error (.query "denied")]⟩
    let s₂ := Source.scripted ⟨"H2", some "jdbc:h2:mem:test", "ann"⟩
      ⟨[.ok l, .error (.metadata "gone")], [.error (.query "denied")]⟩
    s₁.profile.product = s₂.profile.product ∧ s₁.profile.url = s₂.profile.url ∧
      (∀ text, s₁.reply (.query text) = s₂.reply (.query text)) ∧
      (s₁.profile.dialect.schemaNamespace = .listed →
        s₁.firstListing? (pass s₁.profile {}) = s₂.firstListing? (pass s₂.profile {})) ∧
      Outcome.Alike Contents.SameButMark (s₁.hold (pass s₁.profile {})).1
        (s₂.hold (pass s₂.profile {})).1 := by
  intro l s₁ s₂
  have hproduct : s₁.profile.product = s₂.profile.product := rfl
  have hurl : s₁.profile.url = s₂.profile.url := rfl
  have hquery : ∀ text, s₁.reply (.query text) = s₂.reply (.query text) := fun _ => rfl
  have hfirst : s₁.profile.dialect.schemaNamespace = .listed →
      s₁.firstListing? (pass s₁.profile {}) = s₂.firstListing? (pass s₂.profile {}) := by
    intro h
    have hd₁ : s₁.profile.dialect = .h2 := by decide +kernel
    have hd₂ : s₂.profile.dialect = .h2 := by decide +kernel
    rw [firstListing?_pass s₁ {} h, firstListing?_pass s₂ {} h, detected_eq, detected_eq, hd₁, hd₂]
    rfl
  obtain ⟨halike, _⟩ := default_influences_mark_only hproduct hurl hquery hfirst
  exact ⟨hproduct, hurl, hquery, hfirst, halike⟩

end Source

/-! ### Listings that read alike -/

/-- The replies to a listing read alike: they show the same names, or are the same
    error, and they flag the same name. -/
structure ReadAlike (d : Dialect) (r r' : Reply) : Prop where
  names_eq : r'.map (·.visibleNames d) = r.map (·.visibleNames d)
  flagged_eq : flaggedReply r' = flaggedReply r

namespace Source

variable {s s' : Source} {cfg : Config}

/-- Enumeration reads the names that are shown. -/
theorem names_eq_of_readAlike (hfacts : s'.facts cfg = s.facts cfg)
    (hdetected : ReadAlike s.profile.dialect ((s.detected cfg).reply .listing)
      ((s'.detected cfg).reply .listing)) : s'.names cfg = s.names cfg := by
  have hdialect : s'.profile.dialect = s.profile.dialect := by
    rw [← dialect_facts s' cfg, hfacts, dialect_facts]
  by_cases hlisted : s.profile.dialect.schemaNamespace = .listed
  · have hlisted' : s'.profile.dialect.schemaNamespace = .listed := by
      rwa [hdialect]
    rw [names_of_listed s' cfg hlisted', names_of_listed s cfg hlisted, hdialect,
      hdetected.names_eq]
  · -- no listing is read
    have hnot : s'.profile.dialect.schemaNamespace ≠ .listed := by
      rwa [hdialect]
    exact names_congr hfacts fun h => absurd h hnot

/-- Default resolution reads the name that is flagged. -/
theorem wanted_eq_of_readAlike (hprofile : s'.profile = s.profile)
    (henumerated : ReadAlike s.profile.dialect ((s.enumerated cfg).reply .listing)
      ((s'.enumerated cfg).reply .listing)) : s'.wanted cfg = s.wanted cfg := by
  by_cases hrule : s.profile.dialect.defaultRule = .listing
  · have hrule' : s'.profile.dialect.defaultRule = .listing := by
      rwa [hprofile]
    rw [wanted_of_listing s' cfg hrule', wanted_of_listing s cfg hrule, henumerated.flagged_eq]
  · have hdialect : s'.profile.dialect = s.profile.dialect := by
      rw [hprofile]
    have hname : s.profile.dialect.defaultRule.name s'.profile.user =
        s.profile.dialect.defaultRule.name s.profile.user := by
      rw [hprofile]
    exact wanted_congr_of_rule hdialect rfl hrule hname

/-- Sources whose listings read alike, call by call, lead passes to the same
    outcome by the same calls. -/
theorem pass_eq_of_readAlike (hprofile : s'.profile = s.profile)
    (hquery : ∀ text, s'.reply (.query text) = s.reply (.query text))
    (hlists : ∀ made, ReadAlike s.profile.dialect ((s.afterAll made).reply .listing)
      ((s'.afterAll made).reply .listing)) (cfg : Config) :
    (s'.hold (pass s'.profile cfg)).1 = (s.hold (pass s.profile cfg)).1 ∧
      s'.asked (pass s'.profile cfg) = s.asked (pass s.profile cfg) := by
  have hproduct : s'.profile.product = s.profile.product := congrArg Profile.product hprofile
  have hurl : s'.profile.url = s.profile.url := congrArg Profile.url hprofile
  have hfacts : s'.facts cfg = s.facts cfg := facts_congr hproduct hurl hquery
  have hnames : s'.names cfg = s.names cfg := by
    apply names_eq_of_readAlike hfacts
    rw [detected_eq, detected_eq, hprofile]
    exact hlists _
  have hwanted : s'.wanted cfg = s.wanted cfg := by
    apply wanted_eq_of_readAlike hprofile
    rw [enumerated_eq, enumerated_eq, detected_eq, detected_eq, hprofile, ← afterAll_append,
      ← afterAll_append]
    exact hlists _
  have houtcome : (s'.hold (pass s'.profile cfg)).1 = (s.hold (pass s.profile cfg)).1 := by
    rw [hold_pass, hold_pass, hfacts, hnames, hwanted]
  -- whether the default is asked for, the outcome tells
  have hasked : s'.asked (pass s'.profile cfg) = s.asked (pass s.profile cfg) := by
    rw [asked_pass, asked_pass, houtcome, hprofile]
  exact ⟨houtcome, hasked⟩

end Source

end Schemata
