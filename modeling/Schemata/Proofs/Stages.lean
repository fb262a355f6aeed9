import Schemata.Pass
import Schemata.Proofs.Dialogue

/-! # The stages of a pass

    A pass asks three things of its source, in this order: the mode of H2,
    the schemas, and the default schema. For each stage this module says

    - what it asks (`Dialect.detectionCalls`, `Dialect.enumerationCalls`,
      `Dialect.resolutionCalls`), whatever the source replies,
    - what it comes to with a source (`Source.facts`, `Source.names`,
      `Source.wanted`), the source being the one that the stage before has
      left.

    `hold_pass` and `exchanges_pass` put the stages together: how a pass
    ends, and which dialogue it has led. All that is proved of passes rests
    on these two and not on how a pass is put together. -/

namespace Schemata

/-! ### What a stage asks -/

/-- The dialect that a profile tells. -/
def Profile.dialect (p : Profile) : Dialect := (Facts.classify p.product p.url).dialect

namespace Dialect

/-- Detection asks H2 for its mode, if `probe` is set. -/
def detectionCalls (d : Dialect) (probe : Bool) : List Call :=
  if d = .h2 ∧ probe = true then [.query modeQuery] else []

/-- Enumeration asks for the listing where schemas are listed. -/
def enumerationCalls (d : Dialect) : List Call :=
  if d.schemaNamespace = .listed then [.listing] else []

/-- Default resolution asks for the listing where the listing flags the
    default. -/
def resolutionCalls (d : Dialect) : List Call :=
  if d.defaultRule = .listing then [.listing] else []

end Dialect

theorem Dialect.isListing_of_mem_detectionCalls {d : Dialect} {probe : Bool} {c : Call}
    (h : c ∈ d.detectionCalls probe) : c.isListing = false := by
  unfold detectionCalls at h
  split at h
  · rw [List.mem_singleton.mp h]
    rfl
  · cases h

/-- Off H2, or without a probe, detection asks nothing. -/
theorem detect_of_not_probed {p : Profile} {probe : Bool} (h : ¬(p.dialect = .h2 ∧ probe = true)) :
    detect p probe = .done (Facts.classify p.product p.url) := by
  unfold Profile.dialect at h
  unfold detect
  generalize Facts.classify p.product p.url = facts at h ⊢
  have hfalse : (decide (facts.dialect = .h2) && probe) = false := by
    simpa using h
  simp [hfalse]

/-- With a probe, detection asks H2 for its mode and believes the reply. -/
theorem detect_of_probed {p : Profile} {probe : Bool} (h : p.dialect = .h2 ∧ probe = true) :
    detect p probe = .ask (.query modeQuery) fun r =>
      .done ((Facts.classify p.product p.url).withMysqlMode (reportsMysqlMode r)) := by
  unfold Profile.dialect at h
  unfold detect
  generalize Facts.classify p.product p.url = facts at h ⊢
  have htrue : (decide (facts.dialect = .h2) && probe) = true := by
    simpa using h
  simp [htrue]

theorem Profile.dialect_congr {p p' : Profile} (hproduct : p.product = p'.product)
    (hurl : p.url = p'.url) : p.dialect = p'.dialect := by
  unfold Profile.dialect
  rw [hproduct, hurl]

theorem schemaNames_of_listed {f : Facts} (h : f.dialect.schemaNamespace = .listed) :
    schemaNames f = .ask .listing fun r => .done (r.map (·.visibleNames f.dialect)) := by
  unfold schemaNames
  rw [h]
  rfl

/-- The one name of a product whose schemas are not listed. -/
def SchemaNamespace.onlyName? : SchemaNamespace → Option SchemaName
  | .listed => none
  | .unnamed => some .unnamed
  | .absent => some .absent

theorem SchemaNamespace.exists_onlyName? {ns : SchemaNamespace} (h : ns ≠ .listed) :
    ∃ name, ns.onlyName? = some name := by
  cases ns with
  | listed => exact absurd rfl h
  | unnamed => exact ⟨_, rfl⟩
  | absent => exact ⟨_, rfl⟩

theorem SchemaNamespace.onlyName?_eq_some_iff {ns : SchemaNamespace} {name : SchemaName} :
    ns.onlyName? = some name ↔
      ns = .unnamed ∧ name = .unnamed ∨ ns = .absent ∧ name = .absent := by
  cases ns <;> simp [onlyName?, eq_comm]

theorem schemaNames_of_onlyName? {f : Facts} {name : SchemaName}
    (h : f.dialect.schemaNamespace.onlyName? = some name) :
    schemaNames f = .done (.ok [name]) := by
  unfold schemaNames
  rcases SchemaNamespace.onlyName?_eq_some_iff.mp h with ⟨hns, rfl⟩ | ⟨hns, rfl⟩
  · rw [hns]
    rfl
  · rw [hns]
    rfl

/-- Where schemas are not listed there is one name, and nothing is asked. -/
theorem schemaNames_of_not_listed {f : Facts} (h : f.dialect.schemaNamespace ≠ .listed) :
    ∃ name, schemaNames f = .done (.ok [name]) := by
  obtain ⟨name, hname⟩ := SchemaNamespace.exists_onlyName? h
  exact ⟨name, schemaNames_of_onlyName? hname⟩

theorem defaultName_of_listing {f : Facts} (user : String) (h : f.dialect.defaultRule = .listing) :
    defaultName f user = .ask .listing fun r => .done (flaggedReply r) := by
  unfold defaultName
  rw [h]
  rfl

/-- The name of the default schema by a rule that needs no listing; the user
    name counts for some rules only. -/
def DefaultRule.name (user : String) : DefaultRule → SchemaName
  | .userName => .named user
  | .upperUserName => .named (Text.upper user)
  | .fixed name => .named name
  | .absent => .absent
  | .listing => .unnamed

theorem defaultName_of_not_listing {f : Facts} (user : String)
    (h : f.dialect.defaultRule ≠ .listing) :
    defaultName f user = .done (f.dialect.defaultRule.name user) := by
  unfold defaultName
  cases hrule : f.dialect.defaultRule with
  | listing => exact absurd hrule h
  | userName => rfl
  | upperUserName => rfl
  | fixed name => rfl
  | absent => rfl

-- No proof below depends on how a product is classified; unfolding it where
-- terms are compared would take its tables apart.
attribute [local irreducible] Facts.classify

namespace Source

variable (s : Source)

theorem asked_detect (p : Profile) (probe : Bool) :
    s.asked (detect p probe) = p.dialect.detectionCalls probe := by
  unfold Dialect.detectionCalls
  by_cases h : p.dialect = .h2 ∧ probe = true
  · rw [detect_of_probed h, if_pos h]
    rfl
  · rw [detect_of_not_probed h, if_neg h]
    rfl

/-- Detection asks for no listing. -/
theorem isListing_of_mem_exchanges_detect {p : Profile} {probe : Bool} {x : Call × Reply}
    (h : x ∈ s.exchanges (detect p probe)) : x.1.isListing = false := by
  have hasked : x.1 ∈ s.asked (detect p probe) := List.mem_map_of_mem h
  rw [asked_detect] at hasked
  exact Dialect.isListing_of_mem_detectionCalls hasked

theorem asked_schemaNames (f : Facts) :
    s.asked (schemaNames f) = f.dialect.enumerationCalls := by
  unfold Dialect.enumerationCalls
  by_cases h : f.dialect.schemaNamespace = .listed
  · rw [schemaNames_of_listed h, if_pos h]
    rfl
  · obtain ⟨name, hname⟩ := schemaNames_of_not_listed h
    rw [hname, if_neg h]
    rfl

theorem asked_defaultName (f : Facts) (user : String) :
    s.asked (defaultName f user) = f.dialect.resolutionCalls := by
  unfold Dialect.resolutionCalls
  by_cases h : f.dialect.defaultRule = .listing
  · rw [defaultName_of_listing user h, if_pos h]
    rfl
  · rw [defaultName_of_not_listing user h, if_neg h]
    rfl

end Source

/-! ### What a stage comes to -/

-- From here on a stage is what the lemmas above say of it.
attribute [local irreducible] detect schemaNames defaultName

namespace Source

variable (s : Source) (cfg : Config)

/-- What detection finds out. -/
def facts : Facts := (s.hold (detect s.profile cfg.probeMode)).1

/-- The source after detection. -/
def detected : Source := (s.hold (detect s.profile cfg.probeMode)).2

/-- The names that enumeration comes to, or the error of the listing. -/
def names : Except MetadataError (List SchemaName) :=
  ((s.detected cfg).hold (schemaNames (s.facts cfg))).1

/-- The source after detection and enumeration. -/
def enumerated : Source := ((s.detected cfg).hold (schemaNames (s.facts cfg))).2

/-- The name that default resolution comes to after that. -/
def wanted : SchemaName :=
  ((s.enumerated cfg).hold (defaultName (s.facts cfg) s.profile.user)).1

/-- Detection keeps what product and URL tell, and sets the mode that was probed
    for. -/
theorem hold_detect (p : Profile) (probe : Bool) :
    (s.hold (detect p probe)).1 = (Facts.classify p.product p.url).withMysqlMode
      (probe && reportsMysqlMode (s.reply (.query modeQuery))) := by
  by_cases h : p.dialect = .h2 ∧ probe = true
  · rw [detect_of_probed h, h.2, Bool.true_and]
    rfl
  · rw [detect_of_not_probed h]
    refine (Facts.withMysqlMode_of_off (Facts.mysqlMode_classify _ _) ?_).symm
    rw [Bool.and_eq_true]
    exact fun hon => h ⟨hon.1, hon.2.1⟩

@[simp] theorem dialect_hold_detect (p : Profile) (probe : Bool) :
    (s.hold (detect p probe)).1.dialect = p.dialect := by
  rw [hold_detect]
  rfl

theorem facts_eq : s.facts cfg =
    (Facts.classify s.profile.product s.profile.url).withMysqlMode
      (cfg.probeMode && reportsMysqlMode (s.reply (.query modeQuery))) :=
  s.hold_detect s.profile cfg.probeMode

/-- Off H2, or without a probe, detection finds out what product and URL tell. -/
theorem facts_of_not_probed (h : ¬(s.profile.dialect = .h2 ∧ cfg.probeMode = true)) :
    s.facts cfg = Facts.classify s.profile.product s.profile.url := by
  rw [facts, detect_of_not_probed h]
  rfl

/-- What detection finds out is what product and URL tell, but for the mode. -/
theorem exists_facts_eq : ∃ mode,
    s.facts cfg = { Facts.classify s.profile.product s.profile.url with mysqlMode := mode } := by
  rw [facts_eq]
  exact ⟨_, rfl⟩

@[simp] theorem dialect_facts : (s.facts cfg).dialect = s.profile.dialect :=
  s.dialect_hold_detect s.profile cfg.probeMode

theorem detected_eq :
    s.detected cfg = s.afterAll (s.profile.dialect.detectionCalls cfg.probeMode) := by
  rw [detected, hold_snd, asked_detect]

theorem enumerated_eq :
    s.enumerated cfg = (s.detected cfg).afterAll s.profile.dialect.enumerationCalls := by
  rw [enumerated, hold_snd, asked_schemaNames, dialect_facts]

theorem names_of_listed (h : s.profile.dialect.schemaNamespace = .listed) :
    s.names cfg =
      ((s.detected cfg).reply .listing).map (·.visibleNames s.profile.dialect) := by
  have hlisted : (s.facts cfg).dialect.schemaNamespace = .listed := by
    rwa [dialect_facts]
  rw [names, schemaNames_of_listed hlisted, dialect_facts]
  rfl

theorem names_of_onlyName? {name : SchemaName}
    (h : s.profile.dialect.schemaNamespace.onlyName? = some name) : s.names cfg = .ok [name] := by
  have honly : (s.facts cfg).dialect.schemaNamespace.onlyName? = some name := by
    rwa [dialect_facts]
  rw [names, schemaNames_of_onlyName? honly]
  rfl

theorem names_of_not_listed (h : s.profile.dialect.schemaNamespace ≠ .listed) :
    ∃ name, s.names cfg = .ok [name] := by
  obtain ⟨name, hname⟩ := SchemaNamespace.exists_onlyName? h
  exact ⟨name, s.names_of_onlyName? cfg hname⟩

/-- Enumeration fails only with the error of the listing that it reads. -/
theorem names_eq_error_iff {e : MetadataError} :
    s.names cfg = .error e ↔ s.profile.dialect.schemaNamespace = .listed ∧
      (s.detected cfg).reply .listing = .error e := by
  by_cases h : s.profile.dialect.schemaNamespace = .listed
  · rw [names_of_listed s cfg h]
    cases (s.detected cfg).reply .listing with
    | error e' => simp [h, Except.map]
    | ok l => simp [Except.map]
  · obtain ⟨name, hname⟩ := s.names_of_not_listed cfg h
    simp [hname, h]

theorem wanted_of_listing (h : s.profile.dialect.defaultRule = .listing) :
    s.wanted cfg = flaggedReply ((s.enumerated cfg).reply .listing) := by
  have hlisting : (s.facts cfg).dialect.defaultRule = .listing := by
    rwa [dialect_facts]
  rw [wanted, defaultName_of_listing _ hlisting]
  rfl

theorem wanted_of_not_listing (h : s.profile.dialect.defaultRule ≠ .listing) :
    s.wanted cfg = s.profile.dialect.defaultRule.name s.profile.user := by
  have hnot : (s.facts cfg).dialect.defaultRule ≠ .listing := by
    rwa [dialect_facts]
  rw [wanted, defaultName_of_not_listing _ hnot, dialect_facts]
  rfl

end Source

/-! ### The stages together -/

/-- Does the pass end with contents that have a schema? -/
def Outcome.hasSchemas : Outcome → Bool
  | .ok c => !c.catalog.schemas.isEmpty
  | .error _ => false

/-- How a pass ends whose stages have come to the given facts, names and
    default schema. -/
def conclude (f : Facts) (cfg : Config) (wanted : SchemaName) :
    Except MetadataError (List SchemaName) → Outcome
  | .error e => .error ⟨.schemaEnumeration, e⟩
  | .ok names => .ok ⟨f, (f.unmarked names).mark wanted, cfg.tableTypes⟩

section Conclude

variable {f : Facts} {cfg : Config} {wanted : SchemaName}
  {r : Except MetadataError (List SchemaName)}

theorem conclude_eq_error_iff {err : PassError} :
    conclude f cfg wanted r = .error err ↔ ∃ e, r = .error e ∧ err = ⟨.schemaEnumeration, e⟩ := by
  cases r with
  | error e => simp [conclude, eq_comm]
  | ok names => simp [conclude]

theorem conclude_eq_ok_iff {c : Contents} :
    conclude f cfg wanted r = .ok c ↔
      ∃ names, r = .ok names ∧ c = ⟨f, (f.unmarked names).mark wanted, cfg.tableTypes⟩ := by
  cases r with
  | error e => simp [conclude]
  | ok names => simp [conclude, eq_comm]

end Conclude

namespace Source

variable (s : Source) (cfg : Config)

/-- Without names the catalog is empty whatever the default schema would be,
    so that it need not be asked for. -/
theorem hold_markedCatalog (f : Facts) (user : String) (names : List SchemaName) :
    (s.hold (markedCatalog f user names)).1 =
      (f.unmarked names).mark (s.hold (defaultName f user)).1 := by
  unfold markedCatalog
  cases names with
  | nil => rfl
  | cons n ns => simp [hold_bind]

theorem exchanges_markedCatalog (f : Facts) (user : String) (names : List SchemaName) :
    s.exchanges (markedCatalog f user names) =
      if names = [] then [] else s.exchanges (defaultName f user) := by
  unfold markedCatalog
  cases names with
  | nil => rfl
  | cons n ns => simp [exchanges_bind]

/-- How a pass ends is told by what its stages come to. -/
theorem hold_pass : (s.hold (pass s.profile cfg)).1 =
    conclude (s.facts cfg) cfg (s.wanted cfg) (s.names cfg) := by
  unfold pass
  rw [hold_bind, hold_bind]
  change ((s.enumerated cfg).hold (match s.names cfg with
    | .error e => _
    | .ok names => _)).1 = _
  cases s.names cfg with
  | error e => rfl
  | ok names =>
    rw [hold_bind, hold_markedCatalog]
    rfl

theorem hasSchemas_hold_pass : (s.hold (pass s.profile cfg)).1.hasSchemas =
    match s.names cfg with
    | .error _ => false
    | .ok names => !names.isEmpty := by
  rw [hold_pass]
  cases s.names cfg with
  | error e => rfl
  | ok names =>
    cases names with
    | nil => rfl
    | cons n ns => simp [conclude, Outcome.hasSchemas, Catalog.mark, Catalog.markAt, Facts.unmarked]

/-- The dialogue of a pass is that of its stages in turn; the default schema
    is asked for only if there is a schema. -/
theorem exchanges_pass : s.exchanges (pass s.profile cfg) =
    s.exchanges (detect s.profile cfg.probeMode) ++
      (s.detected cfg).exchanges (schemaNames (s.facts cfg)) ++
      if (s.hold (pass s.profile cfg)).1.hasSchemas then
        (s.enumerated cfg).exchanges (defaultName (s.facts cfg) s.profile.user)
      else [] := by
  rw [hasSchemas_hold_pass]
  unfold pass
  rw [exchanges_bind, exchanges_bind, List.append_assoc]
  congr 2
  change (s.enumerated cfg).exchanges (match s.names cfg with
    | .error e => _
    | .ok names => _) = _
  cases s.names cfg with
  | error e => rfl
  | ok names =>
    rw [exchanges_bind, exchanges_markedCatalog]
    cases names with
    | nil => rfl
    | cons n ns => simp [facts]

/-- Where schemas are listed, enumeration reads the listing and nothing else. -/
theorem exchanges_schemaNames (h : s.profile.dialect.schemaNamespace = .listed) :
    (s.detected cfg).exchanges (schemaNames (s.facts cfg)) =
      [(.listing, (s.detected cfg).reply .listing)] := by
  have hlisted : (s.facts cfg).dialect.schemaNamespace = .listed := by
    rwa [dialect_facts]
  rw [schemaNames_of_listed hlisted]
  rfl

/-- Where schemas are listed a pass reads a listing after detection. -/
theorem mem_exchanges_pass_of_listed (h : s.profile.dialect.schemaNamespace = .listed) :
    (.listing, (s.detected cfg).reply .listing) ∈ s.exchanges (pass s.profile cfg) := by
  rw [exchanges_pass, s.exchanges_schemaNames cfg h]
  simp

/-- That listing is the first one of the pass. -/
theorem firstListing?_pass (h : s.profile.dialect.schemaNamespace = .listed) :
    s.firstListing? (pass s.profile cfg) = some ((s.detected cfg).reply .listing) := by
  have hexchanges := s.exchanges_pass cfg
  rw [s.exchanges_schemaNames cfg h, List.append_assoc, List.singleton_append] at hexchanges
  exact firstListing?_eq_some hexchanges fun x => s.isListing_of_mem_exchanges_detect

/-- Where the listing flags the default, a pass with a schema reads a listing
    last. -/
theorem exchanges_pass_of_listing (h : s.profile.dialect.defaultRule = .listing)
    (hschemas : (s.hold (pass s.profile cfg)).1.hasSchemas = true) : ∃ before,
      s.exchanges (pass s.profile cfg) =
        before ++ [(.listing, (s.enumerated cfg).reply .listing)] := by
  have hlisting : (s.facts cfg).dialect.defaultRule = .listing := by
    rwa [dialect_facts]
  rw [exchanges_pass, if_pos hschemas, defaultName_of_listing _ hlisting]
  exact ⟨_, rfl⟩

/-- That listing is the last one of the pass. -/
theorem lastListing?_pass (h : s.profile.dialect.defaultRule = .listing)
    (hschemas : (s.hold (pass s.profile cfg)).1.hasSchemas = true) :
    s.lastListing? (pass s.profile cfg) = some ((s.enumerated cfg).reply .listing) := by
  obtain ⟨before, hexchanges⟩ := s.exchanges_pass_of_listing cfg h hschemas
  exact lastListing?_eq_some hexchanges

end Source

end Schemata
