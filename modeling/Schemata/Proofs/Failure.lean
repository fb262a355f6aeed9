import Schemata.Proofs.Stages

/-! # Failed passes

    A pass calls its source up to three times: for the mode of H2, for the
    schemas, and for the default schema. Only the second call can make it
    fail, and only on a dialect that lists its schemas. The call for the
    default is a listing too, so that it is the first listing that counts
    and no later one. -/

namespace Schemata

-- Which dialect a product has plays no part in how its passes fail.
attribute [local irreducible] Facts.classify

namespace Source

variable (s : Source) (cfg : Config)

theorem hold_pass_fails_iff (err : PassError) :
    (s.hold (pass s.profile cfg)).1 = .error err ↔
      s.profile.dialect.schemaNamespace = .listed ∧
        ∃ e, s.firstListing? (pass s.profile cfg) = some (.error e) ∧
          err = ⟨.schemaEnumeration, e⟩ := by
  rw [hold_pass, conclude_eq_error_iff]
  constructor
  · intro h
    obtain ⟨e, hnames, herr⟩ := h
    obtain ⟨hlisted, hreply⟩ := (s.names_eq_error_iff cfg).mp hnames
    refine ⟨hlisted, e, ?_, herr⟩
    rw [s.firstListing?_pass cfg hlisted, hreply]
  · intro h
    obtain ⟨hlisted, e, hfirst, herr⟩ := h
    rw [s.firstListing?_pass cfg hlisted, Option.some_inj] at hfirst
    exact ⟨e, (s.names_eq_error_iff cfg).mpr ⟨hlisted, hfirst⟩, herr⟩

/-- A pass that fails has asked for the listing last, and only once. -/
theorem exchanges_pass_of_error {err : PassError}
    (herr : (s.hold (pass s.profile cfg)).1 = .error err) :
    s.exchanges (pass s.profile cfg) =
      s.exchanges (detect s.profile cfg.probeMode) ++ [(.listing, .error err.cause)] := by
  obtain ⟨hlisted, e, hfirst, rfl⟩ := (s.hold_pass_fails_iff cfg err).mp herr
  have hreply : (s.detected cfg).reply .listing = .error e := by
    rw [s.firstListing?_pass cfg hlisted] at hfirst
    exact Option.some.inj hfirst
  -- without contents there is no schema, and the default is not asked for
  rw [exchanges_pass, herr, s.exchanges_schemaNames cfg hlisted, hreply]
  exact List.append_nil _

end Source

/-- **Failure.** A pass through a source fails exactly if the dialect lists its
    schemas and the first listing that the pass asks for is an error; it
    fails with that very error and calls the source no more. Where schemas
    are listed there is such a listing, and it is the one that is asked for
    right after detection. No other reply counts: on a dialect that lists no
    schemas, or once the first listing is there, a pass ends with contents. -/
theorem hold_pass_eq_error_iff (src : Source) (cfg : Config) :
    let q := pass src.profile cfg
    let d := (Facts.classify src.profile.product src.profile.url).dialect
    (∀ err, (src.hold q).1 = .error err ↔
      d.schemaNamespace = .listed ∧
        ∃ e, src.firstListing? q = some (.error e) ∧ err = ⟨.schemaEnumeration, e⟩) ∧
    (d.schemaNamespace = .listed →
      src.firstListing? q = some ((src.detected cfg).reply .listing)) ∧
    (∀ err, (src.hold q).1 = .error err → ∃ before,
      src.exchanges q = before ++ [(.listing, .error err.cause)] ∧
        (∀ x ∈ before, x.1.isListing = false) ∧
        (src.hold q).2.calls = src.calls ++ before.map (·.1) ++ [.listing]) ∧
    (d.schemaNamespace ≠ .listed ∨ (∃ l, src.firstListing? q = some (.ok l)) →
      ∃ c, (src.hold q).1 = .ok c) := by
  intro q d
  have hiff : ∀ err, (src.hold q).1 = .error err ↔ d.schemaNamespace = .listed ∧
      ∃ e, src.firstListing? q = some (.error e) ∧ err = ⟨.schemaEnumeration, e⟩ :=
    src.hold_pass_fails_iff cfg
  refine ⟨hiff, src.firstListing?_pass cfg, ?_, ?_⟩
  · intro err herr
    have hexchanges := src.exchanges_pass_of_error cfg herr
    refine ⟨_, hexchanges, fun x => src.isListing_of_mem_exchanges_detect, ?_⟩
    rw [Source.calls_hold, hexchanges, List.map_append, List.append_assoc]
    rfl
  · intro h
    cases hresult : (src.hold q).1 with
    | ok c => exact ⟨c, rfl⟩
    | error err =>
      -- an error would need the very reply that is excluded
      obtain ⟨hlisted, e, he, _⟩ := (hiff err).mp hresult
      rcases h with hnot | ⟨l, hl⟩
      · exact absurd hlisted hnot
      · rw [he] at hl
        cases hl

end Schemata
