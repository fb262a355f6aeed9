import Schemata.Proofs.Publication
import Schemata.Proofs.WellFormed

/-! # Where snapshots come from

    Every snapshot that a session returns, shows or publishes was read by a
    pass of the run through some source of the session, and it is
    well-formed for the profile that the source had then. A pass keeps the
    settings of the sources (`settingsAt?_read`), so that this holds of each
    pass of a group as much as of a pass alone. -/

namespace Schemata

/-- The snapshots that an answer carries. -/
def Answer.snapshots (a : Answer) : List Snapshot := successes a.results ++ a.shown.toList

/-- Everything about a source but the calls that it has answered. -/
def Source.settings (s : Source) : Profile × Replies := (s.profile, s.replies)

@[simp] theorem Source.settings_hold {α : Type} (s : Source) (q : Inquiry α) :
    (s.hold q).2.settings = s.settings := by
  unfold settings
  rw [profile_hold, replies_hold]

namespace Session

-- Of a pass only `wellFormed_hold_pass` is used.
attribute [local irreducible] pass

/-- Some step of the run has a pass through `src`, as the source was before
    the step, and the pass ends with `snap`. -/
def Reads (s : Session) (src : Source) (snap : Snapshot) : List Step → Prop
  | [] => False
  | x :: xs =>
    (∃ j i : Nat, x.targets[j]? = some i ∧ s.sources[i]? = some src ∧
      (s.step x).1.results[j]? = some (.ok snap)) ∨ (s.step x).2.Reads src snap xs

/-- The result of a pass through the source at a position: if there is a
    snapshot in it, that is well-formed. -/
def SoundResult (s : Session) (i : Nat) (r : PassResult) : Prop :=
  ∃ src, s.sources[i]? = some src ∧
    ∀ snap, r = .ok snap → Contents.WellFormed src.profile s.config snap.contents

/-! ### What passes keep -/

/-- The settings of the source at a position. -/
def settingsAt? (s : Session) (i : Nat) : Option (Profile × Replies) :=
  s.sources[i]?.map Source.settings

/-- A source that takes the place of one with the same settings. -/
theorem settingsAt?_set {s : Session} {k : Nat} {src src' : Source} (h : s.sources[k]? = some src)
    (hsettings : src'.settings = src.settings) (i : Nat) :
    ({ s with sources := s.sources.set k src' } : Session).settingsAt? i = s.settingsAt? i := by
  obtain ⟨hk, rfl⟩ := List.getElem?_eq_some_iff.mp h
  unfold settingsAt?
  by_cases hi : k = i
  · subst hi
    simp [hk, hsettings]
  · simp [hi]

theorem settingsAt?_readUnpublished {s s' : Session} {k : Nat} {r : PassResult}
    (h : s.readUnpublished k = some (r, s')) (i : Nat) : s'.settingsAt? i = s.settingsAt? i := by
  obtain ⟨src, hsrc, _, hsources⟩ := exists_source_of_readUnpublished h
  rw [settingsAt?, hsources]
  exact settingsAt?_set hsrc (src.settings_hold _) i

theorem settingsAt?_read {s s' : Session} {k : Nat} {r : PassResult}
    (h : s.read k = some (r, s')) (i : Nat) : s'.settingsAt? i = s.settingsAt? i := by
  obtain ⟨s₁, hs₁, rfl⟩ := read_eq_some h
  rw [settingsAt?, sources_publish]
  exact settingsAt?_readUnpublished hs₁ i

theorem settingsAt?_readAll {s s' : Session} {is : List Nat} {rs : List PassResult}
    {log : List (Nat × Call)} (h : s.readAll is = some (rs, log, s')) (i : Nat) :
    s'.settingsAt? i = s.settingsAt? i := by
  induction is generalizing s rs log with
  | nil =>
    cases h
    rfl
  | cons k is ih =>
    obtain ⟨r, s₁, rs', log', hread, hrest, _, _⟩ := readAll_cons_eq_some h
    rw [ih hrest, settingsAt?_read hread]

/-- The profiles of the sources, in order. -/
def profiles (s : Session) : List Profile := s.sources.map (·.profile)

/-- Sources with the same settings have the same profiles. -/
theorem profiles_eq_of_settingsAt? {s s' : Session}
    (h : ∀ i, s'.settingsAt? i = s.settingsAt? i) : s'.profiles = s.profiles := by
  have hprofile : ∀ (s : Session) (i : Nat), s.profiles[i]? = (s.settingsAt? i).map (·.1) := by
    intro s i
    rw [profiles, settingsAt?, List.getElem?_map, Option.map_map]
    rfl
  apply List.ext_getElem?
  intro i
  rw [hprofile, hprofile, h]

/-! ### Passes -/

theorem SoundResult.of_profiles {s s' : Session} {i : Nat} {r : PassResult}
    (h : s'.SoundResult i r) (hprofiles : s'.profiles = s.profiles)
    (hconfig : s'.config = s.config) : s.SoundResult i r := by
  obtain ⟨src', hsrc', hsound⟩ := h
  have hprofile : s.profiles[i]? = some src'.profile := by
    rw [← hprofiles, profiles, List.getElem?_map, hsrc', Option.map_some]
  rw [profiles, List.getElem?_map, Option.map_eq_some_iff] at hprofile
  obtain ⟨src, hsrc, hprofile⟩ := hprofile
  refine ⟨src, hsrc, ?_⟩
  rw [hprofile, ← hconfig]
  exact hsound

theorem soundResult_readUnpublished {s s' : Session} {i : Nat} {r : PassResult}
    (h : s.readUnpublished i = some (r, s')) : s.SoundResult i r ∧ s'.profiles = s.profiles := by
  obtain ⟨src, hsrc, houtcome, _⟩ := exists_source_of_readUnpublished h
  refine ⟨⟨src, hsrc, ?_⟩, profiles_eq_of_settingsAt? (settingsAt?_readUnpublished h)⟩
  rintro snap rfl
  -- numbering has left the contents as the pass has read them
  have hcontents : (src.hold (pass src.profile s.config)).1 = .ok snap.contents := houtcome.symm
  exact Source.wellFormed_hold_pass hcontents

theorem soundResult_read {s s' : Session} {i : Nat} {r : PassResult}
    (h : s.read i = some (r, s')) : s.SoundResult i r ∧ s'.profiles = s.profiles := by
  obtain ⟨s₁, hs₁, _⟩ := read_eq_some h
  obtain ⟨hsound, _⟩ := soundResult_readUnpublished hs₁
  exact ⟨hsound, profiles_eq_of_settingsAt? (settingsAt?_read h)⟩

/-- The result of a pass alone belongs to its source. -/
theorem SoundResult.alone {s : Session} {i j : Nat} {r r' : PassResult} (h : s.SoundResult i r')
    (hr : [r'][j]? = some r) : ∃ i', [i][j]? = some i' ∧ s.SoundResult i' r := by
  cases j with
  | zero =>
    cases hr
    exact ⟨i, rfl, h⟩
  | succ j => cases hr

/-- The results of passes served one after the other belong to the sources
    in order. -/
theorem soundResult_readAll {s s' : Session} {is : List Nat} {rs : List PassResult}
    {log : List (Nat × Call)} (h : s.readAll is = some (rs, log, s')) {j : Nat} {r : PassResult}
    (hr : rs[j]? = some r) : ∃ i, is[j]? = some i ∧ s.SoundResult i r := by
  induction is generalizing s rs log j with
  | nil =>
    cases h
    cases hr
  | cons i is ih =>
    obtain ⟨r₁, s₁, rs', log', hread, hrest, rfl, _⟩ := readAll_cons_eq_some h
    obtain ⟨hsound, hprofiles⟩ := soundResult_read hread
    cases j with
    | zero =>
      cases hr
      exact ⟨i, rfl, hsound⟩
    | succ j =>
      obtain ⟨i', hi', hsound'⟩ := ih hrest hr
      exact ⟨i', hi', hsound'.of_profiles hprofiles (advance_read hread).config_eq⟩

/-! ### Steps and runs -/

/-- An answer with results of passes belongs to a step that reads, and each
    result to the source that the step names for it. -/
theorem soundResult_step (s : Session) (x : Step) {j : Nat} {r : PassResult}
    (hr : (s.step x).1.results[j]? = some r) :
    ∃ i, x.targets[j]? = some i ∧ s.SoundResult i r := by
  rcases step_cases s x with hquiet | ⟨i, r', s', rfl, h, hstep⟩ | ⟨i, r', s', rfl, h, hstep⟩ |
    ⟨is, rs, log, s', rfl, h, hstep⟩
  · rw [hquiet.results_eq] at hr
    cases hr
  · rw [hstep] at hr
    exact (soundResult_read h).1.alone hr
  · rw [hstep] at hr
    exact (soundResult_readUnpublished h).1.alone hr
  · rw [hstep] at hr
    exact soundResult_readAll h hr

theorem wellFormed_of_reads {s : Session} {src : Source} {snap : Snapshot} {xs : List Step}
    (h : s.Reads src snap xs) : Contents.WellFormed src.profile s.config snap.contents := by
  induction xs generalizing s with
  | nil => exact h.elim
  | cons x xs ih =>
    rcases h with ⟨j, i, hi, hsrc, hr⟩ | h
    · -- the step names one source for the result, the one it was read through
      obtain ⟨i', hi', src', hsrc', hsound⟩ := soundResult_step s x hr
      cases hi.symm.trans hi'
      cases hsrc.symm.trans hsrc'
      exact hsound snap rfl
    · rw [← (advance_step s x).config_eq]
      exact ih h

theorem mem_successes {rs : List PassResult} {snap : Snapshot} :
    snap ∈ successes rs ↔ .ok snap ∈ rs := by
  simp only [successes, List.mem_filterMap]
  constructor
  · rintro ⟨r, hr, hsnap⟩
    cases r with
    | error e => cases hsnap
    | ok s => cases hsnap; exact hr
  · exact fun h => ⟨.ok snap, h, rfl⟩

/-- What a step returns, it has read. -/
theorem reads_of_mem_results {s : Session} {x : Step} {snap : Snapshot} (xs : List Step)
    (h : snap ∈ successes (s.step x).1.results) : ∃ src, s.Reads src snap (x :: xs) := by
  obtain ⟨j, hj⟩ := List.mem_iff_getElem?.mp (mem_successes.mp h)
  obtain ⟨i, hi, src, hsrc, _⟩ := soundResult_step s x hj
  exact ⟨src, .inl ⟨j, i, hi, hsrc, hj⟩⟩

/-- What a step answers with is a snapshot that it has read or the published
    one. -/
theorem mem_snapshots_step {s : Session} {x : Step} {snap : Snapshot}
    (h : snap ∈ (s.step x).1.snapshots) :
    snap ∈ successes (s.step x).1.results ∨ s.published = some snap := by
  rcases List.mem_append.mp h with hread | hshown
  · exact .inl hread
  · rw [Option.mem_toList] at hshown
    rcases step_cases s x with hquiet | ⟨i, r, s', _, _, hstep⟩ | ⟨i, r, s', _, _, hstep⟩ |
      ⟨is, rs, log, s', _, _, hstep⟩
    · right
      rcases hquiet.shown_eq with hnone | hpublished
      · rw [hnone] at hshown
        cases hshown
      · rw [← hpublished]
        exact hshown
    -- a step with a pass answers with results only
    · rw [hstep] at hshown
      cases hshown
    · rw [hstep] at hshown
      cases hshown
    · rw [hstep] at hshown
      cases hshown

theorem mem_results_of_mem_publishedBy {x : Step} {a : Answer} {snap : Snapshot}
    (h : snap ∈ publishedBy x a) : snap ∈ successes a.results := by
  unfold publishedBy at h
  split at h
  · exact h
  · cases h

/-- A snapshot that a run answers with or leaves published was read in the
    run, or was published before. -/
theorem reads_of_shown {s : Session} {xs : List Step} {snap : Snapshot}
    (h : (∃ a ∈ (s.run xs).1, snap ∈ a.snapshots) ∨ (s.run xs).2.published = some snap) :
    (∃ src, s.Reads src snap xs) ∨ s.published = some snap := by
  induction xs generalizing s with
  | nil =>
    rcases h with ⟨a, ha, _⟩ | h
    · cases ha
    · exact .inr h
  | cons x xs ih =>
    have hstep : snap ∈ (s.step x).1.snapshots ∨
        (∃ a ∈ ((s.step x).2.run xs).1, snap ∈ a.snapshots) ∨
          ((s.step x).2.run xs).2.published = some snap := by
      rcases h with ⟨a, ha, hsnap⟩ | h
      · rcases List.mem_cons.mp ha with rfl | ha
        · exact .inl hsnap
        · exact .inr (.inl ⟨a, ha, hsnap⟩)
      · exact .inr (.inr h)
    rcases hstep with hsnap | hrest
    · rcases mem_snapshots_step hsnap with hread | hpublished
      · exact .inl (reads_of_mem_results xs hread)
      · exact .inr hpublished
    · rcases ih hrest with ⟨src, hsrc⟩ | hpublished
      · exact .inl ⟨src, .inr hsrc⟩
      · -- published before the rest of the run: by this step, or before it
        rw [(advance_step s x).published_eq, Option.or_eq_some_iff] at hpublished
        rcases hpublished with hlast | ⟨_, hbefore⟩
        · have hmem := mem_results_of_mem_publishedBy (List.mem_of_getLast? hlast)
          exact .inl (reads_of_mem_results xs hmem)
        · exact .inr hbefore

/-- **Well-formed snapshots.** Start a session with any configuration and any
    sources, and run any steps. Whatever its passes read is well-formed for
    the source that they read through, and every snapshot that the session
    returns, shows or publishes was read by one of them. -/
theorem snapshots_wellFormed (cfg : Config) (sources : List Source) (xs : List Step) :
    let s : Session := { config := cfg, sources := sources }
    (∀ src snap, s.Reads src snap xs → Contents.WellFormed src.profile cfg snap.contents) ∧
      ∀ snap, ((∃ a ∈ (s.run xs).1, snap ∈ a.snapshots) ∨
          (s.run xs).2.published = some snap) →
        ∃ src, s.Reads src snap xs ∧ Contents.WellFormed src.profile cfg snap.contents := by
  intro s
  refine ⟨fun src snap => wellFormed_of_reads, ?_⟩
  intro snap h
  rcases reads_of_shown h with ⟨src, hread⟩ | hnone
  · exact ⟨src, hread, wellFormed_of_reads hread⟩
  · cases hnone

end Session

end Schemata
