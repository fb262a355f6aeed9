import Schemata.Session

/-! # Publication

    Readers of a session see the snapshot of the published pass that
    succeeded last. A pass that fails, a pass that is not published, and
    every other step leave what they see as it was. Since every successful
    pass has a number that no other one has, equal snapshots come from the
    same pass.

    `Session.Advance` says all that passes do to a session as far as its
    readers can tell. Each step advances the session by the passes it
    answers with (`advance_step`), and a run by those of its steps
    (`advance_run`). -/

namespace Schemata

/-! ### Results -/

/-- The snapshots of the passes that succeeded. -/
def successes (results : List PassResult) : List Snapshot := results.filterMap Except.toOption

@[simp] theorem successes_nil : successes [] = [] := rfl

@[simp] theorem successes_append (rs rs' : List PassResult) :
    successes (rs ++ rs') = successes rs ++ successes rs' := by
  simp [successes]

/-- The results of passes that an answer carries, in the order in which the
    passes were served. -/
def Answer.results : Answer → List PassResult
  | pass r => [r]
  | passes rs _ => rs
  | _ => []

/-- The published snapshot, in an answer that tells it. -/
def Answer.shown : Answer → Option Snapshot
  | snapshot published => published
  | _ => none

/-- The positions of the sources that the passes of a step read through, in
    the order in which the passes are served. -/
def Step.targets : Step → List Nat
  | read i | readUnpublished i => [i]
  | concurrent is => is
  | _ => []

/-- Are the passes of the step published? -/
def Step.publishes : Step → Bool
  | read _ | concurrent _ => true
  | _ => false

/-- The snapshots that the published passes of a step end with. -/
def publishedBy (x : Step) (a : Answer) : List Snapshot :=
  if x.publishes then successes a.results else []

/-- The snapshots that the published passes of a run end with, in the order in
    which the passes were served. -/
def publications : List Step → List Answer → List Snapshot
  | x :: xs, a :: as => publishedBy x a ++ publications xs as
  | _, _ => []

namespace Session

/-! ### What passes do to a session -/

/-- The session `s'` is `s` after passes that ended with `results`, of which
    those that ended with `shown` were published. -/
structure Advance (s : Session) (results : List PassResult) (shown : List Snapshot)
    (s' : Session) : Prop where
  config_eq : s'.config = s.config
  /-- Successful passes are numbered one after the other. -/
  numbered : (successes results).map (·.pass) =
    List.range' s.passes (successes results).length
  passes_eq : s'.passes = s.passes + (successes results).length
  /-- Readers see the last snapshot shown. -/
  published_eq : s'.published = shown.getLast?.or s.published

theorem Advance.refl (s : Session) : s.Advance [] [] s where
  config_eq := rfl
  numbered := rfl
  passes_eq := rfl
  published_eq := rfl

theorem Advance.trans {s s₁ s₂ : Session} {rs rs' : List PassResult} {ps ps' : List Snapshot}
    (h : s.Advance rs ps s₁) (h' : s₁.Advance rs' ps' s₂) :
    s.Advance (rs ++ rs') (ps ++ ps') s₂ where
  config_eq := h'.config_eq.trans h.config_eq
  numbered := by
    rw [successes_append, List.map_append, h.numbered, h'.numbered, h.passes_eq,
      List.range'_append_1, List.length_append]
  passes_eq := by
    rw [h'.passes_eq, h.passes_eq, successes_append, List.length_append, Nat.add_assoc]
  published_eq := by
    rw [h'.published_eq, h.published_eq, List.getLast?_append, Option.or_assoc]

/-! ### Passes -/

-- What a pass asks and how it ends is of no concern here.
attribute [local irreducible] pass

/-- How a pass over a source ends in the session. -/
def outcomeOf (s : Session) (src : Source) : Outcome :=
  (src.hold (pass src.profile s.config)).1

/-- The session once the source at position `i` has answered the calls of a
    pass, before the pass is numbered. -/
def afterPass (s : Session) (i : Nat) (src : Source) : Session :=
  { s with sources := s.sources.set i (src.hold (pass src.profile s.config)).2 }

theorem readUnpublished_eq (s : Session) (i : Nat) :
    s.readUnpublished i =
      s.sources[i]?.map fun src => (s.afterPass i src).number (s.outcomeOf src) := by
  simp only [readUnpublished, hold, Option.map_map, Function.comp_def, outcomeOf, afterPass]

theorem readUnpublished_eq_some {s s' : Session} {i : Nat} {r : PassResult}
    (h : s.readUnpublished i = some (r, s')) :
    ∃ src, s.sources[i]? = some src ∧
      r = ((s.afterPass i src).number (s.outcomeOf src)).1 ∧
      s' = ((s.afterPass i src).number (s.outcomeOf src)).2 := by
  rw [readUnpublished_eq, Option.map_eq_some_iff] at h
  obtain ⟨src, hsrc, h⟩ := h
  exact ⟨src, hsrc, by rw [h], by rw [h]⟩

theorem read_eq_some {s s' : Session} {i : Nat} {r : PassResult} (h : s.read i = some (r, s')) :
    ∃ s₁, s.readUnpublished i = some (r, s₁) ∧ s' = s₁.publish r := by
  simp only [read, Option.map_eq_some_iff, Prod.mk.injEq] at h
  obtain ⟨⟨r₁, s₁⟩, hs₁, rfl, rfl⟩ := h
  exact ⟨s₁, hs₁, rfl⟩

@[simp] theorem sources_number (s : Session) (outcome : Outcome) :
    (s.number outcome).2.sources = s.sources := by
  cases outcome <;> rfl

@[simp] theorem sources_publish (s : Session) (r : PassResult) :
    (s.publish r).sources = s.sources := by
  cases r <;> rfl

/-- The number of a snapshot says nothing of how the pass has ended. -/
theorem contents_number (s : Session) (outcome : Outcome) :
    (s.number outcome).1.map (·.contents) = outcome := by
  cases outcome <;> rfl

/-- A pass ends as its source has it, and changes that source and no other. -/
theorem exists_source_of_readUnpublished {s s' : Session} {i : Nat} {r : PassResult}
    (h : s.readUnpublished i = some (r, s')) : ∃ src, s.sources[i]? = some src ∧
      r.map (·.contents) = s.outcomeOf src ∧
      s'.sources = s.sources.set i (src.hold (pass src.profile s.config)).2 := by
  obtain ⟨src, hsrc, rfl, rfl⟩ := readUnpublished_eq_some h
  refine ⟨src, hsrc, contents_number _ _, ?_⟩
  rw [sources_number]
  rfl

theorem advance_number (s : Session) (outcome : Outcome) :
    s.Advance [(s.number outcome).1] [] (s.number outcome).2 := by
  cases outcome with
  | error e => exact ⟨rfl, rfl, rfl, rfl⟩
  | ok c => exact ⟨rfl, rfl, rfl, rfl⟩

theorem advance_publish (s : Session) (r : PassResult) :
    s.Advance [] (successes [r]) (s.publish r) := by
  cases r with
  | error e => exact Advance.refl s
  | ok snap => exact ⟨rfl, rfl, rfl, rfl⟩

/-- A change of the sources is nothing that readers notice. -/
theorem advance_sources (s : Session) (sources : List Source) :
    s.Advance [] [] { s with sources := sources } :=
  ⟨rfl, rfl, rfl, rfl⟩

theorem advance_readUnpublished {s s' : Session} {i : Nat} {r : PassResult}
    (h : s.readUnpublished i = some (r, s')) : s.Advance [r] [] s' := by
  obtain ⟨src, _, rfl, rfl⟩ := readUnpublished_eq_some h
  exact (advance_sources s _).trans (advance_number (s.afterPass i src) _)

theorem advance_read {s s' : Session} {i : Nat} {r : PassResult} (h : s.read i = some (r, s')) :
    s.Advance [r] (successes [r]) s' := by
  obtain ⟨s₁, hs₁, rfl⟩ := read_eq_some h
  exact (advance_readUnpublished hs₁).trans (advance_publish s₁ r)

theorem readAll_cons_eq_some {s s' : Session} {i : Nat} {is : List Nat} {rs : List PassResult}
    {log : List (Nat × Call)} (h : s.readAll (i :: is) = some (rs, log, s')) :
    ∃ r s₁ rs' log', s.read i = some (r, s₁) ∧ s₁.readAll is = some (rs', log', s') ∧
      rs = r :: rs' ∧ log = ((s₁.callsOf i).drop (s.callsOf i).length).map (i, ·) ++ log' := by
  simp only [readAll, Option.bind_eq_bind, Option.bind_eq_some_iff] at h
  obtain ⟨⟨r, s₁⟩, hread, ⟨rs', log', s₂⟩, hrest, h⟩ := h
  cases h
  exact ⟨r, s₁, rs', log', hread, hrest, rfl, rfl⟩

/-- A pass before passes in a row is the first one of the row. -/
theorem exists_readAll_cons {s s₁ s' : Session} {i : Nat} {is : List Nat} {r : PassResult}
    {rs : List PassResult} {log : List (Nat × Call)} (hread : s.read i = some (r, s₁))
    (hrest : s₁.readAll is = some (rs, log, s')) :
    ∃ log', s.readAll (i :: is) = some (r :: rs, log', s') := by
  simp only [readAll, hread, hrest, Option.bind_eq_bind, Option.bind_some]
  exact ⟨_, rfl⟩

theorem advance_readAll {s s' : Session} {is : List Nat} {rs : List PassResult}
    {log : List (Nat × Call)} (h : s.readAll is = some (rs, log, s')) :
    s.Advance rs (successes rs) s' := by
  induction is generalizing s rs log with
  | nil =>
    cases h
    exact Advance.refl _
  | cons i is ih =>
    obtain ⟨r, s₁, rs', log', hread, hrest, rfl, _⟩ := readAll_cons_eq_some h
    have hadvance := (advance_read hread).trans (ih hrest)
    rwa [← successes_append] at hadvance

/-! ### Steps and runs -/

/-- The answer has no result of a pass in it and no snapshot but the published
    one, and at most the sources have changed. -/
structure Quiet (s : Session) (a : Answer) (s' : Session) : Prop where
  results_eq : a.results = []
  shown_eq : a.shown = none ∨ a.shown = s.published
  sources_only : ∃ sources, s' = { s with sources := sources }

/-- An answer without results and snapshots, the session staying as it was. -/
theorem quiet_refl (s : Session) {a : Answer} (hresults : a.results = [])
    (hshown : a.shown = none) : s.Quiet a s :=
  ⟨hresults, .inl hshown, s.sources, rfl⟩

theorem quiet_answer {α : Type} (s : Session) (i : Nat) (q : Profile → Inquiry α)
    (f : α → Answer) (hresults : ∀ a, (f a).results = []) (hshown : ∀ a, (f a).shown = none) :
    s.Quiet (s.answer i q f).1 (s.answer i q f).2 := by
  unfold answer hold
  cases s.sources[i]? with
  | none => exact quiet_refl s rfl rfl
  | some src => exact ⟨hresults _, .inl (hshown _), _, rfl⟩

/-- What a step can do: run a pass, published or not, run several published
    ones, or nothing that readers notice. -/
theorem step_cases (s : Session) (x : Step) :
    s.Quiet (s.step x).1 (s.step x).2 ∨
    (∃ i r s', x = .read i ∧ s.read i = some (r, s') ∧ s.step x = (.pass r, s')) ∨
    (∃ i r s', x = .readUnpublished i ∧ s.readUnpublished i = some (r, s') ∧
      s.step x = (.pass r, s')) ∨
    (∃ is rs log s', x = .concurrent is ∧ s.readAll is = some (rs, log, s') ∧
      s.step x = (.passes rs log, s')) := by
  cases x with
  | read i =>
    cases h : s.read i with
    | none => left; simpa [step, h] using quiet_refl s rfl rfl
    | some r => exact .inr (.inl ⟨i, r.1, r.2, rfl, h, by simp [step, h]⟩)
  | readUnpublished i =>
    cases h : s.readUnpublished i with
    | none => left; simpa [step, h] using quiet_refl s rfl rfl
    | some r => exact .inr (.inr (.inl ⟨i, r.1, r.2, rfl, h, by simp [step, h]⟩))
  | concurrent is =>
    cases h : s.readAll is with
    | none => left; simpa [step, h] using quiet_refl s rfl rfl
    | some r => exact .inr (.inr (.inr ⟨is, r.1, r.2.1, r.2.2, rfl, h, by simp [step, h]⟩))
  | snapshot => exact .inl ⟨rfl, .inr rfl, s.sources, rfl⟩
  | quote identifier => exact .inl (quiet_refl s rfl rfl)
  | config => exact .inl (quiet_refl s rfl rfl)
  | detect i probe => exact .inl (quiet_answer s i _ _ (fun _ => rfl) fun _ => rfl)
  | enumerate i f => exact .inl (quiet_answer s i _ _ (fun _ => rfl) fun _ => rfl)
  | resolve i f => exact .inl (quiet_answer s i _ _ (fun _ => rfl) fun _ => rfl)
  | call i c => exact .inl (quiet_answer s i _ _ (fun _ => rfl) fun _ => rfl)
  | profile i => exact .inl (quiet_answer s i _ _ (fun _ => rfl) fun _ => rfl)
  | calls i =>
    left
    cases h : s.sources[i]? with
    | none => simpa [step, h] using quiet_refl s rfl rfl
    | some src => simpa [step, h] using quiet_refl s rfl rfl
  | set i settings =>
    left
    cases h : s.sources[i]? with
    | none => simpa [step, h] using quiet_refl s rfl rfl
    | some src => simpa [step, h] using ⟨rfl, .inl rfl, _, rfl⟩

/-- Every step advances the session by the passes that it answers with. -/
theorem advance_step (s : Session) (x : Step) :
    s.Advance (s.step x).1.results (publishedBy x (s.step x).1) (s.step x).2 := by
  rcases step_cases s x with hquiet | ⟨i, r, s', rfl, h, hstep⟩ | ⟨i, r, s', rfl, h, hstep⟩ |
    ⟨is, rs, log, s', rfl, h, hstep⟩
  · obtain ⟨hresults, _, sources, hs'⟩ := hquiet
    have hnone : publishedBy x (s.step x).1 = [] := by
      simp [publishedBy, hresults]
    rw [hresults, hnone, hs']
    exact advance_sources s sources
  · rw [hstep]
    exact advance_read h
  · rw [hstep]
    exact advance_readUnpublished h
  · rw [hstep]
    exact advance_readAll h

/-- A run advances the session by the passes of its steps. -/
theorem advance_run (s : Session) (xs : List Step) :
    s.Advance ((s.run xs).1.flatMap Answer.results) (publications xs (s.run xs).1)
      (s.run xs).2 := by
  induction xs generalizing s with
  | nil => exact Advance.refl s
  | cons x xs ih => exact (advance_step s x).trans (ih (s.step x).2)

/-- **Publication.** After any run, readers see the snapshot with which the
    last successful published pass of the run has ended, or what they saw
    before if there was none. That snapshot is the one of no other pass:
    all successful passes of the run, published or not, are numbered apart.
    A step that publishes nothing and a published pass that fails leave what
    readers see as it was. -/
theorem published_eq_last_publication (s : Session) (xs : List Step) :
    (s.run xs).2.published = (publications xs (s.run xs).1).getLast?.or s.published ∧
      ((successes ((s.run xs).1.flatMap Answer.results)).map (·.pass)).Nodup ∧
      (∀ x, x.publishes = false → (s.step x).2.published = s.published) ∧
      (∀ i e s', s.read i = some (.error e, s') → s'.published = s.published) := by
  refine ⟨(advance_run s xs).published_eq, ?_, ?_, ?_⟩
  · -- the numbers go up by one from pass to pass
    rw [(advance_run s xs).numbered]
    exact List.nodup_range'
  · intro x hx
    rw [(advance_step s x).published_eq, publishedBy, hx]
    rfl
  · intro i e s' h
    exact (advance_read h).published_eq

end Session

end Schemata
