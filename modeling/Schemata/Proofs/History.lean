import Schemata.Proofs.Traffic

/-! # History

    A source with canned replies keeps the calls that it has answered, but
    what it replies does not depend on them. Passes through it come to the
    same, then, whenever they run and whatever has happened in between, as
    long as nobody has set the source anew.

    - `Source.settings` is all that decides on such a pass, besides the
      configuration, and `settingsAt?_step` says which steps keep it.
    - `Session.PassAt` finds the passes of a run, each with the calls that
      its source has taken in it, also in the middle of a group. -/

namespace Schemata

/-! ### Canned replies -/

namespace Source

variable {α : Type} {s s' : Source}

theorem isInMemory_iff : s.isInMemory = true ↔ ∃ k, s.replies = .canned k := by
  unfold isInMemory
  cases s.replies <;> simp

/-- A source that replies from memory does so after any settings. -/
theorem isInMemory_setAll (h : s.isInMemory = true) (xs : List Setting) :
    (s.setAll xs).isInMemory = true := by
  unfold setAll
  induction xs generalizing s with
  | nil => exact h
  | cons x xs ih =>
    apply ih
    obtain ⟨k, hk⟩ := isInMemory_iff.mp h
    rw [isInMemory_iff]
    exact ⟨k.set x, by simp only [set, hk]⟩

/-- With the same canned replies every inquiry is the same dialogue, whatever
    the sources have answered before. -/
theorem dialogue_of_canned {k : Canned} (h : s.replies = .canned k) (h' : s'.replies = .canned k)
    (q : Inquiry α) : s.asked q = s'.asked q ∧ (s.hold q).1 = (s'.hold q).1 := by
  induction q generalizing s s' with
  | done a => exact ⟨rfl, rfl⟩
  | ask c next ih =>
    have hreply : s.reply c = s'.reply c := by
      simp only [reply, h, h']
    -- the call is kept, and the replies to come are the same ones
    have hafter : (s.after c).replies = .canned k := h
    have hafter' : (s'.after c).replies = .canned k := h'
    obtain ⟨hasked, hhold⟩ := ih (s'.reply c) hafter hafter'
    refine ⟨?_, ?_⟩
    · rw [asked_ask, asked_ask, hreply, hasked]
    · rw [hold_ask, hold_ask, hreply, hhold]

end Source

namespace Session

variable {s s₁ s₂ s' : Session} {i : Nat}

-- Of a pass only the dialogue matters here, and nothing of the stages.
attribute [local irreducible] pass detect schemaNames defaultName

/-! ### What steps keep -/

theorem settingsAt?_answer {α : Type} (s : Session) (k : Nat) (q : Profile → Inquiry α)
    (f : α → Answer) (i : Nat) : (s.answer k q f).2.settingsAt? i = s.settingsAt? i := by
  unfold answer hold
  cases hsrc : s.sources[k]? with
  | none => rfl
  | some src => exact settingsAt?_set hsrc (src.settings_hold _) i

/-- Every step but a setting of the source keeps its settings. -/
theorem settingsAt?_step (s : Session) {x : Step} (h : ∀ settings, x ≠ .set i settings) :
    (s.step x).2.settingsAt? i = s.settingsAt? i := by
  cases x with
  | read k =>
    cases hread : s.read k with
    | none => simp [step, hread]
    | some r => simpa [step, hread] using settingsAt?_read hread i
  | readUnpublished k =>
    cases hread : s.readUnpublished k with
    | none => simp [step, hread]
    | some r => simpa [step, hread] using settingsAt?_readUnpublished hread i
  | concurrent is =>
    cases hread : s.readAll is with
    | none => simp [step, hread]
    | some r => simpa [step, hread] using settingsAt?_readAll hread i
  | snapshot => rfl
  | quote identifier => rfl
  | config => rfl
  | detect k probe => exact settingsAt?_answer s k _ _ i
  | enumerate k f => exact settingsAt?_answer s k _ _ i
  | resolve k f => exact settingsAt?_answer s k _ _ i
  | call k c => exact settingsAt?_answer s k _ _ i
  | profile k => exact settingsAt?_answer s k _ _ i
  | calls k =>
    cases hsrc : s.sources[k]? with
    | none => simp [step, hsrc]
    | some src => simp [step, hsrc]
  | set k settings =>
    -- it is another source that is set
    have hne : k ≠ i := fun hki => h settings (by rw [hki])
    cases hsrc : s.sources[k]? with
    | none => simp [step, hsrc]
    | some src => simp [step, hsrc, settingsAt?, hne]

theorem settingsAt?_run (s : Session) {xs : List Step}
    (h : ∀ x ∈ xs, ∀ settings, x ≠ .set i settings) :
    (s.run xs).2.settingsAt? i = s.settingsAt? i := by
  induction xs generalizing s with
  | nil => rfl
  | cons x xs ih =>
    have hstep := s.settingsAt?_step (h x List.mem_cons_self)
    rw [run_cons, ih _ fun y hy => h y (List.mem_cons_of_mem x hy), hstep]

/-- The source at a position, if there is one, replies from memory. -/
def InMemoryAt (s : Session) (i : Nat) : Prop :=
  ∀ src, s.sources[i]? = some src → src.isInMemory = true

theorem InMemoryAt.of_settingsAt? (h : s.InMemoryAt i) (heq : s'.settingsAt? i = s.settingsAt? i) :
    s'.InMemoryAt i := by
  intro src' hsrc'
  unfold settingsAt? at heq
  rw [hsrc', Option.map_some, eq_comm, Option.map_eq_some_iff] at heq
  obtain ⟨src, hsrc, hsettings⟩ := heq
  have hreplies : src.replies = src'.replies := congrArg Prod.snd hsettings
  obtain ⟨k, hk⟩ := Source.isInMemory_iff.mp (h src hsrc)
  rw [Source.isInMemory_iff]
  exact ⟨k, by rw [← hreplies, hk]⟩

/-- No step makes a source forget to reply from memory. -/
theorem inMemoryAt_step (h : s.InMemoryAt i) (x : Step) : (s.step x).2.InMemoryAt i := by
  by_cases hset : ∃ settings, x = .set i settings
  · obtain ⟨settings, rfl⟩ := hset
    cases hsrc : s.sources[i]? with
    | none => simpa [step, hsrc] using h
    | some src =>
      have hmemory := Source.isInMemory_setAll (h src hsrc) settings
      obtain ⟨hi, _⟩ := List.getElem?_eq_some_iff.mp hsrc
      intro src' hsrc'
      simp only [step, hsrc, List.getElem?_set_self hi, Option.some.injEq] at hsrc'
      rw [← hsrc']
      exact hmemory
  · have hkept := s.settingsAt?_step fun settings hx => hset ⟨settings, hx⟩
    exact h.of_settingsAt? hkept

theorem inMemoryAt_run (h : s.InMemoryAt i) (xs : List Step) : (s.run xs).2.InMemoryAt i := by
  induction xs generalizing s with
  | nil => exact h
  | cons x xs ih => exact ih (inMemoryAt_step h x)

/-! ### The passes of a step -/

/-- The `j`-th pass of a step is one through the source at position `i`, which
    takes `calls` in it, and is answered with `r`. It begins when the passes
    before it in the step are over. -/
structure PassOf (s : Session) (x : Step) (j i : Nat) (r : PassResult) (calls : List Call) :
    Prop where
  target_eq : x.targets[j]? = some i
  result_eq : (s.step x).1.results[j]? = some r
  /-- From `s₁` to `s₂` the pass runs, published or not. -/
  runs : ∃ rs log s₁ s₂, s.readAll (x.targets.take j) = some (rs, log, s₁) ∧
    s₁.readUnpublished i = some (r, s₂) ∧ s₂.callsOf i = s₁.callsOf i ++ calls

/-- What a pass adds to the calls of its source is what it asks. -/
theorem callsOf_readUnpublished {r : PassResult} (h : s.readUnpublished i = some (r, s')) :
    ∃ src, s.sources[i]? = some src ∧ r.map (·.contents) = s.outcomeOf src ∧
      s'.callsOf i = s.callsOf i ++ src.asked (pass src.profile s.config) := by
  obtain ⟨src, hsrc, houtcome, hsources⟩ := exists_source_of_readUnpublished h
  obtain ⟨hi, _⟩ := List.getElem?_eq_some_iff.mp hsrc
  refine ⟨src, hsrc, houtcome, ?_⟩
  unfold callsOf
  rw [hsources, List.getElem?_set_self hi, hsrc, Source.hold_snd]
  rfl

/-- How a pass ends and what it asks, its source decides as it was before the
    step, but for the calls that the source has answered. -/
theorem PassOf.exists_source {x : Step} {j : Nat} {r : PassResult} {calls : List Call}
    (h : s.PassOf x j i r calls) : ∃ src : Source, s.settingsAt? i = some src.settings ∧
      r.map (·.contents) = (src.hold (pass src.profile s.config)).1 ∧
      calls = src.asked (pass src.profile s.config) := by
  obtain ⟨rs, log, s₁, s₂, hbefore, hread, hcalls⟩ := h.runs
  obtain ⟨src, hsrc, houtcome, hmade⟩ := callsOf_readUnpublished hread
  have hconfig : s₁.config = s.config := (advance_readAll hbefore).config_eq
  have hsettings : s.settingsAt? i = some src.settings := by
    rw [← settingsAt?_readAll hbefore i, settingsAt?, hsrc, Option.map_some]
  rw [hmade] at hcalls
  refine ⟨src, hsettings, ?_, ?_⟩
  · rw [houtcome, outcomeOf, hconfig]
  · rw [← hconfig]
    exact (List.append_cancel_left hcalls).symm

/-- Each pass of a group begins where those before it have led. -/
theorem exists_read_of_readAll {is : List Nat} {rs : List PassResult} {log : List (Nat × Call)}
    (h : s.readAll is = some (rs, log, s')) {j : Nat} {r : PassResult} (hr : rs[j]? = some r) :
    ∃ i rs₁ log₁ s₁ s₂, is[j]? = some i ∧ s.readAll (is.take j) = some (rs₁, log₁, s₁) ∧
      s₁.readUnpublished i = some (r, s₂) := by
  induction is generalizing s rs log j with
  | nil =>
    cases h
    cases hr
  | cons k is ih =>
    obtain ⟨r₀, s₀, rs', log', hread, hrest, rfl, _⟩ := readAll_cons_eq_some h
    cases j with
    | zero =>
      cases hr
      obtain ⟨s₂, hs₂, _⟩ := read_eq_some hread
      exact ⟨k, [], [], s, s₂, rfl, rfl, hs₂⟩
    | succ j =>
      obtain ⟨i, rs₁, log₁, s₁, s₂, hi, hbefore, hpass⟩ := ih hrest hr
      obtain ⟨log₂, hall⟩ := exists_readAll_cons hread hbefore
      exact ⟨i, r₀ :: rs₁, log₂, s₁, s₂, hi, hall, hpass⟩

/-- A result that a step answers with is that of one of its passes. -/
theorem exists_passOf (s : Session) (x : Step) {j : Nat} {r : PassResult}
    (hr : (s.step x).1.results[j]? = some r) : ∃ i calls, s.PassOf x j i r calls := by
  -- it is enough to find the pass: what its source takes in it is what it asks
  have hfound : ∀ {i : Nat} {rs log s₁ s₂}, x.targets[j]? = some i →
      s.readAll (x.targets.take j) = some (rs, log, s₁) → s₁.readUnpublished i = some (r, s₂) →
      ∃ i calls, s.PassOf x j i r calls := by
    intro i rs log s₁ s₂ hi hbefore hread
    obtain ⟨src, _, _, hcalls⟩ := callsOf_readUnpublished hread
    exact ⟨i, _, hi, hr, rs, log, s₁, s₂, hbefore, hread, hcalls⟩
  rcases step_cases s x with hquiet | ⟨k, r', s', rfl, h, hstep⟩ | ⟨k, r', s', rfl, h, hstep⟩ |
    ⟨is, rs, log, s', rfl, h, hstep⟩
  · rw [hquiet.results_eq] at hr
    cases hr
  · rw [hstep] at hr
    cases j with
    | succ j => cases hr
    | zero =>
      cases hr
      obtain ⟨s₂, hs₂, _⟩ := read_eq_some h
      exact hfound rfl rfl hs₂
  · rw [hstep] at hr
    cases j with
    | succ j => cases hr
    | zero =>
      cases hr
      exact hfound rfl rfl h
  · rw [hstep] at hr
    obtain ⟨i, rs₁, log₁, s₁, s₂, hi, hbefore, hread⟩ := exists_read_of_readAll h hr
    exact hfound hi hbefore hread

/-! ### The passes of a run -/

theorem run_append (s : Session) (xs ys : List Step) :
    s.run (xs ++ ys) =
      ((s.run xs).1 ++ ((s.run xs).2.run ys).1, ((s.run xs).2.run ys).2) := by
  induction xs generalizing s with
  | nil => rfl
  | cons x xs ih => simp only [List.cons_append, run_cons, ih]

/-- Each answer of a run is that to its step after the steps before. -/
theorem getElem?_answers (s : Session) (xs : List Step) (m : Nat) :
    (s.run xs).1[m]? = xs[m]?.map fun x => ((s.run (xs.take m)).2.step x).1 := by
  induction xs generalizing s m with
  | nil => rfl
  | cons x xs ih =>
    cases m with
    | zero => rfl
    | succ m =>
      rw [run_cons, List.getElem?_cons_succ, ih, List.getElem?_cons_succ, List.take_succ_cons,
        run_cons]

/-- The `j`-th pass of the `m`-th step of a run is one through the source at
    position `i`, which takes `calls` in it, and is answered with `r`. -/
def PassAt (s : Session) (xs : List Step) (m j i : Nat) (r : PassResult) (calls : List Call) :
    Prop :=
  ∃ x, xs[m]? = some x ∧ (s.run (xs.take m)).2.PassOf x j i r calls

/-- A result in the answers of a run is that of one of its passes. -/
theorem exists_passAt {xs : List Step} {m j : Nat} {a : Answer} {r : PassResult}
    (ha : (s.run xs).1[m]? = some a) (hr : a.results[j]? = some r) :
    ∃ i calls, s.PassAt xs m j i r calls := by
  rw [getElem?_answers, Option.map_eq_some_iff] at ha
  obtain ⟨x, hx, rfl⟩ := ha
  obtain ⟨i, calls, hpass⟩ := exists_passOf _ x hr
  exact ⟨i, calls, x, hx, hpass⟩

/-- The source is not set anew from the `m₁`-th step to the `m₂`-th. -/
def UnsetBetween (xs : List Step) (i m₁ m₂ : Nat) : Prop :=
  ∀ m, m₁ ≤ m → m < m₂ → ∀ settings, xs[m]? ≠ some (.set i settings)

theorem settingsAt?_between {xs : List Step} {m₁ m₂ : Nat} (hle : m₁ ≤ m₂)
    (hunset : UnsetBetween xs i m₁ m₂) :
    (s.run (xs.take m₂)).2.settingsAt? i = (s.run (xs.take m₁)).2.settingsAt? i := by
  have hsplit : xs.take m₂ = xs.take m₁ ++ (xs.drop m₁).take (m₂ - m₁) := by
    rw [← List.take_add, Nat.add_sub_cancel' hle]
  rw [hsplit, run_append]
  apply settingsAt?_run
  rintro x hx settings rfl
  -- such a step would be one of those in between
  obtain ⟨n, hn⟩ := List.mem_iff_getElem?.mp hx
  rw [List.getElem?_take, List.getElem?_drop] at hn
  split at hn
  · exact hunset (m₁ + n) (by omega) (by omega) settings hn
  · cases hn

/-- **History.** Every result in the answers of a run is that of a pass, alone
    or in a group. Any two passes through one in-memory source come to the
    same contents or the same error, and ask the same calls of it, whatever
    lies between them, unless the source was set anew there. -/
theorem passes_independent_of_history (s : Session) (xs : List Step) :
    (∀ m j a r, (s.run xs).1[m]? = some a → a.results[j]? = some r →
      ∃ i calls, s.PassAt xs m j i r calls) ∧
    ∀ i, s.InMemoryAt i → ∀ m₁ m₂, m₁ ≤ m₂ → UnsetBetween xs i m₁ m₂ →
      ∀ j₁ j₂ r₁ r₂ calls₁ calls₂,
        s.PassAt xs m₁ j₁ i r₁ calls₁ → s.PassAt xs m₂ j₂ i r₂ calls₂ →
        r₁.map (·.contents) = r₂.map (·.contents) ∧ calls₁ = calls₂ := by
  refine ⟨fun m j a r => exists_passAt, ?_⟩
  intro i hmemory m₁ m₂ hle hunset j₁ j₂ r₁ r₂ calls₁ calls₂ h₁ h₂
  obtain ⟨x₁, _, hpass₁⟩ := h₁
  obtain ⟨x₂, _, hpass₂⟩ := h₂
  obtain ⟨src₁, hsettings₁, hresult₁, hcalls₁⟩ := hpass₁.exists_source
  obtain ⟨src₂, hsettings₂, hresult₂, hcalls₂⟩ := hpass₂.exists_source
  -- the two passes find the source with the same settings
  have hsettings : src₁.settings = src₂.settings := by
    have hbetween := settingsAt?_between (s := s) hle hunset
    rw [hsettings₁, hsettings₂, Option.some.injEq] at hbetween
    exact hbetween.symm
  have hprofile : src₁.profile = src₂.profile := congrArg Prod.fst hsettings
  have hreplies : src₁.replies = src₂.replies := congrArg Prod.snd hsettings
  have hconfig : ∀ m, (s.run (xs.take m)).2.config = s.config :=
    fun m => (advance_run s (xs.take m)).config_eq
  -- and its replies are canned, so that the two dialogues are one and the same
  obtain ⟨k, hk⟩ : ∃ k, src₁.replies = .canned k := by
    obtain ⟨src, hsrc, hsame⟩ := Option.map_eq_some_iff.mp hsettings₁
    obtain ⟨k, hk⟩ := Source.isInMemory_iff.mp (inMemoryAt_run hmemory _ src hsrc)
    have hreplies' : src.replies = src₁.replies := congrArg Prod.snd hsame
    exact ⟨k, by rw [← hreplies', hk]⟩
  have hk' : src₂.replies = .canned k := by
    rw [← hreplies, hk]
  obtain ⟨hasked, hhold⟩ := Source.dialogue_of_canned hk hk' (pass src₁.profile s.config)
  rw [hconfig] at hresult₁ hcalls₁ hresult₂ hcalls₂
  rw [← hprofile] at hresult₂ hcalls₂
  refine ⟨?_, ?_⟩
  · rw [hresult₁, hresult₂, hhold]
  · rw [hcalls₁, hcalls₂, hasked]

/-- An H2 database that does not answer the query for the mode is read alone and
    as the last of a group, and another one fails, is set anew and read in
    between: the first and the last pass come to the same. -/
theorem passes_alike_of_h2 :
    let src := (Source.inMemory "H2").setAll [.url "jdbc:h2:mem:test", .user "sa",
      .flagged [("INFORMATION_SCHEMA", false), ("Public", true)], .failure modeQuery "denied"]
    let other := (Source.inMemory "PostgreSQL").setAll [.listingError "down"]
    let s : Session := { config := {}, sources := [src, other] }
    let xs : List Step := [.read 0, .call 0 .listing, .read 1,
      .set 1 [.url "jdbc:postgresql://host", .names ["public"]], .detect 0 true,
      .concurrent [1, 0, 0]]
    s.InMemoryAt 0 ∧ 0 ≤ 5 ∧ UnsetBetween xs 0 0 5 ∧
      ∃ r₁ r₂ calls₁ calls₂, s.PassAt xs 0 0 0 r₁ calls₁ ∧ s.PassAt xs 5 2 0 r₂ calls₂ ∧
        r₁.map (·.contents) = r₂.map (·.contents) ∧ calls₁ = calls₂ := by
  intro src other s xs
  obtain ⟨hresults, hpasses⟩ := passes_independent_of_history s xs
  have hmemory : s.InMemoryAt 0 := by
    intro src' hsrc'
    cases hsrc'
    rfl
  have hunset : UnsetBetween xs 0 0 5 := by
    intro m _ _ settings hm
    have hmem : Step.set 0 settings ∈ xs := List.mem_of_getElem? hm
    simp [xs] at hmem
  -- an answered result belongs to the source that the step names for it
  have hfound : ∀ m j, ((s.run xs).1[m]?.bind (·.results[j]?)).isSome = true →
      xs[m]?.bind (·.targets[j]?) = some 0 → ∃ r calls, s.PassAt xs m j 0 r calls := by
    intro m j hsome htarget
    obtain ⟨r, hr⟩ := Option.isSome_iff_exists.mp hsome
    obtain ⟨a, ha, hr⟩ := Option.bind_eq_some_iff.mp hr
    obtain ⟨i, calls, x, hx, hpass⟩ := hresults m j a r ha hr
    rw [hx, Option.bind_some, hpass.target_eq, Option.some.injEq] at htarget
    subst htarget
    exact ⟨r, calls, x, hx, hpass⟩
  obtain ⟨r₁, calls₁, h₁⟩ := hfound 0 0 (by decide +kernel) rfl
  obtain ⟨r₂, calls₂, h₂⟩ := hfound 5 2 (by decide +kernel) rfl
  have hle : 0 ≤ 5 := Nat.zero_le 5
  exact ⟨hmemory, hle, hunset, r₁, r₂, calls₁, calls₂, h₁, h₂,
    hpasses 0 hmemory 0 5 hle hunset 0 2 r₁ r₂ calls₁ calls₂ h₁ h₂⟩

end Session

end Schemata
