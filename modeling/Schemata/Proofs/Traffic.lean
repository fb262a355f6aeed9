import Schemata.Proofs.Provenance
import Schemata.Proofs.Stages

/-! # Metadata traffic

    Which calls a pass makes, and which calls a session makes of its
    sources. A pass asks for the mode of H2, then for the schemas, then for
    the default schema, each of them at most once; `passCalls` tells from
    the profile, the configuration and the ending which of the three it is.

    `Session.traffic` lists the calls of a step, each with the position of
    its source. A source keeps the calls of the steps that name it and no
    others (`called_step`, `called_run`). -/

namespace Schemata

/-! ### Passes -/

/-- The calls of a pass with a source of the given profile. -/
def passCalls (p : Profile) (cfg : Config) (outcome : Outcome) : List Call :=
  p.dialect.detectionCalls cfg.probeMode ++ p.dialect.enumerationCalls ++
    if outcome.hasSchemas then p.dialect.resolutionCalls else []

theorem queryCount_append (cs cs' : List Call) :
    queryCount (cs ++ cs') = queryCount cs + queryCount cs' := by
  simp [queryCount]

theorem listingCount_append (cs cs' : List Call) :
    listingCount (cs ++ cs') = listingCount cs + listingCount cs' := by
  simp [listingCount]

/-- Of the three things that a pass may ask, the first is a query. -/
theorem queryCount_passCalls_le (p : Profile) (cfg : Config) (outcome : Outcome) :
    queryCount (passCalls p cfg outcome) ≤ 1 := by
  have hdetection : queryCount (p.dialect.detectionCalls cfg.probeMode) ≤ 1 := by
    unfold Dialect.detectionCalls
    split <;> simp [queryCount, Call.isListing]
  have henumeration : queryCount p.dialect.enumerationCalls = 0 := by
    unfold Dialect.enumerationCalls
    split <;> simp [queryCount, Call.isListing]
  have hresolution : queryCount p.dialect.resolutionCalls = 0 := by
    unfold Dialect.resolutionCalls
    split <;> simp [queryCount, Call.isListing]
  unfold passCalls
  rw [queryCount_append, queryCount_append, henumeration]
  split
  · omega
  · simpa [queryCount] using hdetection

/-- The other two are listings. -/
theorem listingCount_passCalls_le (p : Profile) (cfg : Config) (outcome : Outcome) :
    listingCount (passCalls p cfg outcome) ≤ 2 := by
  have hdetection : listingCount (p.dialect.detectionCalls cfg.probeMode) = 0 := by
    unfold Dialect.detectionCalls
    split <;> simp [listingCount, Call.isListing]
  have henumeration : listingCount p.dialect.enumerationCalls ≤ 1 := by
    unfold Dialect.enumerationCalls
    split <;> simp [listingCount, Call.isListing]
  have hresolution : listingCount p.dialect.resolutionCalls ≤ 1 := by
    unfold Dialect.resolutionCalls
    split <;> simp [listingCount, Call.isListing]
  unfold passCalls
  rw [listingCount_append, listingCount_append, hdetection]
  split
  · omega
  · simp only [listingCount, List.countP_nil] at henumeration ⊢
    omega

namespace Source

variable (s : Source) (cfg : Config)

theorem asked_pass : s.asked (pass s.profile cfg) =
    passCalls s.profile cfg (s.hold (pass s.profile cfg)).1 := by
  have hdetect := s.asked_detect s.profile cfg.probeMode
  have henumerate := (s.detected cfg).asked_schemaNames (s.facts cfg)
  have hresolve := (s.enumerated cfg).asked_defaultName (s.facts cfg) s.profile.user
  rw [dialect_facts] at henumerate hresolve
  unfold asked at hdetect henumerate hresolve ⊢
  rw [exchanges_pass, List.map_append, List.map_append, hdetect, henumerate, passCalls]
  split
  · rw [hresolve]
  · rfl

/-- What a pass through the source asks of it. -/
structure PassTraffic : Prop where
  /-- The calls are those of `passCalls`, in that order. -/
  asked_eq : s.asked (pass s.profile cfg) =
    passCalls s.profile cfg (s.hold (pass s.profile cfg)).1
  /-- The source keeps them all, failed ones too. -/
  calls_eq : (s.hold (pass s.profile cfg)).2.calls =
    s.calls ++ passCalls s.profile cfg (s.hold (pass s.profile cfg)).1
  one_query : queryCount (s.asked (pass s.profile cfg)) ≤ 1
  two_listings : listingCount (s.asked (pass s.profile cfg)) ≤ 2
  /-- MySQL and Firebird are asked nothing. -/
  silent : s.profile.dialect = .mySql ∨ s.profile.dialect = .firebird →
    s.asked (pass s.profile cfg) = []
  /-- SQLite is asked for one listing, which may fail. -/
  tolerated : s.profile.dialect = .sqlite →
    s.asked (pass s.profile cfg) = [.listing] ∧ ∃ c, (s.hold (pass s.profile cfg)).1 = .ok c
  /-- Oracle, PostgreSQL and Derby are asked for the schemas only. -/
  one_listing : s.profile.dialect = .oracle ∨ s.profile.dialect = .postgreSql ∨
      s.profile.dialect = .derby → s.asked (pass s.profile cfg) = [.listing]

/-- Where schemas are not listed a pass succeeds, and there is a schema. -/
theorem hold_pass_of_not_listed (h : s.profile.dialect.schemaNamespace ≠ .listed) :
    (∃ c, (s.hold (pass s.profile cfg)).1 = .ok c) ∧
      (s.hold (pass s.profile cfg)).1.hasSchemas = true := by
  obtain ⟨name, hname⟩ := s.names_of_not_listed cfg h
  refine ⟨?_, ?_⟩
  · rw [hold_pass, hname]
    exact ⟨_, rfl⟩
  · rw [hasSchemas_hold_pass, hname]
    rfl

theorem passTraffic : s.PassTraffic cfg := by
  have hasked := s.asked_pass cfg
  constructor
  case asked_eq => exact hasked
  case calls_eq => rw [hold_snd, afterAll, hasked]
  case one_query =>
    rw [hasked]
    exact queryCount_passCalls_le _ _ _
  case two_listings =>
    rw [hasked]
    exact listingCount_passCalls_le _ _ _
  case silent =>
    intro hd
    rw [hasked, passCalls]
    rcases hd with hd | hd <;> rw [hd] <;> split <;> rfl
  case tolerated =>
    intro hd
    have hnot : s.profile.dialect.schemaNamespace ≠ .listed := by
      rw [hd]
      decide
    obtain ⟨hok, hschemas⟩ := s.hold_pass_of_not_listed cfg hnot
    refine ⟨?_, hok⟩
    rw [hasked, passCalls, hschemas, hd]
    rfl
  case one_listing =>
    intro hd
    rw [hasked, passCalls]
    rcases hd with hd | hd | hd <;> rw [hd] <;> split <;> rfl

end Source

/-! ### Counting -/

theorem isListing_eq_decide (c : Call) : c.isListing = decide (c = .listing) := by
  cases c <;> rfl

theorem listingCount_eq_count (cs : List Call) : listingCount cs = cs.count .listing := by
  unfold listingCount
  rw [List.count_eq_countP]
  congr 1
  funext c
  rw [isListing_eq_decide]
  rfl

theorem queryCount_eq_countP (cs : List Call) : queryCount cs = cs.countP (· ≠ .listing) := by
  unfold queryCount
  congr 1
  funext c
  rw [Call.isQuery_eq_not_isListing, isListing_eq_decide]
  simp

theorem listingCount_add_queryCount (cs : List Call) :
    listingCount cs + queryCount cs = cs.length := by
  unfold listingCount queryCount
  rw [List.length_eq_countP_add_countP Call.isListing]
  congr 2
  funext c
  simp

/-! ### Logs -/

/-- The calls of a log that went to the source at the position. -/
def callsTo (i : Nat) (log : List (Nat × Call)) : List Call :=
  (log.filter (·.1 == i)).map (·.2)

@[simp] theorem callsTo_nil (i : Nat) : callsTo i [] = [] := rfl

theorem callsTo_append (i : Nat) (log log' : List (Nat × Call)) :
    callsTo i (log ++ log') = callsTo i log ++ callsTo i log' := by
  simp [callsTo]

theorem callsTo_self (i : Nat) (cs : List Call) : callsTo i (cs.map (i, ·)) = cs := by
  simp [callsTo, List.filter_map, Function.comp_def]

/-- A log in which the source does not occur has none of its calls. -/
theorem callsTo_of_forall_ne {i : Nat} {log : List (Nat × Call)} (h : ∀ e ∈ log, e.1 ≠ i) :
    callsTo i log = [] := by
  have hnone : log.filter (·.1 == i) = [] := by
    rw [List.filter_eq_nil_iff]
    intro e he
    simpa using h e he
  rw [callsTo, hnone, List.map_nil]

/-- The positions of the sources that a step may call. -/
def Step.named : Step → List Nat
  | .read i | .readUnpublished i | .detect i _ | .enumerate i _ | .resolve i _ | .call i _ => [i]
  | .concurrent is => is
  | _ => []

namespace Session

variable {s s₁ s' : Session} {log log' : List (Nat × Call)}

/-- From `s` to `s'` the sources were called as the log says. -/
def Called (s : Session) (log : List (Nat × Call)) (s' : Session) : Prop :=
  ∀ i, s'.callsOf i = s.callsOf i ++ callsTo i log

theorem Called.refl (s : Session) : s.Called [] s := by
  intro i
  rw [callsTo_nil, List.append_nil]

theorem Called.trans (h : s.Called log s₁) (h' : s₁.Called log' s') :
    s.Called (log ++ log') s' := by
  intro i
  rw [h' i, h i, callsTo_append, List.append_assoc]

/-- The source at one position has taken more calls, all others are as they
    were. -/
theorem called_set {i : Nat} {src src' : Source} {cs : List Call} (h : s.sources[i]? = some src)
    (hcalls : src'.calls = src.calls ++ cs) (hs' : s'.sources = s.sources.set i src') :
    s.Called (cs.map (i, ·)) s' := by
  obtain ⟨hi, rfl⟩ := List.getElem?_eq_some_iff.mp h
  intro j
  unfold callsOf
  rw [hs']
  by_cases hj : i = j
  · subst hj
    rw [callsTo_self]
    simp [hi, hcalls]
  · have hnone : callsTo j (cs.map (i, ·)) = [] := by
      apply callsTo_of_forall_ne
      intro e he
      obtain ⟨c, _, rfl⟩ := List.mem_map.mp he
      exact hj
    rw [hnone]
    simp [hj]

/-! ### The calls of a step -/

/-- The calls of a pass through the source at the position. -/
def passTraffic (s : Session) (i : Nat) (r : PassResult) : List (Nat × Call) :=
  match s.profiles[i]? with
  | some p => (passCalls p s.config (r.map (·.contents))).map (i, ·)
  | none => []

/-- The calls of a step that was answered, each with the position of its
    source. -/
def traffic (s : Session) : Step → Answer → List (Nat × Call)
  | .read i, .pass r => s.passTraffic i r
  | .readUnpublished i, .pass r => s.passTraffic i r
  | .concurrent is, .passes rs _ => (is.zip rs).flatMap fun e => s.passTraffic e.1 e.2
  | .detect i probe, .facts f => (f.dialect.detectionCalls probe).map (i, ·)
  | .enumerate i f, .names _ => f.dialect.enumerationCalls.map (i, ·)
  | .resolve i f, .name _ => f.dialect.resolutionCalls.map (i, ·)
  | .call i c, .reply _ => [(i, c)]
  | _, _ => []

/-- The calls of a run. -/
def trafficOf (s : Session) : List Step → List (Nat × Call)
  | [] => []
  | x :: xs => s.traffic x (s.step x).1 ++ (s.step x).2.trafficOf xs

-- Of a pass only its traffic matters here, and of a stage only what it asks.
attribute [local irreducible] pass detect schemaNames defaultName

section Asked

variable {src : Source} {i : Nat}

/-- The calls of a pass are those that its source is asked for. -/
theorem passTraffic_eq {r : PassResult} (hsrc : s.sources[i]? = some src)
    (hr : r.map (·.contents) = (src.hold (pass src.profile s.config)).1) :
    s.passTraffic i r = (src.asked (pass src.profile s.config)).map (i, ·) := by
  have hprofile : s.profiles[i]? = some src.profile := by
    rw [profiles, List.getElem?_map, hsrc, Option.map_some]
  rw [passTraffic, hprofile, Source.asked_pass, hr]

theorem traffic_detect (probe : Bool) :
    s.traffic (.detect i probe) (.facts (src.hold (detect src.profile probe)).1) =
      (src.asked (detect src.profile probe)).map (i, ·) := by
  rw [Source.asked_detect, traffic, Source.dialect_hold_detect]

theorem traffic_enumerate (f : Facts) :
    s.traffic (.enumerate i f) (.names (src.hold (schemaNames f)).1) =
      (src.asked (schemaNames f)).map (i, ·) := by
  rw [Source.asked_schemaNames]
  rfl

theorem traffic_resolve (f : Facts) (user : String) :
    s.traffic (.resolve i f) (.name (src.hold (defaultName f user)).1) =
      (src.asked (defaultName f user)).map (i, ·) := by
  rw [Source.asked_defaultName]
  rfl

end Asked

/-! ### Passes of a session -/

theorem passTraffic_congr (hprofiles : s'.profiles = s.profiles) (hconfig : s'.config = s.config)
    (i : Nat) (r : PassResult) : s'.passTraffic i r = s.passTraffic i r := by
  unfold passTraffic
  rw [hprofiles, hconfig]

theorem called_readUnpublished {i : Nat} {r : PassResult}
    (h : s.readUnpublished i = some (r, s')) : s.Called (s.passTraffic i r) s' := by
  obtain ⟨src, hsrc, houtcome, hsources⟩ := exists_source_of_readUnpublished h
  rw [passTraffic_eq hsrc houtcome]
  refine called_set hsrc ?_ hsources
  rw [Source.hold_snd]
  rfl

theorem called_read {i : Nat} {r : PassResult} (h : s.read i = some (r, s')) :
    s.Called (s.passTraffic i r) s' := by
  obtain ⟨s₁, hs₁, rfl⟩ := read_eq_some h
  have hcalled := called_readUnpublished hs₁
  intro j
  rw [← hcalled j, callsOf, sources_publish, callsOf]

/-- Passes started at once make the calls of each in turn, and that is the log
    that is answered. -/
theorem called_readAll {s : Session} {is : List Nat} {rs : List PassResult}
    {log : List (Nat × Call)} (h : s.readAll is = some (rs, log, s')) :
    log = (is.zip rs).flatMap (fun e => s.passTraffic e.1 e.2) ∧ s.Called log s' := by
  induction is generalizing s rs log with
  | nil =>
    cases h
    exact ⟨rfl, Called.refl _⟩
  | cons i is ih =>
    obtain ⟨r, s₁, rs', log', hread, hrest, rfl, hlog⟩ := readAll_cons_eq_some h
    obtain ⟨hlog', hcalled'⟩ := ih hrest
    have hcalled := called_read hread
    -- what the source has been called since is what the pass has asked
    have hmade : ((s₁.callsOf i).drop (s.callsOf i).length).map (i, ·) = s.passTraffic i r := by
      rw [hcalled i, List.drop_left]
      unfold passTraffic
      cases s.profiles[i]? with
      | none => rfl
      | some p => simp only [callsTo_self]
    -- and the passes after it find the profiles unchanged
    have hsame : ∀ e : Nat × PassResult, s₁.passTraffic e.1 e.2 = s.passTraffic e.1 e.2 :=
      fun e => passTraffic_congr (soundResult_read hread).2 (advance_read hread).config_eq e.1 e.2
    rw [hmade] at hlog
    simp only [hsame] at hlog'
    refine ⟨?_, ?_⟩
    · rw [hlog, hlog']
      rfl
    · rw [hlog]
      exact hcalled.trans hcalled'

/-! ### Steps -/

/-- A step that holds an inquiry makes its calls of the source at the position,
    if there is one. -/
theorem called_inquiry {α : Type} {q : Profile → Inquiry α} {f : α → Answer} {x : Step} {i : Nat}
    (hstep : s.step x = s.answer i q f) (hnone : s.traffic x .noSource = [])
    (hsome : ∀ src : Source, s.traffic x (f (src.hold (q src.profile)).1) =
      (src.asked (q src.profile)).map (i, ·)) :
    s.Called (s.traffic x (s.step x).1) (s.step x).2 := by
  rw [hstep]
  unfold answer hold
  cases hsrc : s.sources[i]? with
  | none =>
    rw [Option.map_none, hnone]
    exact Called.refl s
  | some src =>
    rw [Option.map_some, hsome src]
    refine called_set hsrc ?_ rfl
    rw [Source.hold_snd]
    rfl

theorem called_step (s : Session) (x : Step) :
    s.Called (s.traffic x (s.step x).1) (s.step x).2 := by
  cases x with
  | read i =>
    cases h : s.read i with
    | none => simpa [step, h, traffic] using Called.refl s
    | some r => simpa [step, h, traffic] using called_read h
  | readUnpublished i =>
    cases h : s.readUnpublished i with
    | none => simpa [step, h, traffic] using Called.refl s
    | some r => simpa [step, h, traffic] using called_readUnpublished h
  | concurrent is =>
    cases h : s.readAll is with
    | none => simpa [step, h, traffic] using Called.refl s
    | some r =>
      obtain ⟨hlog, hcalled⟩ := called_readAll h
      rw [hlog] at hcalled
      simpa [step, h, traffic] using hcalled
  | snapshot => exact Called.refl s
  | quote identifier => exact Called.refl s
  | config => exact Called.refl s
  | detect i probe => exact called_inquiry rfl rfl fun src => traffic_detect probe
  | enumerate i f => exact called_inquiry rfl rfl fun src => traffic_enumerate f
  | resolve i f => exact called_inquiry rfl rfl fun src => traffic_resolve f src.profile.user
  | call i c => exact called_inquiry rfl rfl fun src => rfl
  | profile i => exact called_inquiry rfl rfl fun src => rfl
  | calls i =>
    cases h : s.sources[i]? with
    | none => simpa [step, h, traffic] using Called.refl s
    | some src => simpa [step, h, traffic] using Called.refl s
  | set i xs =>
    cases h : s.sources[i]? with
    | none => simpa [step, h, traffic] using Called.refl s
    | some src =>
      -- settings change the replies to come, and no call that was made
      have hcalls : (src.setAll xs).calls = src.calls ++ [] := by
        rw [Source.calls_setAll, List.append_nil]
      simpa [step, h, traffic] using called_set h hcalls rfl

/-- A run makes the calls of its steps in turn. -/
theorem called_run (s : Session) (xs : List Step) : s.Called (s.trafficOf xs) (s.run xs).2 := by
  induction xs generalizing s with
  | nil => exact Called.refl s
  | cons x xs ih => exact (called_step s x).trans (ih (s.step x).2)

/-! ### Which sources are called -/

theorem position_of_mem_passTraffic {i : Nat} {r : PassResult} {e : Nat × Call}
    (h : e ∈ s.passTraffic i r) : e.1 = i := by
  unfold passTraffic at h
  split at h
  · obtain ⟨c, _, rfl⟩ := List.mem_map.mp h
    rfl
  · cases h

/-- A step calls no source but those it names. -/
theorem position_mem_named {x : Step} {a : Answer} {e : Nat × Call} (h : e ∈ s.traffic x a) :
    e.1 ∈ x.named := by
  have hmap : ∀ {i : Nat} {cs : List Call}, e ∈ cs.map (i, ·) → e.1 = i := by
    intro i cs he
    obtain ⟨c, _, rfl⟩ := List.mem_map.mp he
    rfl
  unfold traffic at h
  split at h
  case h_1 i r => simp [Step.named, position_of_mem_passTraffic h]
  case h_2 i r => simp [Step.named, position_of_mem_passTraffic h]
  case h_3 is rs _ =>
    obtain ⟨⟨i, r⟩, hmem, he⟩ := List.mem_flatMap.mp h
    rw [position_of_mem_passTraffic he]
    exact (List.of_mem_zip hmem).1
  case h_4 i probe f => simp [Step.named, hmap h]
  case h_5 i f r => simp [Step.named, hmap h]
  case h_6 i f n => simp [Step.named, hmap h]
  case h_7 i c r => simp [Step.named, List.mem_singleton.mp h]
  case h_8 => cases h

theorem callsOf_step_of_not_named (s : Session) {x : Step} {i : Nat} (h : i ∉ x.named) :
    (s.step x).2.callsOf i = s.callsOf i := by
  have hnone : callsTo i (s.traffic x (s.step x).1) = [] := by
    apply callsTo_of_forall_ne
    rintro e he rfl
    exact h (position_mem_named he)
  rw [called_step s x i, hnone, List.append_nil]

/-! ### Which steps are answered -/

/-- The step is answered with `a`, and its calls are `cs`, all of the source at
    the position. -/
def Answers (s : Session) (x : Step) (a : Answer) (i : Nat) (cs : List Call) : Prop :=
  (s.step x).1 = a ∧ s.traffic x (s.step x).1 = cs.map (i, ·)

/-- Each step that calls the source at the position is answered with what the
    inquiry comes to, and makes the calls of that inquiry. -/
structure AnswersAt (s : Session) (i : Nat) (src : Source) : Prop where
  read : ∃ r, r.map (·.contents) = (src.hold (pass src.profile s.config)).1 ∧
    s.Answers (.read i) (.pass r) i (src.asked (pass src.profile s.config))
  readUnpublished : ∃ r, r.map (·.contents) = (src.hold (pass src.profile s.config)).1 ∧
    s.Answers (.readUnpublished i) (.pass r) i (src.asked (pass src.profile s.config))
  detect : ∀ probe, s.Answers (.detect i probe)
    (.facts (src.hold (Schemata.detect src.profile probe)).1) i
    (src.asked (Schemata.detect src.profile probe))
  enumerate : ∀ f, s.Answers (.enumerate i f) (.names (src.hold (schemaNames f)).1) i
    (src.asked (schemaNames f))
  resolve : ∀ f, s.Answers (.resolve i f) (.name (src.hold (defaultName f src.profile.user)).1) i
    (src.asked (defaultName f src.profile.user))
  /-- A call is answered with the reply to it, whether it fails or not. -/
  call : ∀ c, s.Answers (.call i c) (.reply (src.reply c)) i [c]

section Answered

variable {src : Source} {i : Nat}

theorem answers_of_inquiry {α : Type} (q : Profile → Inquiry α) (f : α → Answer) {x : Step}
    (hsrc : s.sources[i]? = some src) (hstep : s.step x = s.answer i q f)
    (htraffic : s.traffic x (f (src.hold (q src.profile)).1) =
      (src.asked (q src.profile)).map (i, ·)) :
    s.Answers x (f (src.hold (q src.profile)).1) i (src.asked (q src.profile)) := by
  have hanswer : (s.step x).1 = f (src.hold (q src.profile)).1 := by
    rw [hstep, answer, hold, hsrc, Option.map_some]
  refine ⟨hanswer, ?_⟩
  rw [hanswer, htraffic]

theorem exists_readUnpublished (hsrc : s.sources[i]? = some src) :
    ∃ r s', s.readUnpublished i = some (r, s') ∧
      r.map (·.contents) = (src.hold (pass src.profile s.config)).1 := by
  have hread : s.readUnpublished i = some ((s.afterPass i src).number (s.outcomeOf src)) := by
    rw [readUnpublished_eq, hsrc, Option.map_some]
  exact ⟨_, _, hread, contents_number _ _⟩

theorem answersAt (hsrc : s.sources[i]? = some src) : s.AnswersAt i src := by
  obtain ⟨r, s', hread, hr⟩ := exists_readUnpublished hsrc
  constructor
  case read =>
    have hanswer : (s.step (.read i)).1 = .pass r := by
      rw [step, Session.read, hread, Option.map_some]
    refine ⟨r, hr, hanswer, ?_⟩
    rw [hanswer]
    exact passTraffic_eq hsrc hr
  case readUnpublished =>
    have hanswer : (s.step (.readUnpublished i)).1 = .pass r := by
      rw [step, hread]
    refine ⟨r, hr, hanswer, ?_⟩
    rw [hanswer]
    exact passTraffic_eq hsrc hr
  case detect =>
    intro probe
    exact answers_of_inquiry (Schemata.detect · probe) .facts hsrc rfl (traffic_detect probe)
  case enumerate =>
    intro f
    exact answers_of_inquiry (fun _ => schemaNames f) .names hsrc rfl (traffic_enumerate f)
  case resolve =>
    intro f
    exact answers_of_inquiry (fun p => defaultName f p.user) .name hsrc rfl
      (traffic_resolve f src.profile.user)
  case call =>
    intro c
    exact answers_of_inquiry (fun _ => Inquiry.call c) .reply hsrc rfl rfl

/-- Passes started at once are all answered if each of them has a source. -/
theorem exists_readAll {is : List Nat} (h : ∀ i ∈ is, i < s.sources.length) :
    ∃ rs log s', s.readAll is = some (rs, log, s') ∧ rs.length = is.length := by
  induction is generalizing s with
  | nil => exact ⟨[], [], s, rfl, rfl⟩
  | cons i is ih =>
    obtain ⟨hi, his⟩ := List.forall_mem_cons.mp h
    obtain ⟨r, s₁, hunpublished, _⟩ := exists_readUnpublished (List.getElem?_eq_getElem hi)
    have hread : s.read i = some (r, s₁.publish r) := by
      rw [Session.read, hunpublished, Option.map_some]
    -- a pass leaves as many sources as there were
    have hlength : (s₁.publish r).sources.length = s.sources.length := by
      have hprofiles := congrArg List.length (soundResult_read hread).2
      rwa [profiles, profiles, List.length_map, List.length_map] at hprofiles
    obtain ⟨rs, log, s', hrest, hlen⟩ := ih fun j hj => hlength ▸ his j hj
    obtain ⟨log', hall⟩ := exists_readAll_cons hread hrest
    refine ⟨r :: rs, log', s', hall, ?_⟩
    rw [List.length_cons, List.length_cons, hlen]

end Answered

/-! ### The main result -/

/-- **Traffic.** A pass through any source asks for the mode of H2, the schemas
    and the default schema, in this order, and of each only what its dialect
    needs. A step that goes to a source is answered, and its calls are those of
    the pass, the stage or the call that was asked for. After any run of a session
    every source has kept the calls of the steps that went to it, failed ones too,
    and no others; each call is counted once, as a listing or as a query. -/
theorem metadata_traffic (s : Session) (xs : List Step) :
    (∀ (src : Source) (cfg : Config), src.PassTraffic cfg) ∧
      (∀ i, (s.run xs).2.callsOf i = s.callsOf i ++ callsTo i (s.trafficOf xs)) ∧
      (∀ x i, i ∉ x.named → (s.step x).2.callsOf i = s.callsOf i) ∧
      (∀ i src, s.sources[i]? = some src → s.AnswersAt i src) ∧
      (∀ is, (∀ i ∈ is, i < s.sources.length) → ∃ rs log,
        (s.step (.concurrent is)).1 = .passes rs log ∧ rs.length = is.length) ∧
      (∀ is rs log, (s.step (.concurrent is)).1 = .passes rs log →
        log = s.traffic (.concurrent is) (.passes rs log)) ∧
      ∀ src ∈ (s.run xs).2.sources,
        listingCount src.calls + queryCount src.calls = src.calls.length ∧
          listingCount src.calls = src.calls.count .listing ∧
          queryCount src.calls = src.calls.countP (· ≠ .listing) := by
  refine ⟨Source.passTraffic, called_run s xs, fun x i => callsOf_step_of_not_named s,
    fun i src => answersAt, ?_, ?_, ?_⟩
  · intro is his
    obtain ⟨rs, log, s', hall, hlength⟩ := exists_readAll his
    refine ⟨rs, log, ?_, hlength⟩
    rw [step, hall]
  · intro is rs log h
    cases hread : s.readAll is with
    | none => simp [step, hread] at h
    | some r =>
      simp only [step, hread, Answer.passes.injEq] at h
      obtain ⟨rfl, rfl⟩ := h
      exact (called_readAll hread).1
  · intro src _
    exact ⟨listingCount_add_queryCount _, listingCount_eq_count _, queryCount_eq_countP _⟩

end Session

end Schemata
