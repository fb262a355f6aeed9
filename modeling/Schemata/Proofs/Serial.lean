import Mathlib.Data.List.Perm.Basic
import Schemata.Proofs.Provenance
import Schemata.Proofs.Transition

/-! # Serial passes

    Interleaved passes come to the same as passes that run one after the
    other, in the order in which the lock was requested. At every moment the
    session is the one that the finished passes have led to serially, but
    for the calls that the holder of the lock has made since: this is
    `Serving`, and each step keeps it. -/

namespace Schemata

-- All that matters of a pass is who holds it with which source.
attribute [local irreducible] pass

/-! ### Passes in a row -/

namespace Session

/-- One more pass after those in a row. -/
theorem readAll_snoc {s s₁ s₂ : Session} {is : List Nat} {rs : List PassResult}
    {log : List (Nat × Call)} {i : Nat} {r : PassResult}
    (h : s.readAll is = some (rs, log, s₁)) (hread : s₁.read i = some (r, s₂)) :
    s.readAll (is ++ [i]) = some (rs ++ [r],
      log ++ ((s₂.callsOf i).drop (s₁.callsOf i).length).map (i, ·), s₂) := by
  induction is generalizing s rs log with
  | nil =>
    cases h
    simp [readAll, hread]
  | cons j js ih =>
    obtain ⟨r', s', rs', log', hread', hrest, rfl, rfl⟩ := readAll_cons_eq_some h
    simp [readAll, hread', ih hrest]

theorem profiles_readAll {s s' : Session} {is : List Nat} {rs : List PassResult}
    {log : List (Nat × Call)} (h : s.readAll is = some (rs, log, s')) :
    s'.profiles = s.profiles :=
  profiles_eq_of_settingsAt? (settingsAt?_readAll h)

end Session

namespace Interleaving

/-! ### The holder of the lock -/

section Holder

variable {s s₁ s' : Session} {src : Source} {calls : List Call} {w : Waiter} {ws : List Waiter}
  {made : List (Nat × Nat × Call)}

/-- What the waiter has requested: its own position, and that of its source. -/
def Waiter.request (w : Waiter) : Nat × Nat := (w.caller, w.source)

/-- The waiter has its whole pass before it. -/
def Waiter.Fresh (w : Waiter) (s : Session) : Prop :=
  ∃ p, s.profiles[w.source]? = some p ∧ w.rest = pass p s.config

theorem Waiter.Fresh.of_profiles (h : w.Fresh s) (hprofiles : s'.profiles = s.profiles)
    (hconfig : s'.config = s.config) : w.Fresh s' := by
  obtain ⟨p, hp, hrest⟩ := h
  exact ⟨p, by rw [hprofiles, hp], by rw [hconfig, hrest]⟩

/-- The waiter took the lock in the session `s₁` and has made `calls` since,
    which has led to `s'`. Its source was `src`, and the pass will end as if
    it had been held with `src` in one go. -/
structure Underway (s₁ : Session) (src : Source) (calls : List Call) (w : Waiter)
    (s' : Session) : Prop where
  source_eq : s₁.sources[w.source]? = some src
  session_eq : s' = { s₁ with sources := s₁.sources.set w.source (src.afterAll calls) }
  hold_eq : (src.afterAll calls).hold w.rest = src.hold (pass src.profile s₁.config)

theorem Underway.of_fresh (h : w.Fresh s₁) : ∃ src, Underway s₁ src [] w s₁ := by
  obtain ⟨p, hp, hrest⟩ := h
  rw [Session.profiles, List.getElem?_map, Option.map_eq_some_iff] at hp
  obtain ⟨src, hsrc, rfl⟩ := hp
  refine ⟨src, hsrc, ?_, by rw [hrest, Source.afterAll_nil]⟩
  obtain ⟨hi, rfl⟩ := List.getElem?_eq_some_iff.mp hsrc
  simp

theorem Underway.getElem? (h : Underway s₁ src calls w s') :
    s'.sources[w.source]? = some (src.afterAll calls) := by
  obtain ⟨hi, _⟩ := List.getElem?_eq_some_iff.mp h.source_eq
  rw [h.session_eq]
  simp [hi]

theorem Underway.profiles (h : Underway s₁ src calls w s') : s'.profiles = s₁.profiles := by
  rw [h.session_eq]
  exact Session.profiles_eq_of_settingsAt? (Session.settingsAt?_set h.source_eq rfl)

/-- A call brings the holder forward. -/
theorem Underway.call {k i : Nat} {c : Call} {next : Reply → Inquiry Outcome}
    (h : Underway s₁ src calls ⟨k, i, .ask c next⟩ s') :
    Underway s₁ src (calls ++ [c]) ⟨k, i, next ((src.afterAll calls).reply c)⟩
      { s' with sources := s'.sources.set i ((src.afterAll calls).after c) } where
  source_eq := h.source_eq
  session_eq := by
    rw [h.session_eq, Source.afterAll_snoc]
    simp
  hold_eq := by
    rw [← h.hold_eq, Source.afterAll_snoc, Source.hold_ask]

/-- When nothing is left to ask, numbering and publishing the outcome is all
    that a pass in one go would still do. -/
theorem Underway.finish {k i : Nat} {outcome : Outcome}
    (h : Underway s₁ src calls ⟨k, i, .done outcome⟩ s') :
    s₁.read i = some ((s'.number outcome).1,
      (s'.number outcome).2.publish (s'.number outcome).1) := by
  have hhold : src.hold (pass src.profile s₁.config) = (outcome, src.afterAll calls) :=
    h.hold_eq.symm
  have hsession : s₁.afterPass i src = s' := by
    rw [h.session_eq, Session.afterPass, hhold]
  have houtcome : s₁.outcomeOf src = outcome := by
    rw [Session.outcomeOf, hhold]
  have hsource : s₁.sources[i]? = some src := h.source_eq
  rw [Session.read, Session.readUnpublished_eq, hsource, Option.map_some, Option.map_some,
    hsession, houtcome]

theorem Underway.callsOf_finish (h : Underway s₁ src calls w s') (outcome : Outcome) :
    (((s'.number outcome).2.publish (s'.number outcome).1).callsOf w.source).drop
      (s₁.callsOf w.source).length = calls := by
  simp [Session.callsOf, h.getElem?, h.source_eq, Source.afterAll]

/-- Those who wait in the session `s₁`, and where the first of them has got:
    since `s₁` it has made the calls in `made` and led to `s'`. -/
def Holder (s₁ s' : Session) (made : List (Nat × Nat × Call)) : List Waiter → Prop
  | [] => s' = s₁ ∧ made = []
  | w :: ws => (∀ w' ∈ ws, w'.Fresh s₁) ∧ ∃ src calls, Underway s₁ src calls w s' ∧
      made = calls.map (w.caller, w.source, ·)

/-- The lock passes to whoever is next, or to nobody. -/
theorem Holder.of_fresh (h : ∀ w ∈ ws, w.Fresh s₁) : Holder s₁ s₁ [] ws := by
  cases ws with
  | nil => exact ⟨rfl, rfl⟩
  | cons w ws =>
    obtain ⟨src, hunderway⟩ := Underway.of_fresh (h w List.mem_cons_self)
    exact ⟨fun w' hw' => h w' (List.mem_cons_of_mem w hw'), src, [], hunderway, rfl⟩

theorem Holder.profiles (h : Holder s₁ s' made ws) : s'.profiles = s₁.profiles := by
  cases ws with
  | nil => rw [h.1]
  | cons w ws =>
    obtain ⟨_, src, calls, hunderway, _⟩ := h
    exact hunderway.profiles

/-- The calls since the lock was released last are no news to readers. -/
theorem Holder.sources_only (h : Holder s₁ s' made ws) :
    ∃ sources, s' = { s₁ with sources := sources } := by
  cases ws with
  | nil => exact ⟨s₁.sources, h.1⟩
  | cons w ws =>
    obtain ⟨_, src, calls, hunderway, _⟩ := h
    exact ⟨_, hunderway.session_eq⟩

/-- All calls since then are those of the holder. -/
theorem Holder.caller_eq (h : Holder s₁ s' made (w :: ws)) : ∀ x ∈ made, x.1 = w.caller := by
  obtain ⟨_, src, calls, _, rfl⟩ := h
  simp

/-- Whoever requests the lock is served after all who wait. -/
theorem Holder.request (h : Holder s₁ s' made ws) (hw : w.Fresh s₁) :
    Holder s₁ s' made (ws ++ [w]) := by
  cases ws with
  | nil =>
    obtain ⟨rfl, rfl⟩ := h
    exact Holder.of_fresh (by simpa using hw)
  | cons w₀ ws =>
    obtain ⟨hfresh, hholds⟩ := h
    refine ⟨fun w' hw' => ?_, hholds⟩
    rcases List.mem_append.mp hw' with hold | hnew
    · exact hfresh w' hold
    · rwa [List.mem_singleton.mp hnew]

end Holder

/-! ### The log -/

/-- No call of another caller stands between two calls of one caller. -/
def Contiguous (log : List (Nat × Nat × Call)) : Prop :=
  ∀ x y z, [x, y, z].Sublist log → x.1 = z.1 → y.1 = x.1

theorem contiguous_nil : Contiguous [] := by
  intro x y z h
  cases h

/-- A caller that has not called before may call in a row. -/
theorem Contiguous.append {log made : List (Nat × Nat × Call)} {k : Nat} (h : Contiguous log)
    (hlog : ∀ x ∈ log, x.1 ≠ k) (hmade : ∀ x ∈ made, x.1 = k) : Contiguous (log ++ made) := by
  intro x y z hsub hxz
  obtain ⟨l₁, l₂, hsplit, hl₁, hl₂⟩ := List.sublist_append_iff.mp hsub
  by_cases hx : x.1 = k
  · -- the first call is a new one, so all three are
    cases l₁ with
    | nil =>
      rw [List.nil_append] at hsplit
      rw [hx]
      exact hmade y (hl₂.subset (by simp [← hsplit]))
    | cons a l₁ =>
      have hfirst : x = a := by
        have h := congrArg List.head? hsplit
        simpa using h
      subst hfirst
      exact absurd hx (hlog x (hl₁.subset List.mem_cons_self))
  · -- the last call is an old one, so all three are
    rcases List.eq_nil_or_concat l₂ with rfl | ⟨l, a, rfl⟩
    · rw [List.append_nil] at hsplit
      rw [← hsplit] at hl₁
      exact h x y z hl₁ hxz
    · have hlast : z = a := by
        have h := congrArg List.getLast? hsplit
        simpa [← List.append_assoc] using h
      subst hlast
      exact absurd (hxz.trans (hmade z (hl₂.subset (by simp)))) hx

/-! ### Requests -/

/-- The requests for the lock in a run, in order, each with the source that the
    caller reads through. -/
def requested (sources : List Nat) (ls : List Label) : List (Nat × Nat) :=
  ls.filterMap fun
    | .request k => sources[k]?.map (k, ·)
    | _ => none

@[simp] theorem requested_nil (sources : List Nat) : requested sources [] = [] := rfl

theorem requested_cons (sources : List Nat) (l : Label) (ls : List Label) :
    requested sources (l :: ls) = requested sources [l] ++ requested sources ls := by
  rw [requested, requested, requested, ← List.filterMap_append, List.singleton_append]

theorem mem_zip_range {sources : List Nat} {k i : Nat}
    (h : (k, i) ∈ (List.range sources.length).zip sources) : sources[k]? = some i := by
  obtain ⟨j, hj⟩ := List.mem_iff_getElem?.mp h
  rw [List.getElem?_zip_eq_some] at hj
  obtain ⟨hk, hi⟩ := hj
  obtain ⟨_, rfl⟩ := List.getElem?_eq_some_iff.mp hk
  simpa using hi

theorem mem_of_lookup {idle : List (Nat × Nat)} {k i : Nat} (h : idle.lookup k = some i) :
    (k, i) ∈ idle := by
  obtain ⟨l₁, l₂, rfl, _⟩ := List.lookup_eq_some_iff.mp h
  simp

/-- Whoever requests the lock leaves the others idle. -/
theorem perm_filter_of_lookup {idle : List (Nat × Nat)} {k i : Nat}
    (hnodup : (idle.map (·.1)).Nodup) (h : idle.lookup k = some i) :
    ((k, i) :: idle.filter fun e => e.1 ≠ k).Perm idle := by
  obtain ⟨l₁, l₂, rfl, hbefore⟩ := List.lookup_eq_some_iff.mp h
  have hl₁ : l₁.filter (fun e => e.1 ≠ k) = l₁ := by
    rw [List.filter_eq_self]
    intro e he
    have hne : k ≠ e.1 := bne_iff_ne.mp (hbefore e he)
    simpa using hne.symm
  have hl₂ : l₂.filter (fun e => e.1 ≠ k) = l₂ := by
    rw [List.map_append, List.map_cons, List.nodup_append, List.nodup_cons] at hnodup
    rw [List.filter_eq_self]
    intro e he
    have hne : e.1 ≠ k := by
      rintro rfl
      exact hnodup.2.1.1 (List.mem_map.mpr ⟨e, he, rfl⟩)
    simpa using hne
  rw [List.filter_append, List.filter_cons_of_neg (by simp), hl₁, hl₂]
  exact List.perm_middle.symm

/-! ### The invariant -/

/-- The passes that `past` requested are over. Run serially they lead from `s`
    to `s₁` with the results that their callers got and the calls in `log`;
    all that has happened since are the calls in `made`. -/
structure Serving (s s₁ : Session) (past : List (Nat × Nat))
    (log made : List (Nat × Nat × Call)) (t : State) : Prop where
  callers_eq : t.finished.map (·.1) = past.map (·.1)
  readAll_eq : s.readAll (past.map (·.2)) = some (t.finished.map (·.2), log.map (·.2), s₁)
  log_eq : t.log = log ++ made
  log_callers : ∀ x ∈ log, x.1 ∈ past.map (·.1)
  contiguous : Contiguous log
  holder : Holder s₁ t.session made t.queue

/-- The invariant of interleaved passes whose lock has been requested in the
    given order. -/
structure Inv (s : Session) (sources : List Nat) (order : List (Nat × Nat)) (t : State) :
    Prop where
  /-- Every caller has requested the lock once, or is idle. -/
  callers : (order ++ t.idle).Perm ((List.range sources.length).zip sources)
  /-- The passes are served in the order of the requests. -/
  serving : ∃ past s₁ log made,
    order = past ++ t.queue.map Waiter.request ∧ Serving s s₁ past log made t

section Invariant

variable {s s₁ : Session} {sources : List Nat} {past order : List (Nat × Nat)}
  {log made : List (Nat × Nat × Call)} {t t' : State}

theorem inv_start (s : Session) (sources : List Nat) : Inv s sources [] (start s sources) where
  callers := .refl _
  serving := ⟨[], s, [], [], rfl, rfl, rfl, rfl, by simp, contiguous_nil, rfl, rfl⟩

/-- No caller has requested the lock twice. -/
theorem Inv.nodup (h : Inv s sources order t) : ((order ++ t.idle).map (·.1)).Nodup := by
  have hcallers := h.callers.map (·.1)
  rw [List.map_fst_zip (by simp)] at hcallers
  exact hcallers.nodup_iff.mpr List.nodup_range

theorem Inv.source_of_idle (h : Inv s sources order t) {k i : Nat}
    (hidle : t.idle.lookup k = some i) : sources[k]? = some i :=
  mem_zip_range (h.callers.mem_iff.mp (List.mem_append_right order (mem_of_lookup hidle)))

theorem inv_request {k : Nat} (h : Inv s sources order t)
    (hstep : step? t (.request k) = some t') :
    Inv s sources (order ++ requested sources [.request k]) t' := by
  obtain ⟨i, src, hlookup, hsrc, rfl⟩ := step?_request hstep
  -- the caller was idle, once, with the source that it was given
  have hidle := h.nodup
  rw [List.map_append, List.nodup_append] at hidle
  have hperm := perm_filter_of_lookup hidle.2.1 hlookup
  have hrequested : requested sources [.request k] = [(k, i)] := by
    simp [requested, h.source_of_idle hlookup]
  obtain ⟨past, s₁, log, made, horder, hserving⟩ := h.serving
  rw [hrequested]
  constructor
  case callers =>
    rw [List.append_assoc, List.singleton_append]
    exact (hperm.append_left order).trans h.callers
  case serving =>
    -- it joins with the pass for the profile of now, which is the one of `s₁`
    have hfresh : Waiter.Fresh ⟨k, i, pass src.profile t.session.config⟩ s₁ := by
      obtain ⟨_, hsession⟩ := hserving.holder.sources_only
      refine ⟨src.profile, ?_, by rw [hsession]⟩
      rw [← hserving.holder.profiles, Session.profiles, List.getElem?_map, hsrc, Option.map_some]
    refine ⟨past, s₁, log, made, ?_, ?_⟩
    · rw [horder, List.map_append, List.append_assoc]
      rfl
    · exact { hserving with holder := hserving.holder.request hfresh }

theorem inv_call (h : Inv s sources order t) (hstep : step? t .call = some t') :
    Inv s sources order t' := by
  obtain ⟨k, i, c, next, ws, src', hqueue, hsrc', rfl⟩ := step?_call hstep
  obtain ⟨past, s₁, log, made, horder, hserving⟩ := h.serving
  have hholder := hserving.holder
  rw [hqueue] at hholder horder
  obtain ⟨hfresh, src, calls, hunderway, hmade⟩ := hholder
  -- nobody else has called the source since the holder took the lock
  obtain rfl : src' = src.afterAll calls :=
    Option.some.inj (hsrc'.symm.trans hunderway.getElem?)
  refine ⟨h.callers, past, s₁, log, made ++ [(k, i, c)], horder, ?_⟩
  refine { hserving with log_eq := ?_, holder := ?_ }
  · simp [hserving.log_eq]
  · refine ⟨hfresh, src, calls ++ [c], hunderway.call, ?_⟩
    rw [hmade, List.map_append, List.map_singleton]

/-- The log is contiguous if the holder of the lock is not one of those whose
    passes are over. -/
theorem Serving.contiguous_log (h : Serving s s₁ past log made t)
    (hnew : ∀ w ∈ t.queue.head?, w.caller ∉ past.map (·.1)) : Contiguous t.log := by
  have hholder := h.holder
  rw [h.log_eq]
  cases hqueue : t.queue with
  | nil =>
    rw [hqueue] at hholder
    rw [hholder.2, List.append_nil]
    exact h.contiguous
  | cons w ws =>
    rw [hqueue] at hholder hnew
    refine h.contiguous.append (fun x hx hw => ?_) hholder.caller_eq
    exact hnew w rfl (hw ▸ h.log_callers x hx)

/-- The holder of the lock has finished: its pass is one more in the row. -/
theorem Serving.finish {k i : Nat} {outcome : Outcome} {ws : List Waiter}
    (h : Serving s s₁ past log made t)
    (hqueue : t.queue = ⟨k, i, .done outcome⟩ :: ws)
    (hnew : ∀ w ∈ t.queue.head?, w.caller ∉ past.map (·.1)) :
    let r := t.session.number outcome
    Serving s (r.2.publish r.1) (past ++ [(k, i)]) (log ++ made) []
      { t with
        session := r.2.publish r.1
        queue := ws
        finished := t.finished ++ [(k, r.1)] } := by
  intro r
  have hcontiguous := h.contiguous_log hnew
  have hholder := h.holder
  rw [hqueue] at hholder
  obtain ⟨hfresh, src, calls, hunderway, hmade⟩ := hholder
  -- its calls, one at a time, make up one `read` from where the lock was taken
  have hread : s₁.read i = some (r.1, r.2.publish r.1) := hunderway.finish
  constructor
  case callers_eq => simp [h.callers_eq]
  case readAll_eq =>
    have hreadAll := Session.readAll_snoc h.readAll_eq hread
    rw [hunderway.callsOf_finish outcome] at hreadAll
    rw [List.map_append, hmade]
    simpa [Function.comp_def] using hreadAll
  case log_eq => rw [h.log_eq, List.append_nil]
  case log_callers =>
    intro x hx
    rw [List.map_append]
    rcases List.mem_append.mp hx with hlog | hlast
    · exact List.mem_append_left _ (h.log_callers x hlog)
    · rw [hmade] at hlast
      obtain ⟨c, _, rfl⟩ := List.mem_map.mp hlast
      simp
  case contiguous => rwa [h.log_eq] at hcontiguous
  case holder =>
    refine Holder.of_fresh fun w hw => (hfresh w hw).of_profiles ?_ ?_
    · exact (Session.soundResult_read hread).2
    · exact (Session.advance_read hread).config_eq

/-- The holder of the lock is not one of those whose passes are over. -/
theorem Inv.holder_new (h : Inv s sources order t)
    (horder : order = past ++ t.queue.map Waiter.request) :
    ∀ w ∈ t.queue.head?, w.caller ∉ past.map (·.1) := by
  intro w hw hmem
  have hnodup := h.nodup
  rw [horder, List.append_assoc, List.map_append, List.nodup_append] at hnodup
  refine hnodup.2.2 w.caller hmem w.caller ?_ rfl
  rw [List.map_append, List.map_map]
  exact List.mem_append_left _ (List.mem_map_of_mem (List.mem_of_mem_head? hw))

theorem inv_finish (h : Inv s sources order t) (hstep : step? t .finish = some t') :
    Inv s sources order t' := by
  obtain ⟨k, i, outcome, ws, hqueue, rfl⟩ := step?_finish hstep
  obtain ⟨past, s₁, log, made, horder, hserving⟩ := h.serving
  have hnew := h.holder_new horder
  refine ⟨h.callers, past ++ [(k, i)], _, log ++ made, [], ?_, hserving.finish hqueue hnew⟩
  rw [horder, hqueue, List.append_assoc]
  rfl

/-- Every step keeps the invariant; only requests add to the order. -/
theorem inv_step {l : Label} (h : Inv s sources order t) (hstep : step? t l = some t') :
    Inv s sources (order ++ requested sources [l]) t' := by
  cases l with
  | request k => exact inv_request h hstep
  | call => simpa [requested] using inv_call h hstep
  | finish => simpa [requested] using inv_finish h hstep
  | look =>
    -- a look changes nothing that the invariant speaks of
    obtain rfl := step?_look hstep
    obtain ⟨past, s₁, log, made, horder, hserving⟩ := h.serving
    rw [show requested sources [.look] = [] from rfl, List.append_nil]
    exact ⟨h.callers, past, s₁, log, made, horder, { hserving with }⟩

theorem inv_run {ls : List Label} (h : Inv s sources order t) (hrun : run? t ls = some t') :
    Inv s sources (order ++ requested sources ls) t' := by
  induction ls generalizing t order with
  | nil =>
    cases hrun
    simpa using h
  | cons l ls ih =>
    obtain ⟨t₁, hstep, hrest⟩ := Option.bind_eq_some_iff.mp hrun
    rw [requested_cons, ← List.append_assoc]
    exact ih (inv_step h hstep) hrest

/-! ### Consequences -/

theorem Inv.contiguous (h : Inv s sources order t) : Contiguous t.log := by
  obtain ⟨past, s₁, log, made, horder, hserving⟩ := h.serving
  exact hserving.contiguous_log (h.holder_new horder)

/-- Readers see what the last successful one of the finished passes has
    read. -/
theorem Inv.published_eq (h : Inv s sources order t) :
    t.session.published = (successes (t.finished.map (·.2))).getLast?.or s.published := by
  obtain ⟨past, s₁, log, made, _, hserving⟩ := h.serving
  obtain ⟨_, hsession⟩ := hserving.holder.sources_only
  rw [hsession]
  exact (Session.advance_readAll hserving.readAll_eq).published_eq

/-- Whoever holds the lock can go on. -/
theorem Inv.holder_enabled (h : Inv s sources order t) (hqueue : t.queue ≠ []) :
    (step? t .call).isSome ∨ (step? t .finish).isSome := by
  obtain ⟨past, s₁, log, made, _, hserving⟩ := h.serving
  have hholder := hserving.holder
  cases hws : t.queue with
  | nil => exact absurd hws hqueue
  | cons w ws =>
    rw [hws] at hholder
    obtain ⟨_, src, calls, hunderway, _⟩ := hholder
    have hsource := hunderway.getElem?
    -- it has a call left to make, or its pass is over
    obtain ⟨k, i, rest⟩ := w
    cases rest with
    | ask c next => left; simp [step?, hws, hsource]
    | done outcome => right; simp [step?, hws]

/-- Whoever has not requested the lock can do so. -/
theorem Inv.idle_enabled (h : Inv s sources order t)
    (hsources : ∀ i ∈ sources, i < s.sources.length) {e : Nat × Nat} (he : e ∈ t.idle) :
    (step? t (.request e.1)).isSome := by
  obtain ⟨past, s₁, log, made, _, hserving⟩ := h.serving
  -- passes change sources but never lose one
  have hprofiles : t.session.profiles = s.profiles := by
    rw [hserving.holder.profiles, Session.profiles_readAll hserving.readAll_eq]
  have hlength : t.session.sources.length = s.sources.length := by
    simpa [Session.profiles] using congrArg List.length hprofiles
  have hidle : (t.idle.lookup e.1).isSome := by
    rw [List.lookup_isSome_iff]
    exact ⟨e, he, beq_self_eq_true e.1⟩
  obtain ⟨i, hlookup⟩ := Option.isSome_iff_exists.mp hidle
  have hi : i < t.session.sources.length := by
    rw [hlength]
    exact hsources i (List.mem_of_getElem? (h.source_of_idle hlookup))
  simp [step?, hlookup, hi]

theorem Inv.served (h : Inv s sources order t) : ∃ past log s₁, past <+: order ∧
      t.finished.map (·.1) = past.map (·.1) ∧
      s.readAll (past.map (·.2)) = some (t.finished.map (·.2), log, s₁) ∧
      log <+: t.log.map (·.2) ∧ t.session.published = s₁.published := by
  obtain ⟨past, s₁, log, made, horder, hserving⟩ := h.serving
  obtain ⟨_, hsession⟩ := hserving.holder.sources_only
  refine ⟨past, log.map (·.2), s₁, ?_, hserving.callers_eq, hserving.readAll_eq, ?_, ?_⟩
  · rw [horder]
    exact List.prefix_append past _
  · rw [hserving.log_eq, List.map_append]
    exact List.prefix_append _ _
  · rw [hsession]

theorem Inv.complete (h : Inv s sources order t) (hover : t.isOver = true) :
    (order.map (·.1)).Perm (List.range sources.length) ∧
      t.finished.map (·.1) = order.map (·.1) ∧
      s.readAll (order.map (·.2)) = some (t.finished.map (·.2), t.log.map (·.2), t.session) := by
  obtain ⟨hidle, hqueue⟩ : t.idle = [] ∧ t.queue = [] := by
    simpa [State.isOver] using hover
  obtain ⟨past, s₁, log, made, horder, hserving⟩ := h.serving
  have hholder := hserving.holder
  rw [hqueue] at hholder horder
  obtain ⟨hsession, hmade⟩ := hholder
  obtain rfl : order = past := by simpa using horder
  refine ⟨?_, hserving.callers_eq, ?_⟩
  · have hcallers := h.callers.map (·.1)
    rwa [hidle, List.append_nil, List.map_fst_zip (by simp)] at hcallers
  · rw [hsession, hserving.log_eq, hmade, List.append_nil]
    exact hserving.readAll_eq

theorem Inv.enabled (h : Inv s sources order t)
    (hsources : ∀ i ∈ sources, i < s.sources.length) (hover : t.isOver = false) :
    ∃ l : Label, l.isLook = false ∧ (step? t l).isSome := by
  cases hqueue : t.queue with
  | cons w ws =>
    rcases h.holder_enabled (by simp [hqueue]) with hcall | hfinish
    · exact ⟨.call, rfl, hcall⟩
    · exact ⟨.finish, rfl, hfinish⟩
  | nil =>
    cases hidle : t.idle with
    | nil => simp [State.isOver, hqueue, hidle] at hover
    | cons e idle =>
      exact ⟨.request e.1, rfl, h.idle_enabled hsources (by simp [hidle])⟩

theorem Inv.handed_on {w w' : Waiter} {ws : List Waiter} {e : PassError}
    (h : Inv s sources order t) (hqueue : t.queue = w :: w' :: ws)
    (hrest : w.rest = .done (.error e)) :
    ∃ t', step? t .finish = some t' ∧ t'.queue = w' :: ws ∧
      t'.session.published = t.session.published ∧
      ((step? t' .call).isSome ∨ (step? t' .finish).isSome) := by
  obtain ⟨k, i, rest⟩ := w
  obtain rfl : rest = .done (.error e) := hrest
  have hstep : step? t .finish = some { t with
      queue := w' :: ws, finished := t.finished ++ [(k, .error e)] } := by
    simp only [step?, hqueue]
    rfl
  exact ⟨_, hstep, rfl, rfl, (inv_finish h hstep).holder_enabled (List.cons_ne_nil w' ws)⟩

end Invariant

/-! ### The main result -/

/-- What holds of a state that callers who read through the given sources of
    the session `s`, and readers, have reached by the steps `ls`. -/
structure Serialized (s : Session) (sources : List Nat) (ls : List Label) (t : State) :
    Prop where
  /-- The calls of each pass stand together in the log. -/
  contiguous : Contiguous t.log
  /-- The passes that are over, those of the first requests, have ended as
      they do one after the other, and have left readers with the same. -/
  served : ∃ past log s₁, past <+: requested sources ls ∧
    t.finished.map (·.1) = past.map (·.1) ∧
    s.readAll (past.map (·.2)) = some (t.finished.map (·.2), log, s₁) ∧
    log <+: t.log.map (·.2) ∧ t.session.published = s₁.published
  /-- Once all passes are over, each caller has requested the lock once, and
      results, calls and session are those of the passes one after the other
      in the order of the requests. -/
  complete : t.isOver = true →
    ((requested sources ls).map (·.1)).Perm (List.range sources.length) ∧
    t.finished.map (·.1) = (requested sources ls).map (·.1) ∧
    s.readAll ((requested sources ls).map (·.2)) =
      some (t.finished.map (·.2), t.log.map (·.2), t.session)
  /-- A reader is given what the last successful pass has read that was over
      when it looked, or what was published before all. -/
  looks : ∀ pre post, ls = pre ++ .look :: post → ∃ m, run? (start s sources) pre = some m ∧
    m.finished <+: t.finished ∧ t.looks[pre.countP Label.isLook]? =
      some ((successes (m.finished.map (·.2))).getLast?.or s.published)
  /-- While a caller has not finished, some caller can take a step. -/
  enabled : (∀ i ∈ sources, i < s.sources.length) → t.isOver = false →
    ∃ l, l.isLook = false ∧ (step? t l).isSome
  /-- When a pass has failed, the lock goes to the next waiter, who can take a
      step; readers notice nothing. -/
  handed_on : ∀ w w' ws e, t.queue = w :: w' :: ws → w.rest = .done (.error e) →
    ∃ t', step? t .finish = some t' ∧ t'.queue = w' :: ws ∧
      t'.session.published = t.session.published ∧
      ((step? t' .call).isSome ∨ (step? t' .finish).isSome)

/-- **Serial passes.** Whatever callers and readers do in whatever order, the
    passes come to the same as passes one after the other in the order in
    which the lock was requested, readers see complete snapshots of finished
    passes only, and nobody is stuck. -/
theorem serialized_of_run {s : Session} {sources : List Nat} {ls : List Label} {t : State}
    (h : run? (start s sources) ls = some t) : Serialized s sources ls t := by
  have hinv := inv_run (inv_start s sources) h
  rw [List.nil_append] at hinv
  constructor
  case contiguous => exact hinv.contiguous
  case served => exact hinv.served
  case complete => exact hinv.complete
  case looks =>
    -- the invariant at the moment of the look tells what was published then
    intro pre post hls
    rw [hls] at h
    obtain ⟨m, hm, hfinished, hlook⟩ := looks_of_run h
    refine ⟨m, hm, hfinished, ?_⟩
    rw [← (inv_run (inv_start s sources) hm).published_eq]
    simpa [start] using hlook
  case enabled => exact hinv.enabled
  case handed_on => exact fun w w' ws e => hinv.handed_on

/-- Two callers share a source whose first listing fails, and a reader looks
    between the steps: the second request comes while the first caller has
    the lock. -/
theorem serialized_shared_source :
    let src := Source.scripted ⟨"PostgreSQL", none, "ann"⟩
      ⟨[.error (.metadata "down"), .ok (.ofNames ["public", "ann"])], []⟩
    let s : Session := { config := {}, sources := [src] }
    let ls : List Label := [.request 1, .look, .call, .request 0, .finish, .look, .call, .call,
      .finish, .look]
    ∃ t, run? (start s [0, 0]) ls = some t ∧ t.isOver = true ∧ Serialized s [0, 0] ls t := by
  intro src s ls
  have hover : (run? (start s [0, 0]) ls).any State.isOver = true := by
    decide +kernel
  obtain ⟨t, hrun, ht⟩ := (Option.any_eq_true State.isOver _).mp hover
  exact ⟨t, hrun, ht, serialized_of_run hrun⟩

end Interleaving

end Schemata
