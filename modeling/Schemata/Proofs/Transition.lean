import Schemata.Interleaving

/-! # Transitions of interleaved passes

    What each step of callers and readers needs and does, said once per
    label, and what follows for runs: they can be cut in two, and what has
    been finished, called or looked at stays so. -/

namespace Schemata

namespace Interleaving

-- A step hands a pass on without looking into it.
attribute [local irreducible] pass

/-! ### Steps -/

theorem step?_request {t t' : State} {k : Nat} (h : step? t (.request k) = some t') :
    ∃ i src, t.idle.lookup k = some i ∧ t.session.sources[i]? = some src ∧
      t' = { t with
        idle := t.idle.filter fun e => e.1 ≠ k
        queue := t.queue ++ [⟨k, i, pass src.profile t.session.config⟩] } := by
  simp only [step?, Option.bind_eq_bind, Option.bind_eq_some_iff] at h
  obtain ⟨i, hi, src, hsrc, h⟩ := h
  cases h
  exact ⟨i, src, hi, hsrc, rfl⟩

theorem step?_call {t t' : State} (h : step? t .call = some t') :
    ∃ k i c next ws src, t.queue = ⟨k, i, .ask c next⟩ :: ws ∧
      t.session.sources[i]? = some src ∧
      t' = { t with
        session := { t.session with sources := t.session.sources.set i (src.after c) }
        queue := ⟨k, i, next (src.reply c)⟩ :: ws
        log := t.log ++ [(k, i, c)] } := by
  simp only [step?] at h
  split at h
  · rename_i k i c next ws hqueue
    simp only [Option.bind_eq_bind, Option.bind_eq_some_iff] at h
    obtain ⟨src, hsrc, h⟩ := h
    cases h
    exact ⟨k, i, c, next, ws, src, hqueue, hsrc, rfl⟩
  · cases h

theorem step?_finish {t t' : State} (h : step? t .finish = some t') :
    ∃ k i outcome ws, t.queue = ⟨k, i, .done outcome⟩ :: ws ∧
      t' = { t with
        session := (t.session.number outcome).2.publish (t.session.number outcome).1
        queue := ws
        finished := t.finished ++ [(k, (t.session.number outcome).1)] } := by
  simp only [step?] at h
  split at h
  · rename_i k i outcome ws hqueue
    cases h
    exact ⟨k, i, outcome, ws, hqueue, rfl⟩
  · cases h

theorem step?_look {t t' : State} (h : step? t .look = some t') :
    t' = { t with looks := t.looks ++ [t.session.published] } := by
  cases h
  rfl

/-! ### Runs -/

/-- Is it a step of a reader? -/
def Label.isLook : Label → Bool
  | look => true
  | _ => false

@[simp] theorem run?_cons (t : State) (l : Label) (ls : List Label) :
    run? t (l :: ls) = (step? t l).bind (run? · ls) :=
  rfl

theorem run?_append (t : State) (ls ls' : List Label) :
    run? t (ls ++ ls') = (run? t ls).bind (run? · ls') := by
  induction ls generalizing t with
  | nil => rfl
  | cons l ls ih => simp only [List.cons_append, run?_cons, ih, Option.bind_assoc]

/-- What has happened in `t` has happened in `t'`, in the same order. -/
structure Extends (t t' : State) : Prop where
  finished : t.finished <+: t'.finished
  log : t.log <+: t'.log
  looks : t.looks <+: t'.looks

theorem Extends.refl (t : State) : Extends t t :=
  ⟨List.prefix_rfl, List.prefix_rfl, List.prefix_rfl⟩

theorem Extends.trans {t t₁ t₂ : State} (h : Extends t t₁) (h' : Extends t₁ t₂) :
    Extends t t₂ :=
  ⟨h.finished.trans h'.finished, h.log.trans h'.log, h.looks.trans h'.looks⟩

/-- A step forgets nothing, and only a reader's step adds a look. -/
theorem extends_step {t t' : State} {l : Label} (h : step? t l = some t') :
    Extends t t' ∧ t'.looks.length = t.looks.length + [l].countP Label.isLook := by
  cases l with
  | request k =>
    obtain ⟨i, src, _, _, rfl⟩ := step?_request h
    exact ⟨⟨List.prefix_rfl, List.prefix_rfl, List.prefix_rfl⟩, rfl⟩
  | call =>
    obtain ⟨k, i, c, next, ws, src, _, _, rfl⟩ := step?_call h
    exact ⟨⟨List.prefix_rfl, List.prefix_append _ _, List.prefix_rfl⟩, rfl⟩
  | finish =>
    obtain ⟨k, i, outcome, ws, _, rfl⟩ := step?_finish h
    exact ⟨⟨List.prefix_append _ _, List.prefix_rfl, List.prefix_rfl⟩, rfl⟩
  | look =>
    obtain rfl := step?_look h
    exact ⟨⟨List.prefix_rfl, List.prefix_rfl, List.prefix_append _ _⟩, List.length_append⟩

theorem extends_run {t t' : State} {ls : List Label} (h : run? t ls = some t') :
    Extends t t' ∧ t'.looks.length = t.looks.length + ls.countP Label.isLook := by
  induction ls generalizing t with
  | nil =>
    cases h
    exact ⟨Extends.refl _, rfl⟩
  | cons l ls ih =>
    rw [run?_cons, Option.bind_eq_some_iff] at h
    obtain ⟨t₁, hstep, hrun⟩ := h
    obtain ⟨hstepped, hlooks⟩ := extends_step hstep
    obtain ⟨hran, hlooks'⟩ := ih hrun
    refine ⟨hstepped.trans hran, ?_⟩
    rw [hlooks', hlooks, Nat.add_assoc, ← List.countP_append, List.singleton_append]

/-- What a reader is given is what is published when it looks. -/
theorem looks_of_run {t t' : State} {pre post : List Label}
    (h : run? t (pre ++ .look :: post) = some t') :
    ∃ m, run? t pre = some m ∧ m.finished <+: t'.finished ∧
      t'.looks[t.looks.length + pre.countP Label.isLook]? = some m.session.published := by
  rw [run?_append, Option.bind_eq_some_iff] at h
  obtain ⟨m, hpre, hrest⟩ := h
  obtain ⟨m', hlook, hpost⟩ := Option.bind_eq_some_iff.mp hrest
  -- the look is the next one to be recorded, and what is recorded stays
  have hafter := (extends_step hlook).1.trans (extends_run hpost).1
  refine ⟨m, hpre, hafter.finished, ?_⟩
  obtain rfl := step?_look hlook
  obtain ⟨later, hlater⟩ := (extends_run hpost).1.looks
  rw [← (extends_run hpre).2, ← hlater]
  simp

end Interleaving

end Schemata
