import Schemata.Session

/-! # Interleaved passes

    Callers that ask for a published pass at the same time, and readers that
    take the snapshot meanwhile, as a transition system. A pass needs the
    one lock of the session, which is handed out in the order in which it
    was requested. Requesting the lock, making one call, publishing
    together with releasing the lock, and taking the snapshot are separate
    steps that may come in any order. -/

namespace Schemata

namespace Interleaving

/-! ### State -/

/-- A caller that has requested the lock. -/
structure Waiter where
  /-- The position of the caller. -/
  caller : Nat
  /-- The position of the source that it reads through. -/
  source : Nat
  /-- What is left of its pass. -/
  rest   : Inquiry Outcome

/-- A session with callers that are at different points of their passes. -/
structure State where
  session  : Session
  /-- The callers that have not requested the lock, each with its source. -/
  idle     : List (Nat × Nat)
  /-- The requests for the lock, in order; the first one has the lock. -/
  queue    : List Waiter := []
  /-- The callers whose pass is over, in order, each with its result. -/
  finished : List (Nat × PassResult) := []
  /-- The calls made, in order, each with the caller and the source. -/
  log      : List (Nat × Nat × Call) := []
  /-- What the readers were given, in order. -/
  looks    : List (Option Snapshot) := []

/-! ### Labels -/

/-- The steps of callers and readers. -/
inductive Label where
  /-- A caller requests the lock. -/
  | request (caller : Nat)
  /-- The caller that has the lock makes its next call. -/
  | call
  /-- The caller that has the lock publishes what it has read, if its pass
      succeeded, and releases the lock. -/
  | finish
  /-- A reader takes the snapshot. -/
  | look

/-! ### Steps -/

/-- The state after a step, if the step is enabled. -/
def step? (s : State) : Label → Option State
  | .request k => do
    let i ← s.idle.lookup k
    let src ← s.session.sources[i]?
    return { s with
      idle := s.idle.filter fun e => e.1 ≠ k
      queue := s.queue ++ [⟨k, i, pass src.profile s.session.config⟩] }
  | .call =>
    match s.queue with
    | ⟨k, i, .ask c next⟩ :: ws => do
      let src ← s.session.sources[i]?
      return { s with
        session := { s.session with sources := s.session.sources.set i (src.after c) }
        queue := ⟨k, i, next (src.reply c)⟩ :: ws
        log := s.log ++ [(k, i, c)] }
    | _ => none
  | .finish =>
    match s.queue with
    | ⟨k, _, .done outcome⟩ :: ws =>
      let r := s.session.number outcome
      some { s with
        session := r.2.publish r.1
        queue := ws
        finished := s.finished ++ [(k, r.1)] }
    | _ => none
  | .look => some { s with looks := s.looks ++ [s.session.published] }

/-- The state after steps that are all enabled in turn. -/
def run? (s : State) : List Label → Option State
  | [] => some s
  | l :: ls => (step? s l).bind (run? · ls)

/-- The state in which every caller is about to request the lock; the
    callers are numbered from zero. -/
def start (s : Session) (sources : List Nat) : State where
  session := s
  idle := (List.range sources.length).zip sources

/-- Is every caller's pass over? -/
def State.isOver (s : State) : Bool := s.idle.isEmpty && s.queue.isEmpty

end Interleaving

end Schemata
