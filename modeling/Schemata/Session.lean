import Schemata.Pass

/-! # Sessions

    A **session** keeps the contents of one database for its readers: the
    snapshot that the last successful published pass has read. Its callers
    read through any of several sources, publish what they read or not, and
    ask the sources and stages of a pass directly. Nothing but a published
    pass that succeeds changes what readers see. -/

namespace Schemata

/-- What a successful pass has read, and which pass it was. -/
structure Snapshot where
  /-- The number of successful passes before this one. -/
  pass     : Nat
  contents : Contents
deriving DecidableEq

/-- How a pass ends for its caller. -/
abbrev PassResult := Except PassError Snapshot

/-- The contents of one database, and the sources to read them through. -/
structure Session where
  config    : Config
  sources   : List Source
  /-- What readers see. -/
  published : Option Snapshot := none
  /-- The number of successful passes so far. -/
  passes    : Nat := 0

/-- What can be asked of a session; sources are named by position. -/
inductive Step where
  /-- Run a pass and publish what it reads. -/
  | read (source : Nat)
  /-- Run a pass and publish nothing. -/
  | readUnpublished (source : Nat)
  /-- Start several published passes at once. -/
  | concurrent (sources : List Nat)
  /-- Take the published snapshot. -/
  | snapshot
  /-- Write an identifier by the published snapshot. -/
  | quote (identifier : Option String)
  /-- Tell the configuration. -/
  | config
  /-- Detect the dialect of a source. -/
  | detect (source : Nat) (probe : Bool)
  /-- Enumerate the schemas of a source by given facts. -/
  | enumerate (source : Nat) (facts : Facts)
  /-- Resolve the name of the default schema by given facts. -/
  | resolve (source : Nat) (facts : Facts)
  /-- Make one call. -/
  | call (source : Nat) (c : Call)
  /-- Tell the profile of a source. -/
  | profile (source : Nat)
  /-- Tell the calls that a source has answered. -/
  | calls (source : Nat)
  /-- Change the settings of a source. -/
  | set (source : Nat) (settings : List Setting)

/-- What a session answers to a step. -/
inductive Answer where
  | pass (result : PassResult)
  /-- The results of passes started at once, and the calls they made, each
      with the position of its source. -/
  | passes (results : List PassResult) (log : List (Nat × Call))
  | snapshot (published : Option Snapshot)
  | quoted (identifier : Option (Option String))
  | config (c : Config)
  | facts (f : Facts)
  | names (result : Except MetadataError (List SchemaName))
  | name (n : SchemaName)
  | reply (r : Reply)
  | profile (p : Profile)
  | calls (cs : List Call)
  | changed
  /-- There is no source at the position. -/
  | noSource

namespace Session

/-! ### Inquiries -/

/-- Holds an inquiry with a source. -/
def hold {α : Type} (s : Session) (i : Nat) (q : Profile → Inquiry α) : Option (α × Session) :=
  s.sources[i]?.map fun src =>
    let r := src.hold (q src.profile)
    (r.1, { s with sources := s.sources.set i r.2 })

/-- Holds an inquiry with a source and answers with its result. -/
def answer {α : Type} (s : Session) (i : Nat) (q : Profile → Inquiry α) (f : α → Answer) :
    Answer × Session :=
  match s.hold i q with
  | some (a, s') => (f a, s')
  | none => (.noSource, s)

/-! ### Passes -/

/-- Numbers the contents that a pass has read. -/
def number (s : Session) : Outcome → PassResult × Session
  | .ok contents => (.ok ⟨s.passes, contents⟩, { s with passes := s.passes + 1 })
  | .error e => (.error e, s)

/-- Publishes what a pass has read; a failed pass publishes nothing. -/
def publish (s : Session) : PassResult → Session
  | .ok snap => { s with published := some snap }
  | .error _ => s

/-- Runs a pass over a source and publishes nothing. -/
def readUnpublished (s : Session) (i : Nat) : Option (PassResult × Session) :=
  (s.hold i (pass · s.config)).map fun r => r.2.number r.1

/-- Runs a pass over a source and publishes what it reads. -/
def read (s : Session) (i : Nat) : Option (PassResult × Session) :=
  (s.readUnpublished i).map fun r => (r.1, r.2.publish r.1)

/-- The calls that a source has answered so far. -/
def callsOf (s : Session) (i : Nat) : List Call := (s.sources[i]?.map (·.calls)).getD []

/-- Runs published passes one after the other: their results, and the calls
    made, each with the position of its source. -/
def readAll (s : Session) :
    List Nat → Option (List PassResult × List (Nat × Call) × Session)
  | [] => some ([], [], s)
  | i :: is => do
    let (r, s₁) ← s.read i
    let (rs, log, s₂) ← s₁.readAll is
    let made := (s₁.callsOf i).drop (s.callsOf i).length
    return (r :: rs, made.map (i, ·) ++ log, s₂)

/-! ### Steps -/

/-- One step: the answer, and the session after it. Passes started at once
    are served in the order in which they were started, each one whole. -/
def step (s : Session) : Step → Answer × Session
  | .read i =>
    match s.read i with
    | some (r, s') => (.pass r, s')
    | none => (.noSource, s)
  | .readUnpublished i =>
    match s.readUnpublished i with
    | some (r, s') => (.pass r, s')
    | none => (.noSource, s)
  | .concurrent is =>
    match s.readAll is with
    | some (rs, log, s') => (.passes rs log, s')
    | none => (.noSource, s)
  | .snapshot => (.snapshot s.published, s)
  | .quote identifier =>
    (.quoted (s.published.map fun p => identifier.map p.contents.facts.quote), s)
  | .config => (.config s.config, s)
  | .detect i probe => s.answer i (Schemata.detect · probe) .facts
  | .enumerate i f => s.answer i (fun _ => schemaNames f) .names
  | .resolve i f => s.answer i (fun p => defaultName f p.user) .name
  | .call i c => s.answer i (fun _ => Inquiry.call c) .reply
  | .profile i => s.answer i .done .profile
  | .calls i =>
    match s.sources[i]? with
    | some src => (.calls src.calls, s)
    | none => (.noSource, s)
  | .set i xs =>
    match s.sources[i]? with
    | some src => (.changed, { s with sources := s.sources.set i (src.setAll xs) })
    | none => (.noSource, s)

/-- Steps one after the other: the answers, and the session after them. -/
def run (s : Session) : List Step → List Answer × Session
  | [] => ([], s)
  | x :: xs =>
    let (a, s₁) := s.step x
    let (as, s₂) := s₁.run xs
    (a :: as, s₂)

@[simp] theorem run_nil (s : Session) : s.run [] = ([], s) := rfl

@[simp] theorem run_cons (s : Session) (x : Step) (xs : List Step) :
    s.run (x :: xs) =
      ((s.step x).1 :: ((s.step x).2.run xs).1, ((s.step x).2.run xs).2) := rfl

end Session

end Schemata
