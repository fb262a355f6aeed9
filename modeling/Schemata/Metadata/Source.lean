import Schemata.Metadata.Inquiry

/-! # Metadata sources

    A **source** has a profile, which every caller may read, and answers
    calls. It keeps the calls it has answered, so that a reply may depend
    on what was asked before. Its replies come from one of two places.

    - **Canned** replies are what the source was given to serve: one schema
      listing and a result for each query text it knows. An error that was
      set for the listing, or for a query text, wins over what was set to be
      served there; of two settings of one kind the later one counts.
    - A **script** has one list of replies for the schema listings and one
      for the queries, each served in order. The last reply of a list is
      served again when the list is used up; an empty list serves the empty
      listing. -/

namespace Schemata

/-! ### Canned replies -/

/-- Fixed replies to every call. -/
structure Canned where
  listing      : Listing := .ofNames []
  /-- The message of the error that every listing fails with, if any. -/
  listingError : Option String := none
  /-- The results by query text, the latest first. -/
  results      : List (String × Listing) := []
  /-- The messages of failing queries by query text, the latest first. -/
  failures     : List (String × String) := []

/-- A setting of a source with canned replies. -/
inductive Setting where
  | url (url : String)
  | user (name : String)
  /-- Serve a listing of these schema names. -/
  | names (names : List String)
  /-- Serve a listing of these schema names and default flags. -/
  | flagged (entries : List (String × Bool))
  /-- Serve this listing. -/
  | listing (l : Listing)
  /-- Make every schema listing fail. -/
  | listingError (message : String)
  /-- Serve a result for a query text. -/
  | result (query : String) (l : Listing)
  /-- Make a query text fail. -/
  | failure (query message : String)

namespace Canned

/-- The reply to a call. -/
def reply (c : Canned) : Call → Reply
  | .listing =>
    match c.listingError with
    | some m => .error (.metadata m)
    | none => .ok c.listing
  | .query q =>
    match c.failures.lookup q with
    | some m => .error (.query m)
    | none => .ok ((c.results.lookup q).getD .empty)

/-- The replies after a setting; those of the connection change none. -/
def set (c : Canned) : Setting → Canned
  | .url _ | .user _ => c
  | .names ns => { c with listing := .ofNames ns }
  | .flagged es => { c with listing := .ofFlagged es }
  | .listing l => { c with listing := l }
  | .listingError m => { c with listingError := some m }
  | .result q l => { c with results := (q, l) :: c.results }
  | .failure q m => { c with failures := (q, m) :: c.failures }

end Canned

/-! ### Scripted replies -/

/-- Replies in the order in which they are served. -/
structure Script where
  listings : List Reply
  queries  : List Reply

namespace Script

/-- The reply at a position; the last one stands in for all that follow. -/
def nth : List Reply → Nat → Reply
  | [], _ => .ok .empty
  | [r], _ => r
  | r :: _, 0 => r
  | _ :: rs, n + 1 => nth rs n

/-- The reply to a call after the given calls. -/
def reply (s : Script) (past : List Call) : Call → Reply
  | .listing => nth s.listings (listingCount past)
  | .query _ => nth s.queries (queryCount past)

end Script

/-! ### Sources -/

/-- What a source tells of its connection without a call. -/
structure Profile where
  product : String
  url     : Option String
  user    : String
deriving DecidableEq

/-- Where the replies of a source come from. -/
inductive Replies where
  /-- The same reply to the same call, whatever came before. -/
  | canned (c : Canned)
  /-- Any reply, depending on the call and on the calls before it. -/
  | varying (reply : List Call → Call → Reply)

/-- A metadata source. -/
structure Source where
  profile : Profile
  replies : Replies
  /-- The calls answered so far, in order; failed calls count. -/
  calls   : List Call := []

namespace Source

/-- A source with canned replies, which serves no schemas yet. -/
def inMemory (product : String) : Source where
  profile := ⟨product, none, ""⟩
  replies := .canned {}

/-- A source that follows a script. -/
def scripted (profile : Profile) (s : Script) : Source where
  profile := profile
  replies := .varying s.reply

/-- The source after a setting. Only canned replies can be set. -/
def set (s : Source) (x : Setting) : Source :=
  match s.replies with
  | .varying _ => s
  | .canned c =>
    let profile := match x with
      | .url u => { s.profile with url := some u }
      | .user n => { s.profile with user := n }
      | _ => s.profile
    { s with profile := profile, replies := .canned (c.set x) }

/-- The source after settings, in order. -/
def setAll (s : Source) (xs : List Setting) : Source := xs.foldl set s

/-- The reply to the next call. -/
def reply (s : Source) (c : Call) : Reply :=
  match s.replies with
  | .canned k => k.reply c
  | .varying f => f s.calls c

/-- The source after a call. -/
def after (s : Source) (c : Call) : Source := { s with calls := s.calls ++ [c] }

/-- Holds an inquiry with the source: the result, and the source after the
    calls made. -/
def hold {α : Type} (s : Source) : Inquiry α → α × Source
  | .done a => (a, s)
  | .ask c next => (s.after c).hold (next (s.reply c))

/-- Does the source have canned replies? -/
def isInMemory (s : Source) : Bool :=
  match s.replies with
  | .canned _ => true
  | .varying _ => false

@[simp] theorem profile_after (s : Source) (c : Call) : (s.after c).profile = s.profile := rfl

@[simp] theorem replies_after (s : Source) (c : Call) : (s.after c).replies = s.replies := rfl

@[simp] theorem calls_after (s : Source) (c : Call) : (s.after c).calls = s.calls ++ [c] := rfl

@[simp] theorem hold_done {α : Type} (s : Source) (a : α) : s.hold (.done a) = (a, s) := rfl

@[simp] theorem hold_ask {α : Type} (s : Source) (c : Call) (next : Reply → Inquiry α) :
    s.hold (.ask c next) = (s.after c).hold (next (s.reply c)) := rfl

/-- Settings leave the calls answered so far as they are. -/
@[simp] theorem calls_set (s : Source) (x : Setting) : (s.set x).calls = s.calls := by
  unfold set
  cases s.replies <;> rfl

@[simp] theorem calls_setAll (s : Source) (xs : List Setting) : (s.setAll xs).calls = s.calls := by
  unfold setAll
  induction xs generalizing s with
  | nil => rfl
  | cons x xs ih => rw [List.foldl_cons, ih, calls_set]

/-- Holding one inquiry after another is holding both in turn. -/
theorem hold_bind {α β : Type} (s : Source) (q : Inquiry α) (f : α → Inquiry β) :
    s.hold (q >>= f) = (s.hold q).2.hold (f (s.hold q).1) := by
  induction q generalizing s with
  | done a => rfl
  | ask c next ih => simp [ih]

@[simp] theorem profile_hold {α : Type} (s : Source) (q : Inquiry α) :
    (s.hold q).2.profile = s.profile := by
  induction q generalizing s with
  | done a => rfl
  | ask c next ih => simp [ih]

@[simp] theorem replies_hold {α : Type} (s : Source) (q : Inquiry α) :
    (s.hold q).2.replies = s.replies := by
  induction q generalizing s with
  | done a => rfl
  | ask c next ih => simp [ih]

end Source

end Schemata
