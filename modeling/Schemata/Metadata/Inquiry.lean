import Schemata.Listing

/-! # Calls and inquiries

    A metadata source answers two calls: for the schema listing, and for the
    result of a query. Either call may fail, with one of two kinds of error.

    An **inquiry** is a dialogue with a source before anybody has said who
    answers: it is over with a result, or it makes one call and goes on with
    whatever the reply is. The same inquiry can be held in one go or one call
    at a time. -/

namespace Schemata

/-! ### Calls -/

/-- A call to a metadata source. -/
inductive Call where
  /-- List the schemas. -/
  | listing
  /-- Run the query with exactly this text. -/
  | query (text : String)
deriving DecidableEq

/-- Why a call failed. -/
inductive MetadataError where
  /-- A query went wrong. -/
  | query (message : String)
  /-- Reading metadata went wrong. -/
  | metadata (message : String)
deriving DecidableEq

/-- The error as shown to a user. -/
def MetadataError.message : MetadataError → String
  | query m => "Query error: " ++ m
  | metadata m => "Metadata error: " ++ m

/-- The answer to a call. -/
abbrev Reply := Except MetadataError Listing

namespace Call

/-- Is it a call for the schema listing? -/
def isListing : Call → Bool
  | listing => true
  | query _ => false

/-- Is it a call for the result of a query? -/
def isQuery : Call → Bool
  | listing => false
  | query _ => true

@[simp] theorem isQuery_eq_not_isListing (c : Call) : c.isQuery = !c.isListing := by
  cases c <;> rfl

end Call

/-- The number of calls for the schema listing. -/
def listingCount (calls : List Call) : Nat := calls.countP Call.isListing

/-- The number of calls for the result of a query. -/
def queryCount (calls : List Call) : Nat := calls.countP Call.isQuery

/-! ### Inquiries -/

/-- A dialogue with a metadata source that ends in an `α`. -/
inductive Inquiry (α : Type) where
  /-- The dialogue is over. -/
  | done (result : α)
  /-- The next call, and how the dialogue goes on after the reply. -/
  | ask (call : Call) (next : Reply → Inquiry α)

namespace Inquiry

variable {α β : Type}

/-- One inquiry after another. -/
def bind : Inquiry α → (α → Inquiry β) → Inquiry β
  | done a, f => f a
  | ask c next, f => ask c fun r => (next r).bind f

instance : Monad Inquiry where
  pure := done
  bind := bind

/-- The inquiry of one call, ending in its reply. -/
def call (c : Call) : Inquiry Reply := ask c done

@[simp] theorem pure_eq (a : α) : (pure a : Inquiry α) = done a := rfl

@[simp] theorem done_bind (a : α) (f : α → Inquiry β) : (done a >>= f) = f a := rfl

@[simp] theorem ask_bind (c : Call) (next : Reply → Inquiry α) (f : α → Inquiry β) :
    (ask c next >>= f) = ask c fun r => next r >>= f := rfl

@[simp] theorem call_bind (c : Call) (f : Reply → Inquiry β) :
    (call c >>= f) = ask c f := rfl

end Inquiry

end Schemata
