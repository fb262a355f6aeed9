import Schemata.Metadata.Source

/-! # Dialogues

    What comes of an inquiry that is held with a source: `Source.exchanges`
    lists the calls of the dialogue, each with its reply, and `Source.asked`
    the calls alone. The source keeps exactly these calls (`Source.hold_snd`).

    Of the listings in a dialogue the first and the last are of interest
    (`Source.firstListing?`, `Source.lastListing?`). -/

namespace Schemata

variable {α β : Type}

namespace Source

/-- The calls made when the inquiry is held, in order, each with its reply. -/
def exchanges (s : Source) : Inquiry α → List (Call × Reply)
  | .done _ => []
  | .ask c next => (c, s.reply c) :: (s.after c).exchanges (next (s.reply c))

@[simp] theorem exchanges_done (s : Source) (a : α) : s.exchanges (.done a) = [] := rfl

@[simp] theorem exchanges_ask (s : Source) (c : Call) (next : Reply → Inquiry α) :
    s.exchanges (.ask c next) =
      (c, s.reply c) :: (s.after c).exchanges (next (s.reply c)) :=
  rfl

/-- The dialogues of one inquiry after another follow each other. -/
theorem exchanges_bind (s : Source) (q : Inquiry α) (f : α → Inquiry β) :
    s.exchanges (q >>= f) =
      s.exchanges q ++ (s.hold q).2.exchanges (f (s.hold q).1) := by
  induction q generalizing s with
  | done a => simp
  | ask c next ih => simp [ih]

/-! ### The calls of a dialogue -/

/-- The calls made when the inquiry is held, in order. -/
def asked (s : Source) (q : Inquiry α) : List Call := (s.exchanges q).map (·.1)

@[simp] theorem asked_done (s : Source) (a : α) : s.asked (.done a) = [] := rfl

@[simp] theorem asked_ask (s : Source) (c : Call) (next : Reply → Inquiry α) :
    s.asked (.ask c next) = c :: (s.after c).asked (next (s.reply c)) :=
  rfl

/-- The source after more calls, in order. -/
def afterAll (src : Source) (calls : List Call) : Source :=
  { src with calls := src.calls ++ calls }

@[simp] theorem afterAll_nil (src : Source) : src.afterAll [] = src := by
  simp [afterAll]

theorem afterAll_snoc (src : Source) (calls : List Call) (c : Call) :
    src.afterAll (calls ++ [c]) = (src.afterAll calls).after c := by
  simp [afterAll, after]

theorem after_afterAll (src : Source) (c : Call) (calls : List Call) :
    (src.after c).afterAll calls = src.afterAll (c :: calls) := by
  simp [afterAll, after]

theorem afterAll_append (src : Source) (calls calls' : List Call) :
    src.afterAll (calls ++ calls') = (src.afterAll calls).afterAll calls' := by
  simp [afterAll]

/-- A source keeps exactly the calls of the dialogue, and changes in nothing
    else. -/
theorem hold_snd (s : Source) (q : Inquiry α) : (s.hold q).2 = s.afterAll (s.asked q) := by
  induction q generalizing s with
  | done a => simp
  | ask c next ih => simp [ih, after, afterAll]

theorem calls_hold (s : Source) (q : Inquiry α) :
    (s.hold q).2.calls = s.calls ++ (s.exchanges q).map (·.1) := by
  rw [hold_snd]
  rfl

/-- A source that replies to a listing with `r` whenever it is called does so
    in every dialogue. -/
theorem reply_of_mem_exchanges {s : Source} {r r' : Reply} {q : Inquiry α}
    (hr : ∀ made, (s.afterAll made).reply .listing = r)
    (h : (.listing, r') ∈ s.exchanges q) : r' = r := by
  induction q generalizing s with
  | done a => cases h
  | ask c next ih =>
    rcases List.mem_cons.mp h with hfirst | hrest
    · cases hfirst
      simpa using hr []
    · refine ih _ (fun made => ?_) hrest
      rw [after_afterAll]
      exact hr (c :: made)

/-! ### Listings in a dialogue -/

/-- The reply to the first schema listing that the inquiry asks for, if it
    asks for one. -/
def firstListing? (s : Source) (q : Inquiry α) : Option Reply :=
  ((s.exchanges q).find? (·.1.isListing)).map (·.2)

/-- The reply to the last schema listing that the inquiry asks for, if it asks
    for one. -/
def lastListing? (s : Source) (q : Inquiry α) : Option Reply :=
  ((s.exchanges q).reverse.find? (·.1.isListing)).map (·.2)

theorem firstListing?_eq_some {s : Source} {q : Inquiry α} {before after : List (Call × Reply)}
    {r : Reply} (h : s.exchanges q = before ++ (.listing, r) :: after)
    (hbefore : ∀ x ∈ before, x.1.isListing = false) : s.firstListing? q = some r := by
  have hnone : before.find? (·.1.isListing) = none := by
    rw [List.find?_eq_none]
    intro x hx
    simp [hbefore x hx]
  rw [firstListing?, h, List.find?_append, hnone, Option.none_or]
  rfl

theorem lastListing?_eq_some {s : Source} {q : Inquiry α} {before : List (Call × Reply)}
    {r : Reply} (h : s.exchanges q = before ++ [(.listing, r)]) : s.lastListing? q = some r := by
  rw [lastListing?, h, List.reverse_append]
  rfl

end Source

end Schemata
