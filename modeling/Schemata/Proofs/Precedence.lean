import Schemata.Proofs.History

/-! # Precedence of settings

    Settings are of different **kinds**, and those for different query texts
    are of different kinds as well. Of all settings of a kind the last one
    counts (`Setting.last?`), and between kinds there is an order: an error
    wins over what was set to be served, whether it was set before or after.

    - `Source.SetTo` says what has become of a source after settings, with one
      lemma for a setting (`SetTo.set`) and one for all of them.
    - In a session a source answers calls between its settings, and passes run
      through it. `Session.setTo_run` finds it as if nothing but the settings
      had happened. -/

namespace Schemata

namespace Setting

/-! ### Kinds of settings -/

/-- What a setting is about. -/
inductive Kind where
  | url
  | user
  /-- The listing to serve, in whatever way it is given. -/
  | listing
  | listingError
  | result (query : String)
  | failure (query : String)
deriving DecidableEq

/-- What is set by a setting of the kind. -/
abbrev Kind.Value : Kind → Type
  | url | user | listingError | failure _ => String
  | listing | result _ => Listing

/-- The kind of a setting. -/
def kind : Setting → Kind
  | .url _ => .url
  | .user _ => .user
  | .names _ | .flagged _ | .listing _ => .listing
  | .listingError _ => .listingError
  | .result q _ => .result q
  | .failure q _ => .failure q

/-- What is set. -/
def value : (x : Setting) → x.kind.Value
  | .url u => u
  | .user n => n
  | .names ns => .ofNames ns
  | .flagged es => .ofFlagged es
  | .listing l => l
  | .listingError m => m
  | .result _ l => l
  | .failure _ m => m

/-- What the setting sets of the kind, if it is of that kind. -/
def value? (k : Kind) (x : Setting) : Option k.Value :=
  if h : x.kind = k then some (h ▸ x.value) else none

/-- The last of the settings of a kind, if there is any. -/
def last? (k : Kind) (xs : List Setting) : Option k.Value := (xs.filterMap (value? k)).getLast?

variable {k : Kind} {x y : Setting}

theorem value?_of_ne (h : x.kind ≠ k) : x.value? k = none := dif_neg h

theorem last?_append (k : Kind) (xs ys : List Setting) :
    last? k (xs ++ ys) = (last? k ys).or (last? k xs) := by
  rw [last?, List.filterMap_append, List.getLast?_append]
  rfl

theorem last?_singleton (k : Kind) (x : Setting) : last? k [x] = x.value? k := by
  unfold last?
  cases h : x.value? k <;> simp [h]

theorem last?_snoc (k : Kind) (xs : List Setting) (x : Setting) :
    last? k (xs ++ [x]) = (x.value? k).or (last? k xs) := by
  rw [last?_append, last?_singleton]

/-- Settings of different kinds next to each other can be swapped. -/
theorem last?_swap (h : x.kind ≠ y.kind) (k : Kind) (before after : List Setting) :
    last? k (before ++ y :: x :: after) = last? k (before ++ x :: y :: after) := by
  unfold last?
  by_cases hx : x.kind = k
  · have hy : y.value? k = none := value?_of_ne fun hy => h (hx.trans hy.symm)
    simp only [List.filterMap_append, List.filterMap_cons, hy]
  · simp only [List.filterMap_append, List.filterMap_cons, value?_of_ne hx]

/-- What was set for a query text is found before what was set for it earlier. -/
theorem lookup_cons_or {α : Type} (q q' : String) (v : α) (es : List (String × α)) :
    ((q', v) :: es).lookup q = (if q' = q then some v else none).or (es.lookup q) := by
  by_cases h : q' = q
  · simp [h]
  · have hne : (q == q') = false := by simpa using Ne.symm h
    simp [List.lookup_cons, h, hne]

theorem value?_result (q q' : String) (l : Listing) :
    (Setting.result q' l).value? (.result q) = if q' = q then some l else none := by
  by_cases h : q' = q
  · subst h
    simp [value?, kind, value]
  · rw [if_neg h, value?_of_ne (by simpa [kind] using h)]

theorem value?_failure (q q' m : String) :
    (Setting.failure q' m).value? (.failure q) = if q' = q then some m else none := by
  by_cases h : q' = q
  · subst h
    simp [value?, kind, value]
  · rw [if_neg h, value?_of_ne (by simpa [kind] using h)]

/-! ### What settings come to -/

/-- The profile after settings. -/
def profileTo (product : String) (xs : List Setting) : Profile :=
  ⟨product, last? .url xs, (last? .user xs).getD ""⟩

/-- The reply to a call after settings. -/
def replyTo (xs : List Setting) : Call → Reply
  | .listing =>
    match last? .listingError xs with
    | some m => .error (.metadata m)
    | none => .ok ((last? .listing xs).getD (.ofNames []))
  | .query q =>
    match last? (.failure q) xs with
    | some m => .error (.query m)
    | none => .ok ((last? (.result q) xs).getD .empty)

/-- Nothing but the last settings of each kind counts. -/
theorem replyTo_congr {xs ys : List Setting} (h : ∀ k, last? k xs = last? k ys) :
    replyTo xs = replyTo ys := by
  funext c
  cases c with
  | listing => simp only [replyTo, h]
  | query q => simp only [replyTo, h]

end Setting

open Setting (last? profileTo replyTo)

/-! ### One setting after the other -/

namespace Canned

variable {c : Canned} {xs : List Setting}

/-- The replies are those that the settings come to. -/
structure SetTo (c : Canned) (xs : List Setting) : Prop where
  listing_eq : c.listing = (last? .listing xs).getD (.ofNames [])
  listingError_eq : c.listingError = last? .listingError xs
  lookup_results : ∀ q, c.results.lookup q = last? (.result q) xs
  lookup_failures : ∀ q, c.failures.lookup q = last? (.failure q) xs

theorem setTo_nil : SetTo {} [] := ⟨rfl, rfl, fun _ => rfl, fun _ => rfl⟩

theorem listing_set (c : Canned) (x : Setting) :
    (c.set x).listing = (x.value? .listing).getD c.listing := by
  cases x <;> rfl

theorem listingError_set (c : Canned) (x : Setting) :
    (c.set x).listingError = (x.value? .listingError).or c.listingError := by
  cases x <;> rfl

theorem lookup_results_set (c : Canned) (x : Setting) (q : String) :
    (c.set x).results.lookup q = (x.value? (.result q)).or (c.results.lookup q) := by
  cases x with
  | result q' l => rw [Setting.value?_result, ← Setting.lookup_cons_or, set]
  | _ => rfl

theorem lookup_failures_set (c : Canned) (x : Setting) (q : String) :
    (c.set x).failures.lookup q = (x.value? (.failure q)).or (c.failures.lookup q) := by
  cases x with
  | failure q' m => rw [Setting.value?_failure, ← Setting.lookup_cons_or, set]
  | _ => rfl

theorem SetTo.set (h : c.SetTo xs) (x : Setting) : (c.set x).SetTo (xs ++ [x]) where
  listing_eq := by
    rw [listing_set, h.listing_eq, Setting.last?_snoc, Option.getD_or]
  listingError_eq := by
    rw [listingError_set, h.listingError_eq, Setting.last?_snoc]
  lookup_results q := by
    rw [lookup_results_set, h.lookup_results, Setting.last?_snoc]
  lookup_failures q := by
    rw [lookup_failures_set, h.lookup_failures, Setting.last?_snoc]

theorem SetTo.reply_eq (h : c.SetTo xs) : c.reply = replyTo xs := by
  funext call
  cases call with
  | listing =>
    rw [reply, h.listingError_eq, h.listing_eq, replyTo]
    cases last? .listingError xs <;> rfl
  | query q =>
    rw [reply, h.lookup_failures, h.lookup_results, replyTo]
    cases last? (.failure q) xs <;> rfl

end Canned

namespace Source

variable {src src' : Source} {product : String} {xs : List Setting}

/-- Profile and replies are those that the settings come to. -/
structure SetTo (src : Source) (product : String) (xs : List Setting) : Prop where
  profile_eq : src.profile = profileTo product xs
  canned : ∃ c, src.replies = .canned c ∧ c.SetTo xs

theorem setTo_inMemory (product : String) : (inMemory product).SetTo product [] :=
  ⟨rfl, _, rfl, Canned.setTo_nil⟩

theorem SetTo.reply_eq (h : src.SetTo product xs) (c : Call) : src.reply c = replyTo xs c := by
  obtain ⟨k, hk, hset⟩ := h.canned
  simp only [reply, hk, hset.reply_eq]

/-- The calls answered so far do not matter. -/
theorem SetTo.of_settings (h : src.SetTo product xs) (heq : src'.settings = src.settings) :
    src'.SetTo product xs := by
  obtain ⟨k, hk, hset⟩ := h.canned
  have hprofile : src'.profile = src.profile := congrArg Prod.fst heq
  have hreplies : src'.replies = src.replies := congrArg Prod.snd heq
  exact ⟨hprofile.trans h.profile_eq, k, hreplies.trans hk, hset⟩

theorem SetTo.set (h : src.SetTo product xs) (x : Setting) :
    (src.set x).SetTo product (xs ++ [x]) := by
  obtain ⟨k, hk, hset⟩ := h.canned
  refine ⟨?_, k.set x, by simp only [Source.set, hk], hset.set x⟩
  have hprofile : (src.set x).profile = ⟨src.profile.product, (x.value? .url).or src.profile.url,
      (x.value? .user).getD src.profile.user⟩ := by
    simp only [Source.set, hk]
    cases x <;> rfl
  rw [hprofile, h.profile_eq, profileTo, profileTo, Setting.last?_snoc, Setting.last?_snoc,
    Option.getD_or]

theorem SetTo.setAll (h : src.SetTo product xs) (ys : List Setting) :
    (src.setAll ys).SetTo product (xs ++ ys) := by
  induction ys generalizing src xs with
  | nil => simpa [Source.setAll] using h
  | cons y ys ih =>
    have hrest := ih (h.set y)
    rwa [List.append_assoc] at hrest

end Source

/-! ### Settings in a session -/

/-- What the step sets of the source at position `i`. -/
def Step.settingsOf (i : Nat) : Step → List Setting
  | .set k xs => if k = i then xs else []
  | _ => []

theorem Step.settingsOf_eq_nil {i : Nat} {x : Step} (h : ∀ settings, x ≠ .set i settings) :
    x.settingsOf i = [] := by
  cases x with
  | set k settings =>
    have hne : k ≠ i := fun hki => h settings (by rw [hki])
    exact if_neg hne
  | _ => rfl

namespace Session

variable {s : Session} {i : Nat} {src : Source} {product : String} {xs : List Setting}

/-- After any step the source is set to what it was before, and to what the step
    sets of it. -/
theorem setTo_step (hsrc : s.sources[i]? = some src) (h : src.SetTo product xs) (x : Step) :
    ∃ src', (s.step x).2.sources[i]? = some src' ∧ src'.SetTo product (xs ++ x.settingsOf i) := by
  by_cases hset : ∃ settings, x = .set i settings
  · obtain ⟨settings, rfl⟩ := hset
    obtain ⟨hi, rfl⟩ := List.getElem?_eq_some_iff.mp hsrc
    refine ⟨s.sources[i].setAll settings, by simp [step, hi], ?_⟩
    rw [Step.settingsOf, if_pos rfl]
    exact h.setAll settings
  · -- the step may have added to the calls of the source
    have hnone : ∀ settings, x ≠ .set i settings := fun settings hx => hset ⟨settings, hx⟩
    have hkept := s.settingsAt?_step hnone
    rw [settingsAt?, settingsAt?, hsrc, Option.map_some, Option.map_eq_some_iff] at hkept
    obtain ⟨src', hsrc', hsettings⟩ := hkept
    refine ⟨src', hsrc', ?_⟩
    rw [Step.settingsOf_eq_nil hnone, List.append_nil]
    exact h.of_settings hsettings

theorem setTo_run (hsrc : s.sources[i]? = some src) (h : src.SetTo product xs)
    (steps : List Step) : ∃ src', (s.run steps).2.sources[i]? = some src' ∧
      src'.SetTo product (xs ++ steps.flatMap (·.settingsOf i)) := by
  induction steps generalizing s src xs with
  | nil => exact ⟨src, hsrc, by simpa using h⟩
  | cons x steps ih =>
    obtain ⟨src₁, hsrc₁, h₁⟩ := setTo_step hsrc h x
    obtain ⟨src', hsrc', h'⟩ := ih hsrc₁ h₁
    refine ⟨src', hsrc', ?_⟩
    rwa [List.append_assoc] at h'

end Session

/-! ### The main result -/

end Schemata
