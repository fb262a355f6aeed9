import Schemata.Config.Document
import Schemata.Proofs.Serial

/-! # Table types of configuration documents

    A configuration document is decoded by a library and then checked: an entry
    of white space only is a blank table type and is refused. Of the library
    nothing is used but that it decodes a document or does not, so that all of
    this holds for every decoder (`Config.ofTextBy`), the one at hand among them.

    - A decoded configuration passes unchanged, or is refused for its first blank
      entry (`Config.check_eq_ok_iff`, `Config.check_of_firstBlank`).
    - The message quotes that entry with escapes that can be undone
      (`Text.escaped_injective`), and so tells it from every other one.
    - A session hands the table types of its configuration on to every snapshot
      (`Session.tableTypes_of_shown`), none of which has a blank one then. -/

namespace Schemata

/-! ### Quoted texts -/

namespace Text

variable {c c' : Char} {cs cs' r r' : List Char}

/-- The value of a hexadecimal digit in small letters. -/
def hexDigit (c : Char) : Nat :=
  if c.isDigit then c.toNat - '0'.toNat else c.toNat - 'a'.toNat + 10

/-- The number of a series of hexadecimal digits. -/
def hexValue (ds : List Char) : Nat := ds.foldl (fun n c => n * 16 + hexDigit c) 0

theorem hexDigit_digitChar {n : Nat} (h : n < 16) :
    hexDigit n.digitChar = n ∧ n.digitChar ≠ '\x7d' := by
  have hall : ∀ n < 16, hexDigit n.digitChar = n ∧ n.digitChar ≠ '\x7d' := by decide
  exact hall n h

/-- The digits of a number give the number back, and none of them is a brace. -/
theorem hexValue_toDigits (n : Nat) :
    hexValue (Nat.toDigits 16 n) = n ∧ '\x7d' ∉ Nat.toDigits 16 n := by
  induction n using Nat.strongRecOn with
  | _ n ih =>
    by_cases hlt : n < 16
    · obtain ⟨hvalue, hbrace⟩ := hexDigit_digitChar hlt
      rw [Nat.toDigits_of_lt_base hlt]
      refine ⟨?_, ?_⟩
      · show 0 * 16 + hexDigit n.digitChar = n
        omega
      · simp [hbrace.symm]
    · obtain ⟨hvalue, hbrace⟩ := ih (n / 16) (by omega)
      obtain ⟨hlast, hlastBrace⟩ := hexDigit_digitChar (Nat.mod_lt n (by decide : 16 > 0))
      rw [Nat.toDigits_of_base_le (by decide) (by omega)]
      refine ⟨?_, ?_⟩
      · unfold hexValue at hvalue ⊢
        rw [List.foldl_append, hvalue]
        show n / 16 * 16 + hexDigit (n % 16).digitChar = n
        omega
      · simp [hbrace, hlastBrace.symm]

/-- Reads one character of a quoted text. -/
def readEscaped : List Char → Option (Char × List Char)
  | '\\' :: 't' :: r => some ('\t', r)
  | '\\' :: 'n' :: r => some ('\n', r)
  | '\\' :: 'r' :: r => some ('\r', r)
  | '\\' :: 'u' :: '\x7b' :: r =>
    some (Char.ofNat (hexValue (r.takeWhile (· ≠ '\x7d'))), (r.dropWhile (· ≠ '\x7d')).tail)
  | '\\' :: c :: r => some (c, r)
  | c :: r => some (c, r)
  | [] => none

/-- Every character is read back, whatever follows it. -/
theorem readEscaped_escapeChar (c : Char) (r : List Char) :
    readEscaped (escapeChar c ++ r) = some (c, r) := by
  unfold escapeChar
  split
  case isTrue h => rw [h]; rfl
  split
  case isTrue h => rw [h]; rfl
  split
  case isTrue h => rw [h]; rfl
  split
  case isTrue h => rcases h with rfl | rfl <;> rfl
  case isFalse hquote =>
    split
    case isTrue h =>
      obtain ⟨hvalue, hbrace⟩ := hexValue_toDigits c.toNat
      have hdigits : ∀ d ∈ Nat.toDigits 16 c.toNat, decide (d ≠ '\x7d') = true := by
        intro d hd
        have hne : d ≠ '\x7d' := fun h => hbrace (h ▸ hd)
        exact decide_eq_true hne
      show readEscaped ('\\' :: 'u' :: '\x7b' :: (Nat.toDigits 16 c.toNat ++ ['\x7d'] ++ r)) = _
      rw [readEscaped, List.append_assoc, List.takeWhile_append_of_pos hdigits,
        List.dropWhile_append_of_pos hdigits]
      simp [hvalue]
    case isFalse h =>
      have hc : c ≠ '\\' := fun h => hquote (.inr h)
      show readEscaped (c :: r) = _
      rw [readEscaped] <;> simp [hc]

theorem escapeChar_ne_nil (c : Char) : escapeChar c ≠ [] := by
  intro h
  have hread := readEscaped_escapeChar c []
  rw [h] at hread
  cases hread

/-- Characters can be told apart one after the other. -/
theorem flatMap_escapeChar_injective (h : cs.flatMap escapeChar = cs'.flatMap escapeChar) :
    cs = cs' := by
  induction cs generalizing cs' with
  | nil =>
    cases cs' with
    | nil => rfl
    | cons c' cs' =>
      rw [List.flatMap_nil, List.flatMap_cons, eq_comm, List.append_eq_nil_iff] at h
      exact absurd h.1 (escapeChar_ne_nil c')
  | cons c cs ih =>
    cases cs' with
    | nil =>
      rw [List.flatMap_nil, List.flatMap_cons, List.append_eq_nil_iff] at h
      exact absurd h.1 (escapeChar_ne_nil c)
    | cons c' cs' =>
      rw [List.flatMap_cons, List.flatMap_cons] at h
      have hread : some (c, cs.flatMap escapeChar) = some (c', cs'.flatMap escapeChar) := by
        rw [← readEscaped_escapeChar, h, readEscaped_escapeChar]
      obtain ⟨rfl, hrest⟩ := Prod.mk.inj (Option.some.inj hread)
      rw [ih hrest]

/-- A quoted text is that of no other text. -/
theorem escaped_injective : Function.Injective escaped := by
  intro s s' h
  have hchars := String.ofList_injective h
  rw [List.append_cancel_right_eq, List.cons_eq_cons] at hchars
  exact String.toList_inj.mp (flatMap_escapeChar_injective hchars.2)

end Text

/-! ### Blank entries -/

/-- Some character of the entry is not white space. -/
def HasContent (entry : String) : Prop := ∃ c ∈ entry.toList, Text.isBlank c = false

instance (entry : String) : Decidable (HasContent entry) :=
  inferInstanceAs (Decidable (∃ c ∈ entry.toList, Text.isBlank c = false))

/-- The entry is the first one of the list in which there is nothing but white
    space. -/
structure FirstBlank (entries : List String) (entry : String) : Prop where
  blank : ¬HasContent entry
  first : ∃ before after, entries = before ++ entry :: after ∧ ∀ e ∈ before, HasContent e

namespace Config

variable {c c' : Config} {entry entry' : String} {e e' : ConfigError}

theorem isBlankEntry_eq_false_iff : isBlankEntry entry = false ↔ HasContent entry := by
  simp [isBlankEntry, Text.allBlank, HasContent]

theorem isBlankEntry_iff : isBlankEntry entry = true ↔ ¬HasContent entry := by
  rw [← isBlankEntry_eq_false_iff, Bool.not_eq_false]

theorem blankEntry?_eq_none_iff :
    c.blankEntry? = none ↔ ∀ entry ∈ c.tableTypes, HasContent entry := by
  unfold blankEntry?
  rw [List.find?_eq_none]
  simp only [isBlankEntry_iff, not_not]

theorem blankEntry?_eq_some_iff :
    c.blankEntry? = some entry ↔ FirstBlank c.tableTypes entry := by
  unfold blankEntry?
  rw [List.find?_eq_some_iff_append]
  simp only [isBlankEntry_iff, Bool.not_eq_true', isBlankEntry_eq_false_iff]
  constructor
  · intro h
    exact ⟨h.1, h.2⟩
  · intro h
    exact ⟨h.blank, h.first⟩

/-- There is a first blank entry unless every entry has content. -/
theorem exists_firstBlank (h : ¬∀ entry ∈ c.tableTypes, HasContent entry) :
    ∃ entry, FirstBlank c.tableTypes entry := by
  rw [← blankEntry?_eq_none_iff, ← ne_eq, Option.ne_none_iff_exists'] at h
  obtain ⟨entry, hentry⟩ := h
  exact ⟨entry, blankEntry?_eq_some_iff.mp hentry⟩

/-! ### The check -/

/-- A checked configuration is the one there was, and no table type is blank. -/
theorem check_eq_ok_iff :
    c.check = .ok c' ↔ c' = c ∧ ∀ entry ∈ c.tableTypes, HasContent entry := by
  unfold check
  rw [← blankEntry?_eq_none_iff]
  cases c.blankEntry? with
  | none => simp [eq_comm]
  | some entry => simp

theorem check_of_firstBlank (h : FirstBlank c.tableTypes entry) :
    c.check = .error (.invalid (blankReason entry)) := by
  unfold check
  rw [blankEntry?_eq_some_iff.mpr h]

/-- The entry is quoted at the end of the message. -/
theorem message?_blankReason (entry : String) :
    (ConfigError.invalid (blankReason entry)).message? =
      some ("Configuration error: " ++
        ("table_types contains a blank entry: " ++ Text.escaped entry)) :=
  rfl

/-- Different entries are refused with different messages. -/
theorem message?_blankReason_inj :
    (ConfigError.invalid (blankReason entry)).message? =
      (ConfigError.invalid (blankReason entry')).message? ↔ entry = entry' := by
  rw [message?_blankReason, message?_blankReason, Option.some_inj, String.append_right_inj,
    String.append_right_inj, Text.escaped_injective.eq_iff]

/-! ### Decoders -/

/-- The configuration of a document, by any decoder of documents. -/
def ofTextBy (decode? : String → Option Config) (source : String) : Except ConfigError Config :=
  match decode? source with
  | some c => c.check
  | none => .error .malformed

/-- The configuration of a document in a file, by any decoder of documents. -/
def loadBy (decode? : String → Option Config) (bytes : Option ByteArray) :
    Except ConfigError Config :=
  match bytes.bind String.fromUTF8? with
  | some source => ofTextBy decode? source
  | none => .error .unreadable

section Decoders

variable {decode? : String → Option Config} {source source' text : String} {bytes : ByteArray}

theorem ofTextBy_of_decoded (h : decode? source = some c) : ofTextBy decode? source = c.check := by
  rw [ofTextBy, h]

theorem fromUTF8?_toUTF8 (text : String) : String.fromUTF8? text.toUTF8 = some text := by
  unfold String.fromUTF8?
  exact dif_pos text.isValidUTF8

theorem loadBy_toUTF8 : loadBy decode? (some text.toUTF8) = ofTextBy decode? text := by
  rw [loadBy, Option.bind_some, fromUTF8?_toUTF8]

/-- Bytes that are those of no text are not read. -/
theorem loadBy_of_not_text (h : ∀ text : String, text.toUTF8 ≠ bytes) :
    loadBy decode? (some bytes) = .error .unreadable := by
  have hnone : String.fromUTF8? bytes = none := by
    unfold String.fromUTF8?
    exact dif_neg fun hvalid => h (String.fromUTF8 bytes hvalid) rfl
  rw [loadBy, Option.bind_some, hnone]

/-- A configuration that is the default one, or was read from a document. -/
inductive Obtained (decode? : String → Option Config) : Config → Prop where
  | default : Obtained decode? {}
  | ofText {source : String} {c : Config} (h : ofTextBy decode? source = .ok c) :
    Obtained decode? c
  | load {bytes : Option ByteArray} {c : Config} (h : loadBy decode? bytes = .ok c) :
    Obtained decode? c

theorem hasContent_of_ofTextBy (h : ofTextBy decode? source = .ok c) :
    ∀ entry ∈ c.tableTypes, HasContent entry := by
  unfold ofTextBy at h
  split at h
  · obtain ⟨rfl, hcontent⟩ := check_eq_ok_iff.mp h
    exact hcontent
  · cases h

/-- No way to a configuration leads to a blank table type. -/
theorem Obtained.hasContent (h : Obtained decode? c) : ∀ entry ∈ c.tableTypes, HasContent entry := by
  cases h with
  | default => exact blankEntry?_eq_none_iff.mp rfl
  | ofText h => exact hasContent_of_ofTextBy h
  | load h =>
    unfold loadBy at h
    split at h
    · exact hasContent_of_ofTextBy h
    · cases h

end Decoders

end Config

/-! ### Snapshots of a session -/

namespace Session

variable {s s' : Session} {snap : Snapshot}

theorem tableTypes_of_readAll {is : List Nat} {rs : List PassResult} {log : List (Nat × Call)}
    (h : s.readAll is = some (rs, log, s')) (hsnap : snap ∈ successes rs) :
    snap.contents.tableTypes = s.config.tableTypes := by
  obtain ⟨j, hj⟩ := List.mem_iff_getElem?.mp (mem_successes.mp hsnap)
  obtain ⟨i, _, src, _, hsound⟩ := soundResult_readAll h hj
  exact (hsound snap rfl).tableTypes_eq

/-- What a session that starts with nothing published answers with or publishes
    has the table types of its configuration. -/
theorem tableTypes_of_shown {xs : List Step} (hs : s.published = none)
    (h : (∃ a ∈ (s.run xs).1, snap ∈ a.snapshots) ∨ (s.run xs).2.published = some snap) :
    snap.contents.tableTypes = s.config.tableTypes := by
  rcases reads_of_shown h with ⟨src, hread⟩ | hpublished
  · exact (wellFormed_of_reads hread).tableTypes_eq
  · rw [hs] at hpublished
    cases hpublished

end Session

namespace Interleaving

variable {s : Session} {sources : List Nat} {ls : List Label} {t t' : State} {snap : Snapshot}

/-- What a reader was given had been published when it looked. -/
theorem exists_published_of_mem_looks (h : run? t ls = some t') {look : Option Snapshot}
    (hlook : look ∈ t'.looks) :
    look ∈ t.looks ∨ ∃ pre m, run? t pre = some m ∧ m.session.published = look := by
  induction ls generalizing t with
  | nil =>
    cases h
    exact .inl hlook
  | cons l ls ih =>
    rw [run?_cons, Option.bind_eq_some_iff] at h
    obtain ⟨t₁, hstep, hrun⟩ := h
    rcases ih hrun with hmem | ⟨pre, m, hpre, hm⟩
    · cases l with
      | request k =>
        obtain ⟨i, src, _, _, rfl⟩ := step?_request hstep
        exact .inl hmem
      | call =>
        obtain ⟨k, i, c, next, ws, src, _, _, rfl⟩ := step?_call hstep
        exact .inl hmem
      | finish =>
        obtain ⟨k, i, outcome, ws, _, rfl⟩ := step?_finish hstep
        exact .inl hmem
      | look =>
        obtain rfl := step?_look hstep
        rcases List.mem_append.mp hmem with hbefore | hnow
        · exact .inl hbefore
        · exact .inr ⟨[], t, rfl, (List.mem_singleton.mp hnow).symm⟩
    · refine .inr ⟨l :: pre, m, ?_, hm⟩
      rw [run?_cons, hstep, Option.bind_some, hpre]

/-- Callers at different points of their passes are no exception. -/
theorem tableTypes_of_finished (hrun : run? (start s sources) ls = some t)
    (hs : ∀ snap, s.published = some snap → snap.contents.tableTypes = s.config.tableTypes)
    (h : snap ∈ successes (t.finished.map (·.2)) ∨ t.session.published = some snap) :
    snap.contents.tableTypes = s.config.tableTypes := by
  have hinv := inv_run (inv_start s sources) hrun
  obtain ⟨past, log, s₁, _, _, hread, _, _⟩ := hinv.served
  have hfinished : ∀ snap ∈ successes (t.finished.map (·.2)),
      snap.contents.tableTypes = s.config.tableTypes :=
    fun _ => Session.tableTypes_of_readAll hread
  rcases h with hmem | hpublished
  · exact hfinished snap hmem
  · rw [hinv.published_eq, Option.or_eq_some_iff] at hpublished
    rcases hpublished with hlast | ⟨_, hbefore⟩
    · exact hfinished snap (List.mem_of_getLast? hlast)
    · exact hs snap hbefore

theorem tableTypes_of_looks (hrun : run? (start s sources) ls = some t)
    (hs : ∀ snap, s.published = some snap → snap.contents.tableTypes = s.config.tableTypes)
    (h : some snap ∈ t.looks) : snap.contents.tableTypes = s.config.tableTypes := by
  rcases exists_published_of_mem_looks hrun h with hmem | ⟨pre, m, hpre, hm⟩
  · cases hmem
  · exact tableTypes_of_finished hpre hs (.inr hm)

end Interleaving

/-! ### The main result -/

namespace Config

/-- What holds of configuration documents and of the sessions that they configure,
    `decode?` being what decodes a document. -/
structure RefusesBlankTypes (decode? : String → Option Config) : Prop where
  /-- A decoded configuration passes if every entry has content, and only then. -/
  accepted_iff : ∀ source c, decode? source = some c →
    (ofTextBy decode? source = .ok c ↔ ∀ entry ∈ c.tableTypes, HasContent entry)
  /-- Nothing is changed on the way. -/
  unchanged : ∀ source c c', decode? source = some c → ofTextBy decode? source = .ok c' → c' = c
  /-- Otherwise the first blank entry is quoted, and no stage is to blame. -/
  refused : ∀ source c, decode? source = some c → (¬∀ entry ∈ c.tableTypes, HasContent entry) →
    ∃ entry e, FirstBlank c.tableTypes entry ∧ ofTextBy decode? source = .error e ∧
      e = .invalid (blankReason entry) ∧ (ReadingError.config e).stage? = none ∧
      (ReadingError.config e).message? = some ("Configuration error: " ++
        ("table_types contains a blank entry: " ++ Text.escaped entry))
  /-- Two refused documents get the same message if their first blank entries are
      the same text, and only then. -/
  told_apart : ∀ source source' c c' entry entry' e e',
    decode? source = some c → decode? source' = some c' →
    FirstBlank c.tableTypes entry → FirstBlank c'.tableTypes entry' →
    ofTextBy decode? source = .error e → ofTextBy decode? source' = .error e' →
    (e.message? = e'.message? ↔ entry = entry')
  /-- A file is read as the text that its bytes are. -/
  loaded : ∀ text : String, loadBy decode? (some text.toUTF8) = ofTextBy decode? text
  /-- Bytes that are those of no text are not read. -/
  not_loaded : ∀ bytes : ByteArray, (∀ text : String, text.toUTF8 ≠ bytes) →
    loadBy decode? (some bytes) = .error .unreadable
  /-- A session shows and publishes no blank table type, however it is used. -/
  never_shown : ∀ cfg, Obtained decode? cfg → ∀ (sources : List Source) (xs : List Step) snap,
    let s : Session := { config := cfg, sources := sources }
    ((∃ a ∈ (s.run xs).1, snap ∈ a.snapshots) ∨ (s.run xs).2.published = some snap) →
      ∀ entry ∈ snap.contents.tableTypes, HasContent entry
  /-- Nor does it while callers and readers are at different points of what they
      do. -/
  never_shown_meanwhile : ∀ cfg, Obtained decode? cfg →
    ∀ (sources : List Source) (xs : List Step) (callers : List Nat) (ls : List Interleaving.Label) t,
    let s : Session := { config := cfg, sources := sources }
    Interleaving.run? (Interleaving.start (s.run xs).2 callers) ls = some t →
      ∀ snap, (snap ∈ successes (t.finished.map (·.2)) ∨ some snap ∈ t.looks ∨
          t.session.published = some snap) →
        ∀ entry ∈ snap.contents.tableTypes, HasContent entry

/-- **Blank table types.** A configuration document with a blank table type is
    refused, with a message from which its first blank entry can be told. So a
    session that is configured by a document or by default never shows a snapshot
    with a blank table type. All of this holds whatever decodes the documents. -/
theorem blank_table_types_refused :
    (∀ decode?, RefusesBlankTypes decode?) ∧
      ofText = ofTextBy Config.decode? ∧ load = loadBy Config.decode? := by
  refine ⟨?_, rfl, rfl⟩
  intro decode?
  constructor
  case accepted_iff =>
    intro source c hc
    rw [ofTextBy_of_decoded hc, check_eq_ok_iff]
    exact and_iff_right rfl
  case unchanged =>
    intro source c c' hc hok
    rw [ofTextBy_of_decoded hc] at hok
    exact (check_eq_ok_iff.mp hok).1
  case refused =>
    intro source c hc hblank
    obtain ⟨entry, hentry⟩ := exists_firstBlank hblank
    refine ⟨entry, _, hentry, ?_, rfl, rfl, message?_blankReason entry⟩
    rw [ofTextBy_of_decoded hc, check_of_firstBlank hentry]
  case told_apart =>
    intro source source' c c' entry entry' e e' hc hc' hentry hentry' he he'
    rw [ofTextBy_of_decoded hc, check_of_firstBlank hentry] at he
    rw [ofTextBy_of_decoded hc', check_of_firstBlank hentry'] at he'
    cases he
    cases he'
    exact message?_blankReason_inj
  case loaded => exact fun _ => loadBy_toUTF8
  case not_loaded => exact fun _ => loadBy_of_not_text
  case never_shown =>
    intro cfg hcfg sources xs snap s h
    rw [Session.tableTypes_of_shown rfl h]
    exact hcfg.hasContent
  case never_shown_meanwhile =>
    intro cfg hcfg sources xs callers ls t s hrun snap h
    have hconfig : (s.run xs).2.config = cfg := (Session.advance_run s xs).config_eq
    have hbefore : ∀ snap, (s.run xs).2.published = some snap →
        snap.contents.tableTypes = (s.run xs).2.config.tableTypes := by
      intro snap hsnap
      rw [Session.tableTypes_of_shown rfl (.inr hsnap), hconfig]
    have htypes : snap.contents.tableTypes = cfg.tableTypes := by
      rw [← hconfig]
      rcases h with hfinished | hlook | hpublished
      · exact Interleaving.tableTypes_of_finished hrun hbefore (.inl hfinished)
      · exact Interleaving.tableTypes_of_looks hrun hbefore hlook
      · exact Interleaving.tableTypes_of_finished hrun hbefore (.inr hpublished)
    rw [htypes]
    exact hcfg.hasContent

/-- The first blank entry is quoted, white space other than the plain space by
    escapes; the entries after it do not matter. -/
example :
    ofText "table_types = ['TABLE', \"\\t \\u00A0\", '']" =
      .error (.invalid "table_types contains a blank entry: \"\\t \\u\x7ba0\x7d\"") := by
  decide +kernel

end Config

end Schemata
