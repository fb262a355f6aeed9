import Schemata.Proofs.CaselessSearch
import Schemata.Proofs.Delimiting
import Schemata.Proofs.Stages

/-! # Folded names

    The upper-case mapping can turn one character into three, and move others
    far away. But a character to which it leads stays where it is: the mapping
    is **settled**, so that folding a text again changes nothing
    (`Text.upper_upper`). Of the table this takes one fact, that no code point
    is both moved and reached (`Text.disjoint_upperMapping`).

    Off plain H2 identifiers are folded. So a quoted name is quoted the same
    way again, and what an upper-case user name finds among the schemas of
    Derby is quoted as it is named. Plain H2 delimits, which never comes to an
    end: a delimited identifier becomes longer each time. -/

namespace Schemata

namespace Text

/-! ### Settled mappings -/

section Bits

variable {ns ms : List Nat} {n : Nat}

/-- The numbers as the bits of one number. With it two sets can be compared in
    one operation, however many members they have. -/
def bits (ns : List Nat) : Nat := ns.foldr (fun n b => 1 <<< n ||| b) 0

theorem testBit_bits (ns : List Nat) (n : Nat) : (bits ns).testBit n = decide (n ∈ ns) := by
  induction ns with
  | nil => simp [bits]
  | cons k ns ih =>
    have hcons : bits (k :: ns) = 1 <<< k ||| bits ns := rfl
    rw [hcons, Nat.testBit_or, Nat.one_shiftLeft, Nat.testBit_two_pow, ih]
    simp [eq_comm]

theorem not_mem_of_bits (h : bits ns &&& bits ms = 0) (hn : n ∈ ms) : n ∉ ns := by
  have hbit : (bits ns &&& bits ms).testBit n = false := by
    rw [h, Nat.zero_testBit]
  rw [Nat.testBit_and, testBit_bits, testBit_bits] at hbit
  simpa [hn] using hbit

end Bits

/-- The code points of a run. -/
def CaseRun.points (r : CaseRun) : List Nat :=
  List.range' r.first ((r.last - r.first) / r.step + 1) r.step

theorem CaseRun.mem_points_of_covers {r : CaseRun} {n : Nat} (h : r.covers n = true) :
    n ∈ r.points := by
  simp only [covers, Bool.and_eq_true, decide_eq_true_eq, beq_iff_eq] at h
  obtain ⟨⟨hfirst, hlast⟩, hstep⟩ := h
  have hsteps : r.step * ((n - r.first) / r.step) = n - r.first :=
    Nat.mul_div_cancel' (Nat.dvd_of_mod_eq_zero hstep)
  have hle : (n - r.first) / r.step ≤ (r.last - r.first) / r.step :=
    Nat.div_le_div_right (by omega)
  rw [points, List.mem_range']
  exact ⟨(n - r.first) / r.step, by omega, by omega⟩

namespace CaseMapping

variable {m : CaseMapping} {n i : Nat} {c d : Char} {cs : List Char}

/-- The code points that the mapping moves or expands. -/
def moved (m : CaseMapping) : List Nat := m.expansions.map (·.1) ++ m.runs.flatMap (·.points)

/-- The code points to which the mapping leads from others. -/
def reached (m : CaseMapping) : List Nat :=
  m.expansions.flatMap (·.2) ++ m.runs.flatMap fun r => r.points.map r.apply

theorem codes_of_not_mem_moved (h : n ∉ m.moved) : m.codes n = [n] := by
  simp only [moved, List.mem_append, List.mem_map, List.mem_flatMap, not_or, not_exists] at h
  obtain ⟨hexpansions, hruns⟩ := h
  have hlookup : m.expansions.lookup n = none := by
    rw [List.lookup_eq_none_iff]
    intro e he
    have hne : e.1 ≠ n := fun hn => hexpansions e ⟨he, hn⟩
    simpa using hne.symm
  have hfind : m.runs.find? (·.covers n) = none := by
    rw [List.find?_eq_none]
    exact fun r hr hcovers => hruns r ⟨hr, CaseRun.mem_points_of_covers hcovers⟩
  rw [codes, hlookup, hfind]
  rfl

/-- A code point stays, or all of its image is reached. -/
theorem codes_eq_or_reached (m : CaseMapping) (n : Nat) :
    m.codes n = [n] ∨ ∀ i ∈ m.codes n, i ∈ m.reached := by
  unfold codes reached
  cases hlookup : m.expansions.lookup n with
  | some ns =>
    right
    obtain ⟨before, after, hsplit, _⟩ := List.lookup_eq_some_iff.mp hlookup
    intro i hi
    rw [hsplit]
    simp [hi]
  | none =>
    cases hfind : m.runs.find? (·.covers n) with
    | none => exact .inl rfl
    | some r =>
      right
      have hcovers := List.find?_some hfind
      have hr : r ∈ m.runs := List.mem_of_find?_eq_some hfind
      intro i hi
      rw [List.mem_singleton.mp hi]
      apply List.mem_append_right
      rw [List.mem_flatMap]
      exact ⟨r, hr, List.mem_map_of_mem (CaseRun.mem_points_of_covers hcovers)⟩

/-- The mapping leads to code points that it leaves where they are. NUL stays
    as well, which stands in for code points that no character has. -/
structure Settled (m : CaseMapping) : Prop where
  codes_eq : ∀ n, ∀ i ∈ m.codes n, m.codes i = [i]
  codes_nul : m.codes 0 = [0]

theorem settled_of_disjoint (h : bits m.moved &&& bits m.reached = 0) (hnul : m.codes 0 = [0]) :
    m.Settled where
  codes_eq := by
    intro n i hi
    rcases m.codes_eq_or_reached n with hstays | hreached
    · rw [hstays, List.mem_singleton] at hi
      rw [hi, hstays]
    · exact codes_of_not_mem_moved (not_mem_of_bits h (hreached i hi))
  codes_nul := hnul

theorem char_of_codes (h : m.codes d.toNat = [d.toNat]) : m.char d = [d] := by
  rw [char, h, List.map_singleton, Char.ofNat_toNat]

theorem Settled.char_eq (h : m.Settled) (hd : d ∈ m.char c) : m.char d = [d] := by
  obtain ⟨i, hi, rfl⟩ := List.mem_map.mp hd
  apply char_of_codes
  rcases toNat_ofNat i with htoNat | htoNat
  · rw [htoNat]
    exact h.codes_eq c.toNat i hi
  · rw [htoNat]
    exact h.codes_nul

theorem text_eq_self (h : ∀ c ∈ cs, m.char c = [c]) : m.text cs = cs := by
  induction cs with
  | nil => rfl
  | cons c cs ih =>
    rw [text_cons, h c List.mem_cons_self, ih fun d hd => h d (List.mem_cons_of_mem c hd)]
    rfl

/-- Mapping a text again changes nothing. -/
theorem Settled.text_text (h : m.Settled) (cs : List Char) : m.text (m.text cs) = m.text cs := by
  apply text_eq_self
  intro d hd
  obtain ⟨c, _, hd⟩ := List.mem_flatMap.mp hd
  exact h.char_eq hd

end CaseMapping

/-! ### Upper case -/

/-- No code point is both moved and reached by the upper-case mapping. -/
theorem disjoint_upperMapping : bits upperMapping.moved &&& bits upperMapping.reached = 0 := by
  decide +kernel

theorem settled_upperMapping : upperMapping.Settled :=
  CaseMapping.settled_of_disjoint disjoint_upperMapping (by decide +kernel)

theorem upper_upper (s : String) : upper (upper s) = upper s := by
  rw [← String.toList_inj, toList_upper, toList_upper, settled_upperMapping.text_text]

end Text

-- From here on the tables are what `upper_upper` says of them, and a pass is what
-- `hold_pass` says of it.
attribute [local irreducible] Text.upper Facts.classify pass

/-! ### Quoting again -/

namespace Identifier

theorem length_le_length_doubled (cs : List Char) : cs.length ≤ (doubled cs).length := by
  induction cs with
  | nil => exact Nat.le_refl 0
  | cons c cs ih =>
    rw [doubled_cons, List.length_append, List.length_cons]
    split
    · simp only [List.length_cons, List.length_nil]
      omega
    · simp only [List.length_cons, List.length_nil]
      omega

theorem length_lt_length_delimited (s : String) : s.length < (delimited s).length := by
  have hdoubled := length_le_length_doubled s.toList
  rw [← String.length_toList, ← String.length_toList, toList_delimited]
  simp only [List.length_append, List.length_cons, List.length_nil]
  omega

end Identifier

/-- Off plain H2 a quoted identifier stays as it is. -/
theorem Facts.map_quote_map_quote {f : Facts} (h : ¬(f.dialect = .h2 ∧ f.mysqlMode = false))
    (identifier : Option String) :
    (identifier.map f.quote).map f.quote = identifier.map f.quote := by
  have hagain : Identifier.folded ∘ Identifier.folded = Identifier.folded := by
    funext s
    exact Text.upper_upper s
  rw [quote_of_not_plainH2 h, Option.map_map, hagain]

/-! ### Contents -/

namespace Contents.WellFormed

variable {p : Profile} {cfg : Config} {c : Contents} {r : SchemaRecord}

/-- Off plain H2 the quoted names are quoted as they are. -/
theorem map_quote_quotedName (h : c.WellFormed p cfg)
    (hplain : ¬(c.facts.dialect = .h2 ∧ c.facts.mysqlMode = false)) (hr : r ∈ c.catalog.schemas) :
    r.quotedName.map c.facts.quote = r.quotedName := by
  rw [h.quoted r hr, Facts.map_quote_map_quote hplain]

/-- A name that is in upper case already is its own quoted name. -/
theorem quotedName_of_upper (h : c.WellFormed p cfg)
    (hplain : ¬(c.facts.dialect = .h2 ∧ c.facts.mysqlMode = false)) (hr : r ∈ c.catalog.schemas)
    {s : String} (hname : r.name = .named (Text.upper s)) : r.quotedName = r.name.text? := by
  rw [h.quoted r hr, Facts.quote_of_not_plainH2 hplain, hname, SchemaName.text?_named,
    Option.map_some, Identifier.folded, Text.upper_upper]

end Contents.WellFormed

namespace Source

/-- On Derby the schema that the upper-case user name finds is the default. -/
theorem default?_of_derby {src : Source} {cfg : Config} {c : Contents}
    (h : (src.hold (pass src.profile cfg)).1 = .ok c) (hd : c.facts.dialect = .derby)
    {r : SchemaRecord} (hr : c.catalog.find? (Text.upper src.profile.user) = some r) :
    c.catalog.default? = some r := by
  rw [hold_pass] at h
  cases hnames : src.names cfg with
  | error e =>
    rw [hnames] at h
    cases h
  | ok names =>
    rw [hnames] at h
    cases h
    have hdialect : src.profile.dialect = .derby := by
      rwa [dialect_facts] at hd
    have hwanted : src.wanted cfg = .named (Text.upper src.profile.user) := by
      rw [wanted_of_not_listing src cfg (by rw [hdialect]; decide), hdialect]
      rfl
    rw [hwanted] at hr ⊢
    exact Catalog.default?_of_find?_mark hr

end Source

/-! ### The main result -/

/-- **Folding.** Folding a text again changes nothing. So, but for plain H2, what
    any facts write for an identifier they write for the result as well, and
    every quoted name in a snapshot that a session returns, shows or publishes is
    quoted as it is. On Derby a schema named like the user in upper case is quoted
    as it is named, and the first one of them is the default. On plain H2, in
    contrast, quoting a quoted identifier gives another one, which is longer. -/
theorem folded_names_are_stable :
    (∀ s, Identifier.folded (Identifier.folded s) = Identifier.folded s) ∧
    (∀ f : Facts, ¬(f.dialect = .h2 ∧ f.mysqlMode = false) → ∀ identifier : Option String,
      (identifier.map f.quote).map f.quote = identifier.map f.quote) ∧
    (∀ (cfg : Config) (sources : List Source) (xs : List Step) (snap : Snapshot),
      let s : Session := { config := cfg, sources := sources }
      ((∃ a ∈ (s.run xs).1, snap ∈ a.snapshots) ∨ (s.run xs).2.published = some snap) →
      ¬(snap.contents.facts.dialect = .h2 ∧ snap.contents.facts.mysqlMode = false) →
      ∀ r ∈ snap.contents.catalog.schemas,
        r.quotedName.map snap.contents.facts.quote = r.quotedName) ∧
    (∀ (src : Source) (cfg : Config) (c : Contents),
      (src.hold (pass src.profile cfg)).1 = .ok c → c.facts.dialect = .derby →
      (∀ r ∈ c.catalog.schemas, r.name = .named (Text.upper src.profile.user) →
        r.quotedName = r.name.text?) ∧
      ∀ r, c.catalog.find? (Text.upper src.profile.user) = some r →
        c.catalog.default? = some r) ∧
    ∀ f : Facts, f.dialect = .h2 → f.mysqlMode = false → ∀ s,
      f.quote (f.quote s) ≠ f.quote s ∧ (f.quote s).length < (f.quote (f.quote s)).length := by
  refine ⟨Text.upper_upper, fun f => Facts.map_quote_map_quote, ?_, ?_, ?_⟩
  · intro cfg sources xs snap s hshown hplain r hr
    rcases Session.reads_of_shown hshown with ⟨src, hread⟩ | hnone
    · exact (Session.wellFormed_of_reads hread).map_quote_quotedName hplain hr
    · cases hnone
  · intro src cfg c hpass hderby
    have hwellFormed := Source.wellFormed_hold_pass hpass
    have hplain : ¬(c.facts.dialect = .h2 ∧ c.facts.mysqlMode = false) := by
      simp [hderby]
    refine ⟨?_, fun r => Source.default?_of_derby hpass hderby⟩
    intro r hr hname
    exact hwellFormed.quotedName_of_upper hplain hr hname
  · intro f hdialect hmode s
    have hlonger : (f.quote s).length < (f.quote (f.quote s)).length := by
      rw [Facts.quote_of_plainH2 hdialect hmode]
      exact Identifier.length_lt_length_delimited _
    refine ⟨?_, hlonger⟩
    intro hsame
    rw [hsame] at hlonger
    exact Nat.lt_irrefl _ hlonger

/-- On Derby the user is named with a sharp s and with a ligature, both of which
    become more than one letter. Two schemas are named alike in upper case, and one
    of them is the user's. -/
theorem folded_names_of_expanding_user :
    let src := (Source.inMemory "Apache Derby").setAll
      [.url "jdbc:derby:memory:test", .user "ﬁß", .names ["app", "FISS", "fiss"]]
    let s : Session := { config := {}, sources := [src] }
    let mine : SchemaRecord := ⟨.named "FISS", some "FISS", true⟩
    let other : SchemaRecord := ⟨.named "fiss", some "FISS", false⟩
    let f := Facts.classify "Apache Derby" (some "jdbc:derby:memory:test")
    let h2 := Facts.classify "H2" (some "jdbc:h2:mem:test")
    let snap : Snapshot :=
      ⟨0, f, ⟨[⟨.named "app", some "APP", false⟩, mine, other]⟩, s.config.tableTypes⟩
    (s.run [.read 0]).2.published = some snap ∧ Text.upper src.profile.user = "FISS" ∧
      f.quote (f.quote "ﬁß") = f.quote "ﬁß" ∧ other.quotedName.map f.quote = other.quotedName ∧
      mine.quotedName = mine.name.text? ∧ snap.contents.catalog.default? = some mine ∧
      (h2.quote "ﬁß").length < (h2.quote (h2.quote "ﬁß")).length := by
  intro src s mine other f h2 snap
  have hpublished : (s.run [.read 0]).2.published = some snap := by decide +kernel
  have hpass : (src.hold (pass src.profile {})).1 = .ok snap.contents := by decide +kernel
  have hupper : Text.upper src.profile.user = "FISS" := by decide +kernel
  have hderby : f.dialect = .derby := by decide +kernel
  have hplain : ¬(f.dialect = .h2 ∧ f.mysqlMode = false) := by simp [hderby]
  obtain ⟨_, hquote, hshown, hmatched, hdelimited⟩ := folded_names_are_stable
  obtain ⟨hnamed, hfound⟩ := hmatched src {} snap.contents hpass hderby
  refine ⟨hpublished, hupper, ?_, ?_, ?_, ?_, ?_⟩
  · exact Option.some_inj.mp (hquote f hplain (some "ﬁß"))
  · exact hshown {} [src] [.read 0] snap (.inr hpublished) hplain other (by simp [snap])
  · exact hnamed mine (by simp [snap]) (by rw [hupper])
  · exact hfound mine (by rw [hupper]; decide +kernel)
  · exact (hdelimited h2 (by decide +kernel) (by decide +kernel) "ﬁß").2

end Schemata
