import Schemata.Proofs.CaselessSearch
import Schemata.Proofs.ConnectionUrls
import Schemata.Proofs.Stages

/-! # Detection

    Two things are told in this stage.

    - The **dialect** is told by the product name and the URL alone. The word
      for SQLite is steady, so that it is found in the lower-case form of a
      product name exactly if the name spells it in ASCII letters
      (`namesSqlite_iff`). Of the URL only the entry of the table counts that
      it starts with (`Dialect.ofUrl?_eq_some_iff`).
    - **MySQL mode** is told by the first cell of one reply. A mode that was set
      leaves nothing behind of the one set before (`foldl_withMysqlMode`). -/

namespace Schemata

/-! ### The dialect of a product -/

-- The lemmas on connection URLs say what there is to know of the table.
attribute [local irreducible] Dialect.urlTable

namespace Facts

/-- Six neighbouring characters of the product name are the letters of `sqlite`, each
    of them the small ASCII letter or its capital. -/
def SpellsSqlite (product : String) : Prop := Text.Spells "sqlite".toList product.toList

theorem steady_sqliteWord : Text.Steady sqliteWord.toList where
  letters := by simp [sqliteWord]
  last := by decide

variable {product : String}

/-- The word is found in the lower-case form of a product name exactly if the name
    spells it. -/
theorem namesSqlite_iff : namesSqlite product = true ↔ SpellsSqlite product :=
  steady_sqliteWord.contains_lower_iff (by decide) product

-- In lower case the capital I with dot above is an `i` and a combining dot.
example : namesSqlite "SQL\u0130TE" = false := by decide +kernel

theorem classifyDialect_of_spells (h : SpellsSqlite product) (url : Option String) :
    classifyDialect product url = .sqlite := by
  rw [classifyDialect, if_pos (namesSqlite_iff.mpr h)]

theorem classifyDialect_of_not_spells (h : ¬SpellsSqlite product) (url : Option String) :
    classifyDialect product url = (url.bind Dialect.ofUrl?).getD .generic := by
  rw [classifyDialect, if_neg fun hnames => h (namesSqlite_iff.mp hnames)]

/-- The dialect of an entry is told by the URLs that start like it. -/
theorem getD_ofUrl?_eq_iff {e : String × Dialect} (he : e ∈ Dialect.urlTable)
    (url : Option String) : (url.bind Dialect.ofUrl?).getD .generic = e.2 ↔
      ∃ u, url = some u ∧ e.1.toList <+: u.toList := by
  have hgeneric : e.2 ≠ .generic := (Dialect.urlTable_snd_ne e he).2
  have hgetD : (url.bind Dialect.ofUrl?).getD .generic = e.2 ↔
      url.bind Dialect.ofUrl? = some e.2 := by
    cases url.bind Dialect.ofUrl? with
    | none => simpa using hgeneric.symm
    | some d => simp
  rw [hgetD, Option.bind_eq_some_iff]
  constructor
  · rintro ⟨u, hu, htells⟩
    obtain ⟨e', he', hd, hstart⟩ := Dialect.ofUrl?_eq_some_iff.mp htells
    rw [Dialect.eq_of_urlTable_snd e he e' he' hd] at hstart
    exact ⟨u, hu, hstart⟩
  · rintro ⟨u, hu, hstart⟩
    exact ⟨u, hu, Dialect.ofUrl?_eq_some_iff.mpr ⟨e, he, rfl, hstart⟩⟩

/-- Nothing is known of the URLs that start like no entry. -/
theorem getD_ofUrl?_eq_generic_iff (url : Option String) :
    (url.bind Dialect.ofUrl?).getD .generic = .generic ↔
      ∀ u, url = some u → ∀ e ∈ Dialect.urlTable, ¬e.1.toList <+: u.toList := by
  constructor
  · rintro hgeneric u rfl e he hstart
    have htells : (Option.bind (some u) Dialect.ofUrl?).getD .generic = e.2 :=
      (getD_ofUrl?_eq_iff he (some u)).mpr ⟨u, rfl, hstart⟩
    exact (Dialect.urlTable_snd_ne e he).2 (htells.symm.trans hgeneric)
  · intro hnone
    have hbind : url.bind Dialect.ofUrl? = none := by
      rw [Option.bind_eq_none_iff]
      intro u hu
      exact Dialect.ofUrl?_eq_none_iff.mpr (hnone u hu)
    rw [hbind]
    rfl

/-- A URL alone does not tell SQLite. -/
theorem getD_ofUrl?_ne_sqlite (url : Option String) :
    (url.bind Dialect.ofUrl?).getD .generic ≠ .sqlite := by
  cases htells : url.bind Dialect.ofUrl? with
  | none => decide
  | some d =>
    obtain ⟨u, -, hu⟩ := Option.bind_eq_some_iff.mp htells
    obtain ⟨e, he, rfl, -⟩ := Dialect.ofUrl?_eq_some_iff.mp hu
    exact (Dialect.urlTable_snd_ne e he).1

/-- **Classification.** A product is SQLite exactly if its name spells `sqlite` in
    ASCII letters of either case, whatever the URL is. Any other product has the
    dialect of the entry that its URL starts with, and is generic exactly if there
    is no URL or no such entry. -/
theorem dialect_told_by_name_or_url (product : String) (url : Option String) :
    ((classify product url).dialect = .sqlite ↔ SpellsSqlite product) ∧
      (∀ e ∈ Dialect.urlTable, (classify product url).dialect = e.2 ↔
        ¬SpellsSqlite product ∧ ∃ u, url = some u ∧ e.1.toList <+: u.toList) ∧
      ((classify product url).dialect = .generic ↔
        ¬SpellsSqlite product ∧
          ∀ u, url = some u → ∀ e ∈ Dialect.urlTable, ¬e.1.toList <+: u.toList) ∧
      (SpellsSqlite product → ∀ url', (classify product url').dialect = .sqlite) := by
  simp only [dialect_classify]
  by_cases hspells : SpellsSqlite product
  · have hd : ∀ url', classifyDialect product url' = .sqlite := classifyDialect_of_spells hspells
    rw [hd url]
    refine ⟨iff_of_true rfl hspells, ?_, ?_, fun _ => hd⟩
    · intro e he
      exact iff_of_false (Dialect.urlTable_snd_ne e he).1.symm fun h => h.1 hspells
    · exact iff_of_false (by decide) fun h => h.1 hspells
  · rw [classifyDialect_of_not_spells hspells url]
    refine ⟨iff_of_false (getD_ofUrl?_ne_sqlite url) hspells, ?_, ?_, ?_⟩
    · intro e he
      rw [and_iff_right hspells]
      exact getD_ofUrl?_eq_iff he url
    · rw [and_iff_right hspells]
      exact getD_ofUrl?_eq_generic_iff url
    · exact fun h => absurd h hspells

end Facts

/-! ### MySQL mode -/

/-- The reply is evidence if its first cell is the name of the mode, and only then;
    the labels, the other cells and the other rows are any. -/
theorem reportsMysqlMode_iff {r : Reply} : reportsMysqlMode r = true ↔
    ∃ columns cells rows, r = .ok ⟨columns, (.text mysqlModeName :: cells) :: rows⟩ := by
  constructor
  · intro h
    match r with
    | .error _ => exact nomatch h
    | .ok ⟨_, []⟩ => exact nomatch h
    | .ok ⟨_, [] :: _⟩ => exact nomatch h
    | .ok ⟨columns, (cell :: cells) :: rows⟩ =>
      have htext : cell.text? = some mysqlModeName := by
        simpa [reportsMysqlMode, Row.text?] using h
      rw [Cell.text?_eq_some_iff.mp htext]
      exact ⟨columns, cells, rows, rfl⟩
  · rintro ⟨columns, cells, rows, rfl⟩
    simp [reportsMysqlMode, Row.text?]

namespace Facts

/-- A mode that is set takes the place of the one before. -/
theorem withMysqlMode_withMysqlMode (f : Facts) (on on' : Bool) :
    (f.withMysqlMode on).withMysqlMode on' = f.withMysqlMode on' := rfl

/-- Of several modes set in turn the last one counts. -/
theorem foldl_withMysqlMode (f : Facts) (modes : List Bool) (on : Bool) :
    (modes ++ [on]).foldl withMysqlMode f = f.withMysqlMode on := by
  induction modes generalizing f with
  | nil => rfl
  | cons mode modes ih => rw [List.cons_append, List.foldl_cons, ih, withMysqlMode_withMysqlMode]

end Facts

-- How a product is classified plays no part from here on.
attribute [local irreducible] Facts.classify

namespace Source

/-- **Evidence.** Detection always comes to facts, and these are what product and
    URL tell, but for the mode. It asks H2 for its mode if it is to probe, and
    nothing else. The mode is MySQL exactly if this was asked and the first cell of
    the reply is the name of the mode. A mode that is set later replaces it, on H2
    alone. -/
theorem mode_set_on_evidence (s : Source) (probe : Bool) :
    let p := s.profile
    let f := (s.hold (detect p probe)).1
    f = { Facts.classify p.product p.url with mysqlMode := f.mysqlMode } ∧
      s.asked (detect p probe) =
        (if f.dialect = .h2 ∧ probe = true then [.query modeQuery] else []) ∧
      (f.mysqlMode = true ↔ f.dialect = .h2 ∧ probe = true ∧ ∃ columns cells rows,
        s.reply (.query modeQuery) = .ok ⟨columns, (.text "MYSQL" :: cells) :: rows⟩) ∧
      ∀ (g : Facts) (modes : List Bool) (on : Bool),
        (modes ++ [on]).foldl Facts.withMysqlMode g =
          { g with mysqlMode := on && decide (g.dialect = .h2) } := by
  intro p f
  have hf : f = (Facts.classify p.product p.url).withMysqlMode
      (probe && reportsMysqlMode (s.reply (.query modeQuery))) := s.hold_detect p probe
  have hdialect : f.dialect = p.dialect := by
    rw [hf]
    rfl
  have hmode : f.mysqlMode = (probe && reportsMysqlMode (s.reply (.query modeQuery)) &&
      decide (p.dialect = .h2)) := by
    rw [hf]
    rfl
  refine ⟨?_, ?_, ?_, ?_⟩
  · rw [hmode, hf]
    rfl
  · rw [asked_detect, hdialect]
    rfl
  · rw [hdialect, hmode, Bool.and_eq_true, Bool.and_eq_true, reportsMysqlMode_iff,
      decide_eq_true_eq, and_comm]
    rfl
  · intro g modes on
    exact g.foldl_withMysqlMode modes on

end Source

end Schemata
