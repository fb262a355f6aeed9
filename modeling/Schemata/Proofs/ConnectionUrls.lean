import Schemata.Dialect

/-! # Connection URLs

    A connection URL tells its dialect by the text that it starts with. The
    table of these texts is searched in two directions: from a URL to the
    dialect of the first entry that fits (`ofUrl?`), and from a dialect to the
    text of its first entry (`urlStart?`).

    No text in the table starts another one; such a table is **exclusive**. So
    a URL fits one entry at most, being found first is the same as being in the
    table (`UrlTable.Exclusive.match?_eq_some_iff`), and the order of the
    entries does not matter (`UrlTable.Exclusive.match?_eq_of_perm`). The table
    has one entry for each of its dialects, so that the two searches are inverse
    to each other. -/

namespace Schemata.Dialect

variable {table table' : UrlTable} {url start : String} {d : Dialect}

theorem urlStarts_iff : urlStarts url start = true ↔ start.toList <+: url.toList :=
  List.isPrefixOf_iff_prefix

/-! ### Exclusive tables -/

namespace UrlTable

/-- No entry of the table starts like another one. -/
def Exclusive (table : UrlTable) : Prop :=
  ∀ e ∈ table, ∀ e' ∈ table, e.1.toList <+: e'.1.toList → e = e'

/-- A URL has one entry of such a table at most: of two starts of one text, one
    starts the other. -/
theorem Exclusive.eq_of_prefix (h : table.Exclusive) {e e' : String × Dialect}
    (he : e ∈ table) (he' : e' ∈ table) (hstart : e.1.toList <+: url.toList)
    (hstart' : e'.1.toList <+: url.toList) : e = e' := by
  rcases List.prefix_or_prefix_of_prefix hstart hstart' with hprefix | hprefix
  · exact h e he e' he' hprefix
  · exact (h e' he' e he hprefix).symm

/-- Where one entry fits at most, the first one that fits is any one that fits. -/
theorem find?_eq_some_iff {fits : String × Dialect → Bool} {e : String × Dialect}
    (h : ∀ e ∈ table, ∀ e' ∈ table, fits e = true → fits e' = true → e = e') :
    table.find? fits = some e ↔ e ∈ table ∧ fits e = true := by
  constructor
  · intro hfind
    exact ⟨List.mem_of_find?_eq_some hfind, List.find?_some hfind⟩
  · rintro ⟨he, hfits⟩
    have hsome : (table.find? fits).isSome := by
      rw [List.find?_isSome]
      exact ⟨e, he, hfits⟩
    obtain ⟨e', hfind⟩ := Option.isSome_iff_exists.mp hsome
    rw [hfind, h e' (List.mem_of_find?_eq_some hfind) e he (List.find?_some hfind) hfits]

/-- So the first entry that a URL starts with is the only one. -/
theorem Exclusive.match?_eq_some_iff (h : table.Exclusive) :
    table.match? url = some d ↔ ∃ e ∈ table, e.2 = d ∧ e.1.toList <+: url.toList := by
  have honly : ∀ e ∈ table, ∀ e' ∈ table, urlStarts url e.1 = true → urlStarts url e'.1 = true →
      e = e' :=
    fun e he e' he' hstart hstart' =>
      h.eq_of_prefix he he' (urlStarts_iff.mp hstart) (urlStarts_iff.mp hstart')
  unfold match?
  simp only [Option.map_eq_some_iff, find?_eq_some_iff honly, urlStarts_iff]
  constructor
  · rintro ⟨e, ⟨he, hstart⟩, hd⟩
    exact ⟨e, he, hd, hstart⟩
  · rintro ⟨e, he, hd, hstart⟩
    exact ⟨e, ⟨he, hstart⟩, hd⟩

theorem match?_eq_none_iff :
    table.match? url = none ↔ ∀ e ∈ table, ¬e.1.toList <+: url.toList := by
  unfold match?
  simp only [Option.map_eq_none_iff, List.find?_eq_none, urlStarts_iff]

/-- Without a repeated entry, at most one position of such a table fits a URL. -/
theorem Exclusive.countP_le_one (h : table.Exclusive) (hnodup : table.Nodup) (url : String) :
    (table.countP fun e => e.1.toList <+: url.toList) ≤ 1 := by
  rw [List.countP_eq_length_filter]
  have hfits : ∀ e ∈ table.filter fun e => e.1.toList <+: url.toList,
      e ∈ table ∧ e.1.toList <+: url.toList := by
    intro e he
    simpa using he
  have hnodup' : (table.filter fun e => e.1.toList <+: url.toList).Nodup := hnodup.filter _
  generalize table.filter (fun e => e.1.toList <+: url.toList) = fitting at hfits hnodup'
  match fitting with
  | [] => exact Nat.zero_le 1
  | [_] => exact Nat.le_refl 1
  | e :: e' :: es =>
    have hnot : e ∉ e' :: es := (List.nodup_cons.mp hnodup').1
    obtain ⟨he, hstart⟩ := hfits e List.mem_cons_self
    obtain ⟨he', hstart'⟩ := hfits e' (List.mem_cons_of_mem e List.mem_cons_self)
    have heq : e = e' := h.eq_of_prefix he he' hstart hstart'
    exact absurd (heq ▸ List.mem_cons_self) hnot

theorem Exclusive.of_perm (h : table.Exclusive) (hperm : table'.Perm table) : table'.Exclusive :=
  fun e he e' he' => h e (hperm.mem_iff.mp he) e' (hperm.mem_iff.mp he')

/-- In whichever order an exclusive table is searched, the same entry is
    found. -/
theorem Exclusive.match?_eq_of_perm (h : table.Exclusive) (hperm : table'.Perm table)
    (url : String) : table'.match? url = table.match? url := by
  apply Option.ext
  intro d
  rw [(h.of_perm hperm).match?_eq_some_iff, h.match?_eq_some_iff]
  simp only [hperm.mem_iff]

end UrlTable

/-! ### The table -/

theorem exclusive_urlTable : urlTable.Exclusive := by
  unfold UrlTable.Exclusive
  decide

theorem ofUrl?_eq_some_iff :
    ofUrl? url = some d ↔ ∃ e ∈ urlTable, e.2 = d ∧ e.1.toList <+: url.toList := by
  rw [ofUrl?, exclusive_urlTable.match?_eq_some_iff]

theorem ofUrl?_eq_none_iff :
    ofUrl? url = none ↔ ∀ e ∈ urlTable, ¬e.1.toList <+: url.toList := by
  rw [ofUrl?, UrlTable.match?_eq_none_iff]

theorem nodup_urlTable : urlTable.Nodup := by
  decide

/-- The table has one entry for each of its dialects. -/
theorem eq_of_urlTable_snd : ∀ e ∈ urlTable, ∀ e' ∈ urlTable, e'.2 = e.2 → e' = e := by
  decide

/-- No URL tells SQLite, or that nothing is known. -/
theorem urlTable_snd_ne : ∀ e ∈ urlTable, e.2 ≠ sqlite ∧ e.2 ≠ generic := by
  decide

/-- The text of a dialect is that of its one entry. -/
theorem urlStart?_eq_some_iff : d.urlStart? = some start ↔ (start, d) ∈ urlTable := by
  have honly : ∀ e ∈ urlTable, ∀ e' ∈ urlTable, decide (e.2 = d) = true →
      decide (e'.2 = d) = true → e = e' := by
    intro e he e' he' hd hd'
    rw [decide_eq_true_eq] at hd hd'
    exact eq_of_urlTable_snd e' he' e he (hd.trans hd'.symm)
  unfold urlStart?
  simp only [Option.map_eq_some_iff, UrlTable.find?_eq_some_iff honly, decide_eq_true_eq]
  constructor
  · rintro ⟨e, ⟨he, rfl⟩, rfl⟩
    exact he
  · intro hmem
    exact ⟨_, ⟨hmem, rfl⟩, rfl⟩

/-- **Connection URLs.** A URL tells a dialect exactly if the dialect has a text
    for its URLs and the URL starts with it, letter by letter. At most one entry
    of the table fits a URL, so that searching the table in another order gives
    the same dialect for every URL; and a URL tells no dialect exactly if no
    entry fits it. -/
theorem url_tells_by_its_start :
    (∀ (url : String) (d : Dialect), ofUrl? url = some d ↔
      ∃ start, d.urlStart? = some start ∧ start.toList <+: url.toList) ∧
    (∀ url : String, (urlTable.countP fun e => e.1.toList <+: url.toList) ≤ 1) ∧
    (∀ table : UrlTable, table.Perm urlTable → ∀ url, table.match? url = ofUrl? url) ∧
    ∀ url, ofUrl? url = none ↔ ∀ e ∈ urlTable, ¬e.1.toList <+: url.toList := by
  refine ⟨?_, ?_, ?_, fun url => ofUrl?_eq_none_iff⟩
  · intro url d
    rw [ofUrl?_eq_some_iff]
    simp only [urlStart?_eq_some_iff]
    constructor
    · rintro ⟨e, he, rfl, hstart⟩
      exact ⟨e.1, he, hstart⟩
    · rintro ⟨start, hmem, hstart⟩
      exact ⟨_, hmem, rfl, hstart⟩
  · exact exclusive_urlTable.countP_le_one nodup_urlTable
  · intro table hperm url
    exact exclusive_urlTable.match?_eq_of_perm hperm url

/-- Searched from its end, the table tells H2 as well. -/
theorem reversed_table_tells_h2 :
    List.Perm urlTable.reverse urlTable ∧
      UrlTable.match? urlTable.reverse "jdbc:h2:mem:test" = ofUrl? "jdbc:h2:mem:test" ∧
      ofUrl? "jdbc:h2:mem:test" = some h2 := by
  have hperm : List.Perm urlTable.reverse urlTable := List.reverse_perm urlTable
  obtain ⟨htells, _, horder, _⟩ := url_tells_by_its_start
  have hstarts : "jdbc:h2:".toList <+: "jdbc:h2:mem:test".toList := by decide
  exact ⟨hperm, horder _ hperm _, (htells _ _).mpr ⟨"jdbc:h2:", by decide, hstarts⟩⟩

end Schemata.Dialect
