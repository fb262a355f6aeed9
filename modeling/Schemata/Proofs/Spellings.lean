import Schemata.Proofs.Fields

/-! # Spellings of records

    The fields of each kind of record, and what they accept. The readers of the
    format read fields, so that every spelling of a record means the same, and
    what is not a spelling of a record means nothing (`spellings_read_alike`). -/

namespace Schemata

variable {β : Type}

namespace Json

/-! ### Forms of plain values -/

/-- The form of a text. -/
def IsText (d : Json) (s : String) : Prop := d = str s

/-- The form of a text or of none. -/
def IsTextOrNull (d : Json) (s : Option String) : Prop := d = ofText? s

/-- The form of a truth value. -/
def IsFlag (d : Json) (b : Bool) : Prop := d = bool b

/-- The form of a position. -/
def IsPosition (d : Json) (n : UInt64) : Prop := d = int n.toNat

/-- The form of a series of texts. -/
def IsTexts (d : Json) (ss : List String) : Prop := d = arr (ss.map str)

theorem str?_eq_some_iff (d : Json) (s : String) : d.str? = some s ↔ d.IsText s := by
  cases d <;> simp [str?, IsText]

theorem strOrNull?_eq_some_iff (d : Json) (s : Option String) :
    d.strOrNull? = some s ↔ d.IsTextOrNull s := by
  cases s <;> cases d <;> simp [strOrNull?, IsTextOrNull, ofText?]

theorem bool?_eq_some_iff (d : Json) (b : Bool) : d.bool? = some b ↔ d.IsFlag b := by
  cases d <;> simp [bool?, IsFlag]

theorem intBetween?_eq_some_iff {lo hi n : Int} {d : Json} :
    d.intBetween? lo hi = some n ↔ d = int n ∧ lo ≤ n ∧ n ≤ hi := by
  cases d with
  | int m =>
    simp only [intBetween?, int?, Option.filter_eq_some_iff, Option.some_inj, int.injEq,
      Bool.and_eq_true, decide_eq_true_eq]
  | _ => simp [intBetween?, int?]

/-- Beyond 64 bits there is no position. -/
theorem uint64?_eq_some_iff (d : Json) (n : UInt64) : d.uint64? = some n ↔ d.IsPosition n := by
  constructor
  · intro h
    obtain ⟨k, hk, rfl⟩ := Option.map_eq_some_iff.mp h
    obtain ⟨rfl, hlo, hhi⟩ := intBetween?_eq_some_iff.mp hk
    have hlt : k.toNat < UInt64.size := by
      have hbound : k ≤ ((UInt64.size - 1 : Nat) : Int) := hhi
      have hsize : 0 < UInt64.size := by decide
      omega
    rw [IsPosition, UInt64.toNat_ofNat_of_lt' hlt, Int.toNat_of_nonneg hlo]
  · intro h
    rw [h, uint64?_int]

theorem mapM_eq_some_iff {item? : Json → Option β} {items : List Json} {bs : List β} :
    items.mapM item? = some bs ↔ List.Forall₂ (fun i b => item? i = some b) items bs := by
  induction items generalizing bs with
  | nil => cases bs <;> simp
  | cons i items ih => cases bs <;> simp [List.mapM_cons, Option.bind_eq_some_iff, ih]

/-- An array reads as a series if each of its items reads as the one at its place. -/
theorem list?_eq_some_iff {item? : Json → Option β} {d : Json} {bs : List β} :
    d.list? item? = some bs ↔
      ∃ items, d = arr items ∧ List.Forall₂ (fun i b => item? i = some b) items bs := by
  cases d <;> simp [list?, mapM_eq_some_iff]

theorem texts?_eq_some_iff (d : Json) (ss : List String) :
    d.list? str? = some ss ↔ d.IsTexts ss := by
  have hitems : ∀ items : List Json, List.Forall₂ (fun i s => i.str? = some s) items ss ↔
      items = ss.map str := by
    intro items
    rw [← List.forall₂_eq_eq_eq, List.forall₂_map_right_iff]
    simp only [str?_eq_some_iff, IsText]
  rw [list?_eq_some_iff, IsTexts]
  simp only [hitems, exists_eq_right]

theorem variant?_eq_some_iff {d : Json} {name : String} :
    d.variant? = some name ↔ d = str name ∨ d = obj [(name, null)] := by
  unfold variant?
  split <;> simp_all [eq_comm]

end Json

/-! ### The fields of each kind of record -/

/-- The forms of a dialect: its code, as a bare name or as an object. -/
def Dialect.IsForm (d : Json) (x : Dialect) : Prop :=
  d = .str x.code ∨ d = .obj [(x.code, .null)]

/-- The form of a schema name. -/
def SchemaName.IsForm (d : Json) (n : SchemaName) : Prop := d.IsTextOrNull n.text?

/-- The forms of a series of schema records, each one in any spelling of its own. -/
def SchemaRecord.AreForms (d : Json) (rs : List SchemaRecord) : Prop :=
  ∃ docs, d = .arr docs ∧ List.Forall₂ (fun doc r => ofJson? doc = some r) docs rs

def Column.fields : List (Json.Field Column) :=
  [.of "name" (.asDefault (.str "")) Json.IsText (·.name),
    .of "data_type" (.asDefault (.str "")) Json.IsText (·.dataType),
    .of "ordinal" (.asDefault (.int 0)) Json.IsPosition (·.ordinal)]

def Facts.fields : List (Json.Field Facts) :=
  [.of "dialect" .never Dialect.IsForm (·.dialect),
    .of "mysql_mode" .never Json.IsFlag (·.mysqlMode),
    .of "product_name" .never Json.IsText (·.product),
    .of "url" .asNull Json.IsTextOrNull (·.url)]

def SchemaRecord.fields : List (Json.Field SchemaRecord) :=
  [.of "name" .asNull SchemaName.IsForm (·.name),
    .of "quoted_name" .asNull Json.IsTextOrNull (·.quotedName),
    .of "is_default" .never Json.IsFlag (·.isDefault)]

def Catalog.fields : List (Json.Field Catalog) :=
  [.of "schemas" .never SchemaRecord.AreForms (·.schemas)]

def Config.fields : List (Json.Field Config) :=
  [.of "probe_compatibility_mode" (.asDefault (.bool ({} : Config).probeMode)) Json.IsFlag
      (·.probeMode),
    .of "table_types" (.asDefault (.arr (({} : Config).tableTypes.map .str))) Json.IsTexts
      (·.tableTypes)]

theorem Dialect.ofCode?_eq_some_iff {code : String} {x : Dialect} :
    ofCode? code = some x ↔ code = x.code := by
  constructor
  · intro h
    simpa [eq_comm] using List.find?_some h
  · rintro rfl
    exact ofCode?_code x

theorem Dialect.ofJson?_eq_some_iff (d : Json) (x : Dialect) :
    ofJson? d = some x ↔ IsForm d x := by
  rw [ofJson?, Option.bind_eq_some_iff]
  simp only [ofCode?_eq_some_iff, exists_eq_right, Json.variant?_eq_some_iff, IsForm]

theorem SchemaName.ofJson?_eq_some_iff (d : Json) (n : SchemaName) :
    ofJson? d = some n ↔ IsForm d n := by
  rw [ofJson?, Option.map_eq_some_iff]
  constructor
  · rintro ⟨s, hs, rfl⟩
    rw [IsForm, text?_ofText?]
    exact (Json.strOrNull?_eq_some_iff d s).mp hs
  · intro h
    exact ⟨n.text?, (Json.strOrNull?_eq_some_iff d _).mpr h, ofText?_text? n⟩

theorem SchemaRecord.list?_eq_some_iff (d : Json) (rs : List SchemaRecord) :
    d.list? ofJson? = some rs ↔ AreForms d rs :=
  Json.list?_eq_some_iff

theorem Column.readsFields : Json.ReadsFields fields ofJson? := by
  refine Json.ReadsFields.of_slots ?_
  intro slots c hlength
  -- Only now that the slots are three does the reader get to them.
  obtain ⟨x, y, z, rfl⟩ := List.length_eq_three.mp hlength
  rw [fields, List.forall₂_cons, List.forall₂_cons, List.forall₂_cons,
    Json.readAs_withDefault_iff Json.str?_eq_some_iff (.str "") rfl,
    Json.readAs_withDefault_iff Json.str?_eq_some_iff (.str "") rfl,
    Json.readAs_withDefault_iff Json.uint64?_eq_some_iff (.int 0) rfl]
  simp only [Option.bind_eq_bind, Option.bind_eq_some_iff, Option.pure_def, Option.some_inj]
  constructor
  · rintro ⟨_, hx, _, hy, _, hz, rfl⟩
    exact ⟨hx, hy, hz, .nil⟩
  · rintro ⟨hx, hy, hz, -⟩
    exact ⟨_, hx, _, hy, _, hz, rfl⟩

theorem Facts.readsFields : Json.ReadsFields fields ofJson? := by
  refine Json.ReadsFields.of_slots ?_
  intro slots f hlength
  obtain ⟨w, x, y, z, rfl⟩ := List.length_eq_four.mp hlength
  rw [fields, List.forall₂_cons, List.forall₂_cons, List.forall₂_cons, List.forall₂_cons,
    Json.readAs_required_iff Dialect.ofJson?_eq_some_iff,
    Json.readAs_required_iff Json.bool?_eq_some_iff,
    Json.readAs_required_iff Json.str?_eq_some_iff,
    Json.readAs_nullable_iff Json.strOrNull?_eq_some_iff]
  simp only [Option.bind_eq_bind, Option.bind_eq_some_iff, Option.pure_def, Option.some_inj]
  constructor
  · rintro ⟨_, hw, _, hx, _, hy, _, hz, rfl⟩
    exact ⟨hw, hx, hy, hz, .nil⟩
  · rintro ⟨hw, hx, hy, hz, -⟩
    exact ⟨_, hw, _, hx, _, hy, _, hz, rfl⟩

theorem SchemaRecord.readsFields : Json.ReadsFields fields ofJson? := by
  refine Json.ReadsFields.of_slots ?_
  intro slots r hlength
  obtain ⟨x, y, z, rfl⟩ := List.length_eq_three.mp hlength
  rw [fields, List.forall₂_cons, List.forall₂_cons, List.forall₂_cons,
    Json.readAs_nullable_iff SchemaName.ofJson?_eq_some_iff,
    Json.readAs_nullable_iff Json.strOrNull?_eq_some_iff,
    Json.readAs_required_iff Json.bool?_eq_some_iff]
  simp only [Option.bind_eq_bind, Option.bind_eq_some_iff, Option.pure_def, Option.some_inj]
  constructor
  · rintro ⟨_, hx, _, hy, _, hz, rfl⟩
    exact ⟨hx, hy, hz, .nil⟩
  · rintro ⟨hx, hy, hz, -⟩
    exact ⟨_, hx, _, hy, _, hz, rfl⟩

theorem Catalog.readsFields : Json.ReadsFields fields ofJson? := by
  refine Json.ReadsFields.of_slots ?_
  intro slots c hlength
  obtain ⟨x, rfl⟩ := List.length_eq_one_iff.mp hlength
  rw [fields, List.forall₂_cons, Json.readAs_required_iff SchemaRecord.list?_eq_some_iff]
  simp only [Option.bind_eq_bind, Option.bind_eq_some_iff, Option.pure_def, Option.some_inj]
  constructor
  · rintro ⟨_, hx, rfl⟩
    exact ⟨hx, .nil⟩
  · rintro ⟨hx, -⟩
    exact ⟨_, hx, rfl⟩

theorem Config.readsFields : Json.ReadsFields fields ofJson? := by
  refine Json.ReadsFields.of_slots ?_
  intro slots c hlength
  obtain ⟨x, y, rfl⟩ := List.length_eq_two.mp hlength
  rw [fields, List.forall₂_cons, List.forall₂_cons,
    Json.readAs_withDefault_iff Json.bool?_eq_some_iff (.bool ({} : Config).probeMode) rfl,
    Json.readAs_withDefault_iff Json.texts?_eq_some_iff
      (.arr (({} : Config).tableTypes.map .str)) rfl]
  simp only [Option.bind_eq_bind, Option.bind_eq_some_iff, Option.pure_def, Option.some_inj]
  constructor
  · rintro ⟨_, hx, _, hy, rfl⟩
    exact ⟨hx, hy, .nil⟩
  · rintro ⟨hx, hy, -⟩
    exact ⟨_, hx, _, hy, rfl⟩

/-! ### What may be left out, and what is refused -/

/-- Any field of a column may be left out, but none may be null. -/
theorem Column.default_fields : ∀ f ∈ fields, f.Defaults {} := by
  simp [fields, Json.Field.of, Json.Field.Defaults, Json.Field.Accepts, Json.IsText,
    Json.IsPosition]

/-- Settings may be left out, but none may be null. -/
theorem Config.default_fields : ∀ f ∈ fields, f.Defaults {} := by
  simp [fields, Json.Field.of, Json.Field.Defaults, Json.Field.Accepts, Json.IsFlag, Json.IsTexts]

theorem Facts.strict_fields : ∀ f ∈ fields, f.IsStrict := by
  have hurl : ∃ f : Facts, Json.null.IsTextOrNull f.url := ⟨⟨.generic, false, "", none⟩, rfl⟩
  simp [fields, Json.Field.of, Json.Field.IsStrict, Json.Field.Accepts, Json.IsFlag, Json.IsText,
    Dialect.IsForm, hurl]

theorem SchemaRecord.strict_fields : ∀ f ∈ fields, f.IsStrict := by
  have hname : ∃ r : SchemaRecord, SchemaName.IsForm .null r.name := ⟨⟨.absent, none, false⟩, rfl⟩
  have hquoted : ∃ r : SchemaRecord, Json.null.IsTextOrNull r.quotedName :=
    ⟨⟨.absent, none, false⟩, rfl⟩
  simp [fields, Json.Field.of, Json.Field.IsStrict, Json.Field.Accepts, Json.IsFlag, hname, hquoted]

theorem Catalog.strict_fields : ∀ f ∈ fields, f.IsStrict := by
  simp [fields, Json.Field.of, Json.Field.IsStrict, Json.Field.Accepts, SchemaRecord.AreForms]

/-- No field of a column takes an integer that is no position. -/
theorem Column.not_accepts_of_out_of_range :
    ∀ f ∈ fields, ∀ n : Int, n < 0 ∨ UInt64.size ≤ n → ¬f.Accepts (.int n) := by
  have hrange : ∀ n : Int, n < 0 ∨ UInt64.size ≤ n → ∀ c : Column, n ≠ c.ordinal.toNat := by
    intro n hn c
    have hlt := c.ordinal.toNat_lt_size
    omega
  simpa [fields, Json.Field.of, Json.Field.Accepts, Json.IsText, Json.IsPosition] using hrange

/-- A document that is no schema record is none among others either. -/
theorem Catalog.not_accepts_of_mem :
    ∀ f ∈ fields, ∀ docs, ∀ doc ∈ docs, SchemaRecord.ofJson? doc = none →
      ¬f.Accepts (.arr docs) := by
  intro f hf docs doc hdoc hnone haccepts
  obtain rfl := List.mem_singleton.mp hf
  obtain ⟨c, docs', hdocs', hforms⟩ := haccepts
  cases hdocs'
  obtain ⟨i, hi, rfl⟩ := List.getElem_of_mem hdoc
  obtain ⟨hlength, hread⟩ := List.forall₂_iff_get.mp hforms
  have hsome : SchemaRecord.ofJson? docs[i] = some _ := hread i hi (hlength ▸ hi)
  rw [hnone] at hsome
  cases hsome

/-! ### The main result -/

theorem Column.spellingsAgree : Json.SpellingsAgree fields toJson ofJson? := by
  refine readsFields.spellingsAgree (by decide) fun c => ?_
  exact ⟨[.str c.name, .str c.dataType, .int c.ordinal.toNat], rfl,
    .cons rfl (.cons rfl (.cons rfl .nil))⟩

theorem Facts.spellingsAgree : Json.SpellingsAgree fields toJson ofJson? := by
  refine readsFields.spellingsAgree (by decide) fun f => ?_
  exact ⟨[f.dialect.toJson, .bool f.mysqlMode, .str f.product, .ofText? f.url], rfl,
    .cons (.inl rfl) (.cons rfl (.cons rfl (.cons rfl .nil)))⟩

theorem SchemaRecord.spellingsAgree : Json.SpellingsAgree fields toJson ofJson? := by
  refine readsFields.spellingsAgree (by decide) fun r => ?_
  exact ⟨[r.name.toJson, .ofText? r.quotedName, .bool r.isDefault], rfl,
    .cons rfl (.cons rfl (.cons rfl .nil))⟩

theorem Catalog.spellingsAgree : Json.SpellingsAgree fields toJson ofJson? := by
  refine readsFields.spellingsAgree (by decide) fun c => ?_
  have hforms : List.Forall₂ (fun doc r => SchemaRecord.ofJson? doc = some r)
      (c.schemas.map SchemaRecord.toJson) c.schemas := by
    rw [List.forall₂_map_left_iff, List.forall₂_same]
    exact fun r _ => SchemaRecord.ofJson?_toJson r
  exact ⟨[.arr (c.schemas.map SchemaRecord.toJson)], rfl, .cons ⟨_, rfl, hforms⟩ .nil⟩

theorem Config.spellingsAgree : Json.SpellingsAgree fields toJson ofJson? := by
  refine readsFields.spellingsAgree (by decide) fun c => ?_
  exact ⟨[.bool c.probeMode, .arr (c.tableTypes.map .str)], rfl, .cons rfl (.cons rfl .nil)⟩

/-- **Spellings.** For every kind of record, all accepted spellings of a record read
    as that record, and one bad field anywhere is enough for nothing to be read. The
    fields of columns and of configurations have defaults, for which null does not
    stand; those of other records have to be written, but that an object may leave
    out what can be null. A record that does not read spoils its catalog. -/
theorem spellings_read_alike :
    Json.SpellingsAgree Column.fields Column.toJson Column.ofJson? ∧
      Json.SpellingsAgree Facts.fields Facts.toJson Facts.ofJson? ∧
      Json.SpellingsAgree SchemaRecord.fields SchemaRecord.toJson SchemaRecord.ofJson? ∧
      Json.SpellingsAgree Catalog.fields Catalog.toJson Catalog.ofJson? ∧
      Json.SpellingsAgree Config.fields Config.toJson Config.ofJson? ∧
      (∀ f ∈ Column.fields, f.Defaults {}) ∧
      (∀ f ∈ Config.fields, f.Defaults {}) ∧
      (∀ f ∈ Facts.fields, f.IsStrict) ∧
      (∀ f ∈ SchemaRecord.fields, f.IsStrict) ∧
      (∀ f ∈ Catalog.fields, f.IsStrict) ∧
      (∀ f ∈ Column.fields, ∀ n : Int, n < 0 ∨ UInt64.size ≤ n → ¬f.Accepts (.int n)) ∧
      ∀ f ∈ Catalog.fields, ∀ docs, ∀ doc ∈ docs, SchemaRecord.ofJson? doc = none →
        ¬f.Accepts (.arr docs) := by
  exact ⟨Column.spellingsAgree, Facts.spellingsAgree, SchemaRecord.spellingsAgree,
    Catalog.spellingsAgree, Config.spellingsAgree, Column.default_fields, Config.default_fields,
    Facts.strict_fields, SchemaRecord.strict_fields, Catalog.strict_fields,
    Column.not_accepts_of_out_of_range, Catalog.not_accepts_of_mem⟩

/-- Schema records in spellings of their own: a name that an object leaves out is
    absent, but the mark has to be written. -/
example :
    Catalog.ofJson? (.arr [.arr [.arr [.str "A", .null, .bool true],
        .obj [("of", .int 7), ("is_default", .bool false)]]]) =
      some { schemas := [⟨.named "A", none, true⟩, ⟨.absent, none, false⟩] } ∧
    Catalog.ofJson? (.arr [.arr [.arr [.str "A", .null, .bool true],
        .obj [("name", .str "B")]]]) = none :=
  ⟨rfl, rfl⟩

end Schemata
