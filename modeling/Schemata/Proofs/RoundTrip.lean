import Mathlib.Data.List.Nodup
import Schemata.Json.Codec
import Schemata.Session

/-! # Round trips

    Reading the encoded form of a value gives the value back, for every kind
    of value that has one (`encodings_round_trip`). A record is read from its
    slots, and the slots of a written record are its fields in order
    (`Json.slots?_obj`); the rest is a matter of the plain values. -/

namespace Schemata

variable {α : Type}

/-! ### Plain values -/

namespace Json

/-- An integer between the bounds is read as it stands. -/
theorem intBetween?_int {lo hi n : Int} (hlo : lo ≤ n) (hhi : n ≤ hi) :
    (int n).intBetween? lo hi = some n := by
  have hbounds : (decide (lo ≤ n) && decide (n ≤ hi)) = true := by
    simp [hlo, hhi]
  unfold intBetween? int?
  rw [Option.filter_some, if_pos hbounds]

@[simp] theorem int16?_int (n : Int16) : (int n.toInt).int16? = some n := by
  unfold int16?
  rw [intBetween?_int n.minValue_le_toInt n.toInt_le, Option.map_some, Int16.ofInt_toInt]

@[simp] theorem int32?_int (n : Int32) : (int n.toInt).int32? = some n := by
  unfold int32?
  rw [intBetween?_int n.minValue_le_toInt n.toInt_le, Option.map_some, Int32.ofInt_toInt]

@[simp] theorem int64?_int (n : Int64) : (int n.toInt).int64? = some n := by
  unfold int64?
  rw [intBetween?_int n.minValue_le_toInt n.toInt_le, Option.map_some, Int64.ofInt_toInt]

@[simp] theorem uint64?_int (n : UInt64) : (int n.toNat).uint64? = some n := by
  have hlt : n.toNat < UInt64.size := n.toNat_lt_size
  have hhi : (n.toNat : Int) ≤ Int.ofNat (UInt64.size - 1) := by
    show (n.toNat : Int) ≤ ((UInt64.size - 1 : Nat) : Int)
    omega
  unfold uint64?
  rw [intBetween?_int (Int.natCast_nonneg _) hhi, Option.map_some, Int.toNat_natCast,
    UInt64.ofNat_toNat]

@[simp] theorem strOrNull?_ofText? (s : Option String) : (ofText? s).strOrNull? = some s := by
  cases s <;> rfl

/-- An array is read item by item. -/
theorem list?_arr_map {item? : Json → Option α} {toJson : α → Json}
    (h : ∀ a, item? (toJson a) = some a) (as : List α) :
    list? item? (arr (as.map toJson)) = some as := by
  have hitems : item? ∘ toJson = fun a => pure a := funext h
  show (as.map toJson).mapM item? = some as
  rw [List.mapM_map, hitems, List.mapM_pure, List.map_id']
  rfl

/-! ### Records -/

/-- A member is found by its name if no other member has that name. -/
theorem lookup_of_count_le_one {members : List (String × Json)} {k : String} {j : Json}
    (hmem : (k, j) ∈ members) (honce : (members.map (·.1)).count k ≤ 1) :
    members.lookup k = some j := by
  obtain ⟨before, after, rfl⟩ := List.append_of_mem hmem
  have hbefore : k ∉ before.map (·.1) := by
    rw [List.map_append, List.map_cons, List.count_append, List.count_cons_self] at honce
    rw [← List.count_eq_zero]
    omega
  rw [List.lookup_eq_some_iff]
  refine ⟨before, after, rfl, ?_⟩
  intro p hp
  have hne : k ≠ p.1 := fun h => hbefore (h ▸ List.mem_map_of_mem hp)
  simpa using hne

/-- Of members with distinct names each one is found by its name. -/
theorem lookup_of_mem {members : List (String × Json)} (hnodup : (members.map (·.1)).Nodup)
    {e : String × Json} (he : e ∈ members) : members.lookup e.1 = some e.2 :=
  lookup_of_count_le_one he (List.nodup_iff_count_le_one.mp hnodup e.1)

/-- The slots of a written record are its members in order. -/
theorem slots?_obj {members : List (String × Json)} (hnodup : (members.map (·.1)).Nodup) :
    (obj members).slots? (members.map (·.1)) = some (members.map fun e => .given e.2) := by
  have hslots : ∀ e ∈ members, (members.lookup e.1).elim Slot.noMember .given = .given e.2 := by
    intro e he
    rw [lookup_of_mem hnodup he]
    rfl
  show some ((members.map (·.1)).map fun k => (members.lookup k).elim Slot.noMember .given) = _
  rw [List.map_map]
  exact congrArg some (List.map_congr_left hslots)

end Json

/-! ### Each kind of value -/

theorem Cell.ofJson?_toJson (c : Cell) : ofJson? c.toJson = some c := by
  cases c with
  | null => rfl
  | bool b => rfl
  | int16 n => simp [toJson, ofJson?]
  | int32 n => simp [toJson, ofJson?]
  | int64 n => simp [toJson, ofJson?]
  | text s => rfl

theorem Column.ofJson?_toJson (c : Column) : ofJson? c.toJson = some c := by
  have hslots : c.toJson.slots? ["name", "data_type", "ordinal"] =
      some [.given (.str c.name), .given (.str c.dataType), .given (.int c.ordinal.toNat)] :=
    Json.slots?_obj (by simp)
  simp [ofJson?, hslots, Json.str?]

theorem Dialect.ofCode?_code (d : Dialect) : ofCode? d.code = some d := by
  cases d <;> rfl

theorem Dialect.ofJson?_toJson (d : Dialect) : ofJson? d.toJson = some d :=
  ofCode?_code d

theorem PassStage.ofJson?_toJson (s : PassStage) : ofJson? s.toJson = some s := by
  cases s
  rfl

theorem Facts.ofJson?_toJson (f : Facts) : ofJson? f.toJson = some f := by
  have hslots : f.toJson.slots? ["dialect", "mysql_mode", "product_name", "url"] =
      some [.given f.dialect.toJson, .given (.bool f.mysqlMode), .given (.str f.product),
        .given (.ofText? f.url)] :=
    Json.slots?_obj (by simp)
  simp [ofJson?, hslots, Dialect.ofJson?_toJson, Json.bool?, Json.str?]

/-- The absent name is null and the empty name is the empty text. -/
theorem SchemaName.ofJson?_toJson (n : SchemaName) : ofJson? n.toJson = some n := by
  unfold ofJson? toJson
  rw [Json.strOrNull?_ofText?, Option.map_some, ofText?_text?]

theorem SchemaRecord.ofJson?_toJson (r : SchemaRecord) : ofJson? r.toJson = some r := by
  have hslots : r.toJson.slots? ["name", "quoted_name", "is_default"] =
      some [.given r.name.toJson, .given (.ofText? r.quotedName), .given (.bool r.isDefault)] :=
    Json.slots?_obj (by simp)
  simp [ofJson?, hslots, SchemaName.ofJson?_toJson, Json.bool?]

theorem Catalog.ofJson?_toJson (c : Catalog) : ofJson? c.toJson = some c := by
  have hslots : c.toJson.slots? ["schemas"] =
      some [.given (.arr (c.schemas.map SchemaRecord.toJson))] :=
    Json.slots?_obj (by simp)
  have hschemas := Json.list?_arr_map SchemaRecord.ofJson?_toJson c.schemas
  simp [ofJson?, hslots, hschemas]

theorem Config.ofJson?_toJson (c : Config) : ofJson? c.toJson = some c := by
  have hslots : c.toJson.slots? ["probe_compatibility_mode", "table_types"] =
      some [.given (.bool c.probeMode), .given (.arr (c.tableTypes.map .str))] :=
    Json.slots?_obj (by simp)
  have htext : ∀ s, Json.str? (.str s) = some s := fun _ => rfl
  have htexts := Json.list?_arr_map htext c.tableTypes
  simp [ofJson?, hslots, htexts, Json.bool?]

/-! ### The main result -/

/-- Reading undoes writing. -/
structure RoundTrips (toJson : α → Json) (ofJson? : Json → Option α) : Prop where
  read_written : ∀ a, ofJson? (toJson a) = some a
  /-- Distinct values are written as distinct documents. -/
  injective : Function.Injective toJson
  /-- What was read from any spelling is read again from the written form. -/
  read_again : ∀ j a, ofJson? j = some a → ofJson? (toJson a) = some a

theorem RoundTrips.of_read_written {toJson : α → Json} {ofJson? : Json → Option α}
    (h : ∀ a, ofJson? (toJson a) = some a) : RoundTrips toJson ofJson? where
  read_written := h
  injective := by
    intro a b hab
    have hread : some a = some b := by
      rw [← h a, ← h b, hab]
    exact Option.some.inj hread
  read_again := fun _ a _ => h a

/-- **Round trips.** Every value of the format is read back from its encoded
    form, and so the form of no other value. The facts and the catalog of a
    snapshot survive with the default, the schemas that are found by name and
    the way identifiers are quoted. -/
theorem encodings_round_trip :
    RoundTrips Cell.toJson Cell.ofJson? ∧
      RoundTrips Column.toJson Column.ofJson? ∧
      RoundTrips Dialect.toJson Dialect.ofJson? ∧
      RoundTrips PassStage.toJson PassStage.ofJson? ∧
      RoundTrips Facts.toJson Facts.ofJson? ∧
      RoundTrips SchemaName.toJson SchemaName.ofJson? ∧
      RoundTrips SchemaRecord.toJson SchemaRecord.ofJson? ∧
      RoundTrips Catalog.toJson Catalog.ofJson? ∧
      RoundTrips Config.toJson Config.ofJson? ∧
      ∀ snap : Snapshot, ∃ f c, Facts.ofJson? snap.contents.facts.toJson = some f ∧
        Catalog.ofJson? snap.contents.catalog.toJson = some c ∧
        c.defaultIndex? = snap.contents.catalog.defaultIndex? ∧
        (∀ name, c.find? name = snap.contents.catalog.find? name) ∧
        ∀ identifier, f.quote identifier = snap.contents.facts.quote identifier := by
  refine ⟨.of_read_written Cell.ofJson?_toJson, .of_read_written Column.ofJson?_toJson,
    .of_read_written Dialect.ofJson?_toJson, .of_read_written PassStage.ofJson?_toJson,
    .of_read_written Facts.ofJson?_toJson, .of_read_written SchemaName.ofJson?_toJson,
    .of_read_written SchemaRecord.ofJson?_toJson, .of_read_written Catalog.ofJson?_toJson,
    .of_read_written Config.ofJson?_toJson, ?_⟩
  intro snap
  have hfacts := Facts.ofJson?_toJson snap.contents.facts
  have hcatalog := Catalog.ofJson?_toJson snap.contents.catalog
  exact ⟨_, _, hfacts, hcatalog, rfl, fun _ => rfl, fun _ => rfl⟩

end Schemata
