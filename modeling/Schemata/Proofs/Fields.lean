import Mathlib.Data.List.Forall2
import Schemata.Proofs.RoundTrip

/-! # Records as fields

    A record is written as an object or as an array of its fields. What there is
    to know of a kind of record is a list of fields: for each one the key, what
    leaving the field out means, and the forms that a document for it can take.

    - A reader **reads fields** if it takes the slots of a document and nothing
      else of it, each slot by the rule of its field (`Json.ReadsFields`).
    - An object is then read by what it has under each key
      (`Json.ReadsFields.object_iff`), an array by what it has at each position
      (`Json.ReadsFields.array_iff`).
    - So all spellings of a record read alike, and one bad field is enough for
      nothing to be read (`Json.ReadsFields.spellingsAgree`). -/

namespace Schemata

variable {α β : Type}

namespace Json

/-! ### Fields -/

/-- What is meant where nothing is written for a field. -/
inductive Omission where
  /-- Nothing: the field has to be written. -/
  | never
  /-- Null in an object; in an array the field has to be written. -/
  | asNull
  /-- The default, in objects and in arrays that end before the field. -/
  | asDefault (d : Json)

/-- What an object means that has no member for the field. -/
def Omission.inObject? : Omission → Option Json
  | never => none
  | asNull => some null
  | asDefault d => some d

/-- What an array means that ends before the field. -/
def Omission.inArray? : Omission → Option Json
  | never | asNull => none
  | asDefault d => some d

/-- A field of the records of a kind. -/
structure Field (α : Type) where
  key      : String
  omission : Omission
  /-- Is the document a form of what the record has in the field? -/
  Spells   : Json → α → Prop

namespace Field

/-- The field that holds one part of a record, given the forms of such a part. -/
def of (key : String) (omission : Omission) (IsForm : Json → β → Prop) (part : α → β) :
    Field α where
  key := key
  omission := omission
  Spells d a := IsForm d (part a)

/-- The document is a form of what some record has in the field. -/
def Accepts (f : Field α) (d : Json) : Prop := ∃ a, f.Spells d a

/-- Leaving the field out means what the record has in it, and null is refused. -/
def Defaults (a : α) (f : Field α) : Prop :=
  (∃ d, f.omission = .asDefault d ∧ f.Spells d a) ∧ ¬f.Accepts null

/-- The field can be null, which is what leaving it out of an object means, or it
    has to be written. -/
def IsStrict (f : Field α) : Prop :=
  f.Accepts null ∧ f.omission = .asNull ∨ ¬f.Accepts null ∧ f.omission = .never

end Field

/-- The keys of the fields, in order. -/
def keys (fields : List (Field α)) : List String := fields.map (·.key)

/-! ### Slots -/

/-- What is written for a field, or left out, means the document. -/
def Slot.StandsFor (o : Omission) : Slot → Json → Prop
  | given j, d => j = d
  | noMember, d => o.inObject? = some d
  | noItem, d => o.inArray? = some d

/-- What is written for the field is a form of what the record has in it. -/
def Field.ReadAs (a : α) (f : Field α) (slot : Slot) : Prop :=
  ∃ d, slot.StandsFor f.omission d ∧ f.Spells d a

section Rules

variable {a : α} {d : Json} {f : Field α}

theorem Field.readAs_given_iff : f.ReadAs a (.given d) ↔ f.Spells d a := by
  simp [ReadAs, Slot.StandsFor]

theorem Field.readAs_noMember_iff :
    f.ReadAs a .noMember ↔ ∃ d, f.omission.inObject? = some d ∧ f.Spells d a :=
  Iff.rfl

theorem Field.readAs_noItem_iff :
    f.ReadAs a .noItem ↔ ∃ d, f.omission.inArray? = some d ∧ f.Spells d a :=
  Iff.rfl

variable {value? : Json → Option β} {IsForm : Json → β → Prop} {key : String} {part : α → β}
  {slot : Slot}

theorem readAs_required_iff (h : ∀ d b, value? d = some b ↔ IsForm d b) :
    (Field.of key .never IsForm part).ReadAs a slot ↔ slot.required value? = some (part a) := by
  cases slot <;>
    simp [Field.of, Field.ReadAs, Slot.required, Slot.StandsFor, Omission.inObject?,
      Omission.inArray?, h]

theorem readAs_nullable_iff (h : ∀ d b, value? d = some b ↔ IsForm d b) :
    (Field.of key .asNull IsForm part).ReadAs a slot ↔ slot.nullable value? = some (part a) := by
  cases slot <;>
    simp [Field.of, Field.ReadAs, Slot.nullable, Slot.StandsFor, Omission.inObject?,
      Omission.inArray?, h]

theorem readAs_withDefault_iff (h : ∀ d b, value? d = some b ↔ IsForm d b) (d₀ : Json) {b₀ : β}
    (hd₀ : value? d₀ = some b₀) :
    (Field.of key (.asDefault d₀) IsForm part).ReadAs a slot ↔
      slot.withDefault b₀ value? = some (part a) := by
  cases slot <;>
    simp [Field.of, Field.ReadAs, Slot.withDefault, Slot.StandsFor, Omission.inObject?,
      Omission.inArray?, ← h, hd₀]

end Rules

/-! ### Readers of records -/

/-- Records of the kind are read field by field, each field from its slot. -/
def ReadsFields (fields : List (Field α)) (ofJson? : Json → Option α) : Prop :=
  ∀ j a, ofJson? j = some a ↔
    ∃ slots, j.slots? (keys fields) = some slots ∧ List.Forall₂ (Field.ReadAs a) fields slots

theorem length_of_slots? {names : List String} {j : Json} {slots : List Slot}
    (h : j.slots? names = some slots) : slots.length = names.length := by
  cases j with
  | obj members =>
    cases h
    exact List.length_map ..
  | arr items =>
    obtain ⟨hle, hslots⟩ := Option.ite_none_right_eq_some.mp h
    cases hslots
    rw [List.length_append, List.length_map, List.length_replicate]
    omega
  | _ => cases h

/-- A reader that takes the slots of a record and no more reads fields if it does so
    of as many slots as there are fields. -/
theorem ReadsFields.of_slots {fields : List (Field α)} {read : List Slot → Option α}
    (h : ∀ slots a, slots.length = fields.length →
      (read slots = some a ↔ List.Forall₂ (Field.ReadAs a) fields slots)) :
    ReadsFields fields fun j => (j.slots? (keys fields)).bind read := by
  intro j a
  rw [Option.bind_eq_some_iff]
  refine exists_congr fun slots => and_congr_right fun hslots => ?_
  have hlength := length_of_slots? hslots
  rw [keys, List.length_map] at hlength
  exact h slots a hlength

/-! ### Objects and arrays -/

/-- What the members have under the key. -/
def Slot.atKey (members : List (String × Json)) (k : String) : Slot :=
  (members.lookup k).elim .noMember .given

/-- What the items have at the position. -/
def Slot.atIndex (items : List Json) (i : Nat) : Slot := items[i]?.elim .noItem .given

/-- The members have the key once at most. -/
def Once (k : String) (members : List (String × Json)) : Prop := (members.map (·.1)).count k ≤ 1

section Slots

variable {members members' left : List (String × Json)} {items rest : List Json} {k : String}
  {d : Json} {i : Nat}

theorem Slot.atKey_of_mem (honce : Once k members) (hmem : (k, d) ∈ members) :
    atKey members k = given d := by
  rw [atKey, lookup_of_count_le_one hmem honce]
  rfl

theorem Slot.atKey_of_not_mem (h : k ∉ members.map (·.1)) : atKey members k = noMember := by
  have hlookup : members.lookup k = none := by
    rw [List.lookup_eq_none_iff]
    intro e he
    rw [bne_iff_ne]
    rintro rfl
    exact h (List.mem_map_of_mem he)
  rw [atKey, hlookup]
  rfl

theorem Slot.atIndex_of_getElem? (h : items[i]? = some d) : atIndex items i = given d := by
  rw [atIndex, h]
  rfl

theorem Slot.atIndex_of_le (h : items.length ≤ i) : atIndex items i = noItem := by
  rw [atIndex, List.getElem?_eq_none h]
  rfl

theorem Slot.atIndex_append_left (h : i < items.length) :
    atIndex (items ++ rest) i = atIndex items i := by
  rw [atIndex, List.getElem?_append_left h]
  rfl

theorem Slot.atIndex_append_right (h : items.length ≤ i) :
    atIndex (items ++ rest) i = atIndex rest (i - items.length) := by
  rw [atIndex, List.getElem?_append_right h]
  rfl

theorem Once.add_le_one (honce : Once k members') (hperm : members'.Perm (left ++ members)) :
    (left.map (·.1)).count k + (members.map (·.1)).count k ≤ 1 := by
  rw [← List.count_append, ← List.map_append, ← (hperm.map _).count_eq]
  exact honce

/-- Members with other keys are passed over. -/
theorem Slot.atKey_eq_of_perm (honce : Once k members')
    (hperm : members'.Perm (left ++ members)) (hleft : k ∉ left.map (·.1)) :
    atKey members' k = atKey members k := by
  by_cases hmem : k ∈ members.map (·.1)
  · obtain ⟨⟨_, d⟩, hd, rfl⟩ := List.mem_map.mp hmem
    have hcount := honce.add_le_one hperm
    have honce' : Once _ members := Nat.le_trans (Nat.le_add_left _ _) hcount
    have hd' := hperm.mem_iff.mpr (List.mem_append_right left hd)
    rw [atKey_of_mem honce hd', atKey_of_mem honce' hd]
  · have hmem' : k ∉ members'.map (·.1) := by
      rw [(hperm.map _).mem_iff, List.map_append, List.mem_append, not_or]
      exact ⟨hleft, hmem⟩
    rw [atKey_of_not_mem hmem', atKey_of_not_mem hmem]

theorem slots?_obj_eq {names : List String} :
    (obj members).slots? names = some (names.map (Slot.atKey members)) :=
  rfl

theorem forall₂_mapIdx_iff {R : α → Slot → Prop} {as : List α} {names : List String}
    {slotAt : Nat → Slot} (h : names.length = as.length) :
    List.Forall₂ R as (names.mapIdx fun i _ => slotAt i) ↔
      ∀ i a, as[i]? = some a → R a (slotAt i) := by
  rw [List.forall₂_iff_get]
  simp only [List.length_mapIdx, List.get_eq_getElem, List.getElem_mapIdx]
  constructor
  · rintro ⟨_, h'⟩ i a ha
    obtain ⟨hi, rfl⟩ := List.getElem?_eq_some_iff.mp ha
    exact h' i hi (h ▸ hi)
  · intro h'
    exact ⟨h.symm, fun i hi _ => h' i _ (List.getElem?_eq_getElem hi)⟩

/-- An array has a slot for each field at its position, if there are no more items. -/
theorem slots?_arr {names : List String} (h : items.length ≤ names.length) :
    (arr items).slots? names = some (names.mapIdx fun i _ => .atIndex items i) := by
  have hslots : items.map .given ++ List.replicate (names.length - items.length) .noItem =
      names.mapIdx fun i _ => Slot.atIndex items i := by
    refine List.ext_getElem (by simp; omega) fun i _ _ => ?_
    by_cases hitem : i < items.length <;> simp [Slot.atIndex, List.getElem_append, hitem]
  rw [← hslots]
  exact if_pos h

end Slots

namespace ReadsFields

variable {fields : List (Field α)} {ofJson? : Json → Option α} {a : α}
  {members : List (String × Json)} {items : List Json}

/-- An object is read by what it has under the key of each field. -/
theorem object_iff (h : ReadsFields fields ofJson?) :
    ofJson? (obj members) = some a ↔ ∀ f ∈ fields, f.ReadAs a (.atKey members f.key) := by
  rw [h, slots?_obj_eq, keys, List.map_map]
  simp only [Option.some_inj, exists_eq_left', List.forall₂_map_right_iff, List.forall₂_same,
    Function.comp_apply]

/-- An array is read by what it has at the position of each field. -/
theorem array_iff (h : ReadsFields fields ofJson?) :
    ofJson? (arr items) = some a ↔ items.length ≤ fields.length ∧
      ∀ i (f : Field α), fields[i]? = some f → f.ReadAs a (.atIndex items i) := by
  have hkeys : (keys fields).length = fields.length := List.length_map ..
  rw [h]
  by_cases hle : items.length ≤ fields.length
  · rw [slots?_arr (hkeys ▸ hle)]
    simp only [Option.some_inj, exists_eq_left', hle, true_and, forall₂_mapIdx_iff hkeys]
  · have hslots : (arr items).slots? (keys fields) = none := if_neg (hkeys ▸ hle)
    simp [hslots, hle]

end ReadsFields

/-! ### Spellings -/

/-- The documents are forms of what the record has in its fields, in order. -/
def SpellFields (fields : List (Field α)) (docs : List Json) (a : α) : Prop :=
  List.Forall₂ (fun f d => f.Spells d a) fields docs

theorem SpellFields.exists_mem {fields : List (Field α)} {docs : List Json} {a : α}
    (h : SpellFields fields docs a) {f : Field α} (hf : f ∈ fields) :
    ∃ d, (f.key, d) ∈ (keys fields).zip docs ∧ f.Spells d a := by
  induction h with
  | nil => cases hf
  | cons hspells _ ih =>
    cases hf with
    | head => exact ⟨_, List.mem_cons_self, hspells⟩
    | tail _ hf =>
      obtain ⟨d, hd, hspells'⟩ := ih hf
      exact ⟨d, List.mem_cons_of_mem _ hd, hspells'⟩

/-- The accepted spellings of a record all read as that record, and what is not one
    of them does not read as any. -/
structure SpellingsAgree (fields : List (Field α)) (toJson : α → Json)
    (ofJson? : Json → Option α) : Prop where
  /-- A record is written as one of its spellings. -/
  written : ∀ a, ∃ docs, toJson a = obj ((keys fields).zip docs) ∧ SpellFields fields docs a
  /-- The members may stand in any order, and among others that are no fields. -/
  object : ∀ docs extra members a, SpellFields fields docs a →
    (∀ e ∈ extra, e.1 ∉ keys fields) → members.Perm ((keys fields).zip docs ++ extra) →
    ofJson? (obj members) = some a
  array : ∀ docs a, SpellFields fields docs a → ofJson? (arr docs) = some a
  /-- Members may be left out that are written as what leaving them out means. -/
  left_out : ∀ left members members', (∀ f ∈ fields, Once f.key members') →
    members'.Perm (left ++ members) →
    (∀ e ∈ left, ∃ f ∈ fields, f.key = e.1 ∧ f.omission.inObject? = some e.2) →
    ofJson? (obj members) = ofJson? (obj members')
  /-- So may the last items. -/
  cut_short : ∀ items rest : List Json, (∀ (i : Nat) d, rest[i]? = some d →
      ∃ f, fields[items.length + i]? = some f ∧ f.omission.inArray? = some d) →
    ofJson? (arr items) = ofJson? (arr (items ++ rest))
  missing : ∀ members, ∀ f ∈ fields, f.omission.inObject? = none →
    f.key ∉ members.map (·.1) → ofJson? (obj members) = none
  too_short : ∀ (items : List Json) (i : Nat) (f : Field α), fields[i]? = some f →
    f.omission.inArray? = none → items.length ≤ i → ofJson? (arr items) = none
  too_long : ∀ items, fields.length < items.length → ofJson? (arr items) = none
  wrong_member : ∀ members, ∀ f ∈ fields, ∀ d, Once f.key members → (f.key, d) ∈ members →
    ¬f.Accepts d → ofJson? (obj members) = none
  wrong_item : ∀ (items : List Json) (i : Nat) (f : Field α) (d : Json), fields[i]? = some f →
    items[i]? = some d → ¬f.Accepts d → ofJson? (arr items) = none
  no_record : ∀ d, (∀ members, d ≠ obj members) → (∀ items, d ≠ arr items) → ofJson? d = none

namespace ReadsFields

variable {fields : List (Field α)} {ofJson? : Json → Option α} {a : α}
  {members members' left extra : List (String × Json)} {items rest docs : List Json}

theorem eq_none_of_object (h : ReadsFields fields ofJson?) {f : Field α} (hf : f ∈ fields)
    (hbad : ∀ a, ¬f.ReadAs a (.atKey members f.key)) : ofJson? (obj members) = none := by
  rw [Option.eq_none_iff_forall_ne_some]
  intro a ha
  exact hbad a (h.object_iff.mp ha f hf)

theorem eq_none_of_array (h : ReadsFields fields ofJson?) {f : Field α} {i : Nat}
    (hf : fields[i]? = some f) (hbad : ∀ a, ¬f.ReadAs a (.atIndex items i)) :
    ofJson? (arr items) = none := by
  rw [Option.eq_none_iff_forall_ne_some]
  intro a ha
  exact hbad a ((h.array_iff.mp ha).2 i f hf)

/-- Members are read in any order, and other members are passed over. -/
theorem of_object (h : ReadsFields fields ofJson?) (hnodup : (keys fields).Nodup)
    (hdocs : SpellFields fields docs a) (hextra : ∀ e ∈ extra, e.1 ∉ keys fields)
    (hperm : members.Perm ((keys fields).zip docs ++ extra)) : ofJson? (obj members) = some a := by
  have hkeys : ((keys fields).zip docs).map (·.1) = keys fields := by
    refine List.map_fst_zip (Nat.le_of_eq ?_)
    rw [keys, List.length_map, hdocs.length_eq]
  rw [h.object_iff]
  intro f hf
  obtain ⟨d, hd, hspells⟩ := hdocs.exists_mem hf
  have hmem := hperm.mem_iff.mpr (List.mem_append_left extra hd)
  have hextra' : f.key ∉ extra.map (·.1) := by
    intro hkey
    obtain ⟨e, he, hek⟩ := List.mem_map.mp hkey
    exact hextra e he (hek ▸ List.mem_map_of_mem hf)
  -- No other member hides the one of the field.
  have honce : Once f.key members := by
    rw [Once, (hperm.map _).count_eq, List.map_append, hkeys, List.count_append,
      List.count_eq_zero.mpr hextra']
    exact List.nodup_iff_count_le_one.mp hnodup f.key
  rw [Slot.atKey_of_mem honce hmem, Field.readAs_given_iff]
  exact hspells

theorem of_array (h : ReadsFields fields ofJson?) (hdocs : SpellFields fields docs a) :
    ofJson? (arr docs) = some a := by
  obtain ⟨hlength, hspell⟩ := List.forall₂_iff_get.mp hdocs
  rw [h.array_iff]
  refine ⟨Nat.le_of_eq hlength.symm, ?_⟩
  intro i f hf
  obtain ⟨hi, rfl⟩ := List.getElem?_eq_some_iff.mp hf
  have hitem : docs[i]? = some docs[i] := List.getElem?_eq_getElem (hlength ▸ hi)
  rw [Slot.atIndex_of_getElem? hitem, Field.readAs_given_iff]
  exact hspell i hi (hlength ▸ hi)

theorem left_out (h : ReadsFields fields ofJson?) (hnodup : (keys fields).Nodup)
    (honce : ∀ f ∈ fields, Once f.key members') (hperm : members'.Perm (left ++ members))
    (hleft : ∀ e ∈ left, ∃ f ∈ fields, f.key = e.1 ∧ f.omission.inObject? = some e.2) :
    ofJson? (obj members) = ofJson? (obj members') := by
  refine Option.ext fun a => ?_
  rw [h.object_iff, h.object_iff]
  refine forall₂_congr fun f hf => ?_
  -- Of the two objects only the longer one has the key, if it was left out at all.
  by_cases hmem : f.key ∈ left.map (·.1)
  · obtain ⟨⟨k, d⟩, he, hkey⟩ := List.mem_map.mp hmem
    obtain rfl : k = f.key := hkey
    obtain ⟨f', hf', hkey', hd⟩ := hleft _ he
    obtain rfl : f' = f := List.inj_on_of_nodup_map hnodup hf' hf hkey'
    have he' := hperm.mem_iff.mpr (List.mem_append_left members he)
    have hcount := (honce f' hf).add_le_one hperm
    have habsent : f'.key ∉ members.map (·.1) := by
      have hleft' := List.one_le_count_iff.mpr hmem
      rw [← List.count_eq_zero]
      omega
    rw [Slot.atKey_of_not_mem habsent, Slot.atKey_of_mem (honce f' hf) he',
      Field.readAs_noMember_iff, Field.readAs_given_iff, hd]
    simp only [Option.some_inj, exists_eq_left']
  · rw [Slot.atKey_eq_of_perm (honce f hf) hperm hmem]

theorem cut_short (h : ReadsFields fields ofJson?)
    (hrest : ∀ i d, rest[i]? = some d →
      ∃ f, fields[items.length + i]? = some f ∧ f.omission.inArray? = some d) :
    ofJson? (arr items) = ofJson? (arr (items ++ rest)) := by
  have hlength : items.length ≤ fields.length ↔ (items ++ rest).length ≤ fields.length := by
    rw [List.length_append]
    refine ⟨fun hle => ?_, by omega⟩
    -- The last item that was left out stands at the position of a field.
    rcases Nat.eq_zero_or_pos rest.length with hnone | hsome
    · omega
    · obtain ⟨f, hf, _⟩ := hrest _ _ (List.getElem?_eq_getElem (Nat.sub_one_lt_of_lt hsome))
      have hlt := (List.getElem?_eq_some_iff.mp hf).1
      omega
  refine Option.ext fun a => ?_
  rw [h.array_iff, h.array_iff, hlength]
  refine and_congr_right fun _ => forall_congr' fun i => forall₂_congr fun f hf => ?_
  rcases Nat.lt_or_ge i items.length with hlt | hle
  · rw [Slot.atIndex_append_left hlt]
  · rw [Slot.atIndex_of_le hle, Slot.atIndex_append_right hle]
    cases hd : rest[i - items.length]? with
    | none => rw [Slot.atIndex_of_le (List.getElem?_eq_none_iff.mp hd)]
    | some d =>
      obtain ⟨f', hf', homit⟩ := hrest _ d hd
      rw [Nat.add_sub_cancel' hle, hf, Option.some_inj] at hf'
      subst hf'
      rw [Slot.atIndex_of_getElem? hd, Field.readAs_noItem_iff, Field.readAs_given_iff, homit]
      simp only [Option.some_inj, exists_eq_left']

/-- All accepted spellings read alike if records are read field by field. -/
theorem spellingsAgree {toJson : α → Json} (h : ReadsFields fields ofJson?)
    (hnodup : (keys fields).Nodup)
    (hwritten : ∀ a, ∃ docs, toJson a = obj ((keys fields).zip docs) ∧ SpellFields fields docs a) :
    SpellingsAgree fields toJson ofJson? := by
  constructor
  case written => exact hwritten
  case object =>
    intro docs extra members a hdocs hextra hperm
    exact h.of_object hnodup hdocs hextra hperm
  case array =>
    intro docs a hdocs
    exact h.of_array hdocs
  case left_out =>
    intro left members members' honce hperm hleft
    exact h.left_out hnodup honce hperm hleft
  case cut_short =>
    intro items rest hrest
    exact h.cut_short hrest
  case missing =>
    intro members f hf hnever habsent
    refine h.eq_none_of_object hf fun a => ?_
    simp [Slot.atKey_of_not_mem habsent, Field.readAs_noMember_iff, hnever]
  case too_short =>
    intro items i f hf hnever hle
    refine h.eq_none_of_array hf fun a => ?_
    simp [Slot.atIndex_of_le hle, Field.readAs_noItem_iff, hnever]
  case too_long =>
    intro items hlt
    rw [Option.eq_none_iff_forall_ne_some]
    intro a ha
    exact Nat.not_le.mpr hlt (h.array_iff.mp ha).1
  case wrong_member =>
    intro members f hf d honce hmem hbad
    refine h.eq_none_of_object hf fun a ha => hbad ⟨a, ?_⟩
    rwa [Slot.atKey_of_mem honce hmem, Field.readAs_given_iff] at ha
  case wrong_item =>
    intro items i f d hf hitem hbad
    refine h.eq_none_of_array hf fun a ha => hbad ⟨a, ?_⟩
    rwa [Slot.atIndex_of_getElem? hitem, Field.readAs_given_iff] at ha
  case no_record =>
    intro d hobj harr
    rw [Option.eq_none_iff_forall_ne_some]
    intro a ha
    obtain ⟨slots, hslots, _⟩ := (h d a).mp ha
    cases d with
    | obj members => exact hobj members rfl
    | arr items => exact harr items rfl
    | _ => cases hslots

end ReadsFields

end Json

end Schemata
