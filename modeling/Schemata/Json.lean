/-! # JSON documents

    The tree of a JSON document, and the plain values in it. Integers are
    exact and of any size; a number that is written with a fraction or an
    exponent is another kind of number and never taken for an integer. -/

namespace Schemata

/-- A JSON document. -/
inductive Json where
  | null
  | bool (b : Bool)
  /-- A number written without fraction and exponent. -/
  | int (n : Int)
  /-- A number written with a fraction or an exponent: `mantissa` times ten
      to the power of `exponent`. -/
  | decimal (mantissa exponent : Int)
  | str (s : String)
  | arr (items : List Json)
  /-- The members of an object, in order. -/
  | obj (members : List (String × Json))

namespace Json

/-! ### Plain values -/

/-- A truth value. -/
def bool? : Json → Option Bool
  | bool b => some b
  | _ => none

/-- An integer. -/
def int? : Json → Option Int
  | int n => some n
  | _ => none

/-- A text. -/
def str? : Json → Option String
  | str s => some s
  | _ => none

/-- A text or null. -/
def strOrNull? : Json → Option (Option String)
  | null => some none
  | str s => some (some s)
  | _ => none

/-- An array of values of one kind. -/
def list? {α : Type} (item? : Json → Option α) : Json → Option (List α)
  | arr items => items.mapM item?
  | _ => none

/-- An integer from `lo` to `hi`. -/
def intBetween? (lo hi : Int) (j : Json) : Option Int :=
  j.int?.filter fun n => lo ≤ n && n ≤ hi

/-- A signed integer of 16 bits. -/
def int16? (j : Json) : Option Int16 :=
  (j.intBetween? Int16.minValue.toInt Int16.maxValue.toInt).map Int16.ofInt

/-- A signed integer of 32 bits. -/
def int32? (j : Json) : Option Int32 :=
  (j.intBetween? Int32.minValue.toInt Int32.maxValue.toInt).map Int32.ofInt

/-- A signed integer of 64 bits. -/
def int64? (j : Json) : Option Int64 :=
  (j.intBetween? Int64.minValue.toInt Int64.maxValue.toInt).map Int64.ofInt

/-- An unsigned integer of 64 bits. -/
def uint64? (j : Json) : Option UInt64 :=
  (j.intBetween? 0 (Int.ofNat (UInt64.size - 1))).map fun n => UInt64.ofNat n.toNat

/-- A text, or null where there is none. -/
def ofText? (s : Option String) : Json := s.elim null str

/-! ### Variants

    A variant without content is written as its bare name, or as an object
    with that name as the one key and null as its value. -/

/-- The name of a variant without content. -/
def variant? : Json → Option String
  | str name => some name
  | obj [(name, null)] => some name
  | _ => none

/-! ### Records

    A record is written as an object with a member for each field, other
    members being passed over, or as an array of the fields in their fixed
    order. What may be left out is a matter of the field. -/

/-- What is written for a field of a record. -/
inductive Slot where
  /-- A value. -/
  | given (j : Json)
  /-- Nothing, in an object. -/
  | noMember
  /-- Nothing, the array being too short. -/
  | noItem

/-- The slots of a record with the named fields. -/
def slots? (fields : List String) : Json → Option (List Slot)
  | obj members => some (fields.map fun k => (members.lookup k).elim .noMember .given)
  | arr items =>
    if items.length ≤ fields.length then
      some (items.map .given ++ List.replicate (fields.length - items.length) .noItem)
    else none
  | _ => none

namespace Slot

/-- A field that has to be written. -/
def required {α : Type} (value? : Json → Option α) : Slot → Option α
  | given j => value? j
  | noMember | noItem => none

/-- A field for which an object need have no member, which means null. -/
def nullable {α : Type} (value? : Json → Option α) : Slot → Option α
  | given j => value? j
  | noMember => value? null
  | noItem => none

/-- A field with a default value, which stands wherever nothing is written. -/
def withDefault {α : Type} (d : α) (value? : Json → Option α) : Slot → Option α
  | given j => value? j
  | noMember | noItem => some d

@[simp] theorem required_given {α : Type} (value? : Json → Option α) (j : Json) :
    required value? (given j) = value? j := rfl

@[simp] theorem nullable_given {α : Type} (value? : Json → Option α) (j : Json) :
    nullable value? (given j) = value? j := rfl

@[simp] theorem withDefault_given {α : Type} (d : α) (value? : Json → Option α) (j : Json) :
    withDefault d value? (given j) = value? j := rfl

end Slot

end Json

end Schemata
