import HeaderSynth.Json.Basic

/-!
# Decoding JSON values

Scalars decode strictly: a number must be written as an integer and lie in the
range of its type.  A record may be written as an object, whose unknown members
are ignored, or as the array of its fields in order.
-/

namespace HeaderSynth.Json

def asText? : Json → Option String
  | .string text => some text
  | _ => none

def asBool? : Json → Option Bool
  | .bool value => some value
  | _ => none

/-- A natural number below `limit`. -/
def asNat? (limit : Nat) : Json → Option Nat
  | .integer (.ofNat n) => if n < limit then some n else none
  | _ => none

def asUInt8? (value : Json) : Option UInt8 :=
  (value.asNat? UInt8.size).map UInt8.ofNat

def asUInt32? (value : Json) : Option UInt32 :=
  (value.asNat? UInt32.size).map UInt32.ofNat

def asUInt64? (value : Json) : Option UInt64 :=
  (value.asNat? UInt64.size).map UInt64.ofNat

/-- A signed number of 64 bits. -/
def asInt64? : Json → Option Int64
  | .integer n => if Int64.minValue.toInt ≤ n ∧ n ≤ Int64.maxValue.toInt then some (Int64.ofInt n) else none
  | _ => none

def asList? {α : Type} (decode : Json → Option α) : Json → Option (List α)
  | .array items => items.mapM decode
  | _ => none

/-- A value, or nothing for `null`. -/
def asNullable? {α : Type} (decode : Json → Option α) : Json → Option (Option α)
  | .null => some none
  | value => (decode value).map some

/-- A name from a fixed list, written as a string or as an object whose one
member has that name and holds nothing.  Inside a tagged record, an empty object
counts as nothing too. -/
def asChoice? (nested : Bool) : Json → Option String
  | .string name => some name
  | .object [(name, .null)] => some name
  | .object [(name, .object [])] => if nested then some name else none
  | _ => none

/-- The fields of a record by name. -/
structure Record where
  /-- Written as an array, where only the last fields can be missing. -/
  positional : Bool
  fields : List (String × Json)

namespace Record

/-- Whether no name stands twice in the list. -/
def distinct : List String → Bool
  | [] => true
  | name :: names => !names.contains name && distinct names

/-- The fields `names` of a record.  A field given twice and an array that is too
long are refused. -/
def ofJson? (names : List String) : Json → Option Record
  | .object members =>
    let known := members.filter fun member => names.contains member.1
    if distinct (known.map Prod.fst) then some ⟨false, known⟩ else none
  | .array items =>
    if items.length ≤ names.length then some ⟨true, names.zip items⟩ else none
  | _ => none

def get? (record : Record) (name : String) : Option Json :=
  record.fields.lookup name

def required {α : Type} (record : Record) (name : String) (decode : Json → Option α) : Option α :=
  record.get? name >>= decode

/-- A field that may be missing. -/
def withDefault {α : Type} (record : Record) (name : String) (default : α)
    (decode : Json → Option α) : Option α :=
  match record.get? name with
  | none => some default
  | some value => decode value

/-- A field that may be missing or `null`. -/
def optional {α : Type} (record : Record) (name : String) (decode : Json → Option α) :
    Option (Option α) :=
  record.withDefault name none (asNullable? decode)

/-- A field that may be `null`, and that an object may leave out. -/
def nullable {α : Type} (record : Record) (name : String) (decode : Json → Option α) :
    Option (Option α) :=
  if record.positional then record.required name (asNullable? decode)
  else record.optional name decode

end Record

/-- A record whose first field or member `key` says which variant it is. -/
structure Tagged where
  tag : Json
  content : Json

/-- Takes the tag out of a record; it must be given exactly once. -/
def Tagged.ofJson? (key : String) : Json → Option Tagged
  | .object members =>
    match members.filter (·.1 = key) with
    | [(_, tag)] => some ⟨tag, .object (members.filter (·.1 ≠ key))⟩
    | _ => none
  | .array (tag :: items) => some ⟨tag, .array items⟩
  | _ => none

/-- The name of a variant.  Inside another tagged record, the position of the
name in the list of all variants serves as well. -/
def variantName? (nested : Bool) (names : List String) : Json → Option String
  | .string name => if names.contains name then some name else none
  | .integer (.ofNat position) => if nested then names[position]? else none
  | _ => none

end HeaderSynth.Json
