import HeaderSynth.Text.DoubleRange

/-!
# JSON values

The value keeps what a text says and no more: members stand in the order they
were written, with repetitions, and a number is an integer only if it was
written as one.
-/

namespace HeaderSynth

/-- A number written with a point, an exponent or as a negative zero:
`digits` times ten to `exponent`, with its sign. -/
structure Decimal where
  negative : Bool
  digits : Nat
  exponent : Int
deriving DecidableEq, Repr

/-- A JSON value. -/
inductive Json where
  | null
  | bool (value : Bool)
  | integer (value : Int)
  | decimal (value : Decimal)
  | string (text : String)
  /-- A string, or an object with a key, that denotes no text, because its escapes
  leave a surrogate without its partner. -/
  | unpaired
  | array (items : List Json)
  | object (members : List (String × Json))
deriving Repr, Inhabited

namespace Json

mutual

/-- Whether a value nests at most `depth` arrays and objects, every number is in the
range of a double and every string and key denotes a text. -/
def isReadable (depth : Nat) : Json → Bool
  | .null => true
  | .bool _ => true
  | .integer value => Text.isFiniteStepwise value.natAbs 0
  | .decimal value => Text.isFiniteStepwise value.digits value.exponent
  | .string _ => true
  | .unpaired => false
  | .array items => 0 < depth && areReadable (depth - 1) items
  | .object members => 0 < depth && areReadableMembers (depth - 1) members

def areReadable (depth : Nat) : List Json → Bool
  | [] => true
  | item :: items => isReadable depth item && areReadable depth items

def areReadableMembers (depth : Nat) : List (String × Json) → Bool
  | [] => true
  | (_, value) :: members => isReadable depth value && areReadableMembers depth members

end

end Json

end HeaderSynth
