import HeaderSynth.Json.Basic
import HeaderSynth.Json.Escape

/-!
# Writing JSON

Two layouts: `compact` without any blanks, and `pretty` with one item per line
and two blanks of indentation per level.
-/

namespace HeaderSynth.Json

def quote (text : String) : String :=
  "\"" ++ String.ofList (escape text.toList) ++ "\""

def renderDecimal (value : Decimal) : String :=
  (if value.negative then "-" else "") ++ toString value.digits ++ "e" ++ toString value.exponent

mutual

/-- The value without blanks between its tokens. -/
def compact : Json → String
  | .null => "null"
  | .bool true => "true"
  | .bool false => "false"
  | .integer value => toString value
  | .decimal value => renderDecimal value
  | .string text => quote text
  | .unpaired => "\"\\ud800\""
  | .array items => "[" ++ compactItems items ++ "]"
  | .object members => "\x7b" ++ compactMembers members ++ "\x7d"

def compactItems : List Json → String
  | [] => ""
  | [item] => compact item
  | item :: items => compact item ++ "," ++ compactItems items

def compactMembers : List (String × Json) → String
  | [] => ""
  | [(key, value)] => quote key ++ ":" ++ compact value
  | (key, value) :: members => quote key ++ ":" ++ compact value ++ "," ++ compactMembers members

end

/-- A new line with the indentation of `level`. -/
def newLine (level : Nat) : String :=
  "\n" ++ String.ofList (List.replicate (2 * level) ' ')

mutual

/-- The value with one item per line, at a nesting of `level`. -/
def prettyAt (level : Nat) : Json → String
  | .array [] => "[]"
  | .array items => "[" ++ prettyItems (level + 1) items ++ newLine level ++ "]"
  | .object [] => "\x7b\x7d"
  | .object members => "\x7b" ++ prettyMembers (level + 1) members ++ newLine level ++ "\x7d"
  | .null => "null"
  | .bool true => "true"
  | .bool false => "false"
  | .integer value => toString value
  | .decimal value => renderDecimal value
  | .string text => quote text
  | .unpaired => "\"\\ud800\""

def prettyItems (level : Nat) : List Json → String
  | [] => ""
  | [item] => newLine level ++ prettyAt level item
  | item :: items => newLine level ++ prettyAt level item ++ "," ++ prettyItems level items

def prettyMembers (level : Nat) : List (String × Json) → String
  | [] => ""
  | [(key, value)] => newLine level ++ quote key ++ ": " ++ prettyAt level value
  | (key, value) :: members =>
    newLine level ++ quote key ++ ": " ++ prettyAt level value ++ "," ++ prettyMembers level members

end

def pretty (value : Json) : String :=
  prettyAt 0 value

end HeaderSynth.Json
