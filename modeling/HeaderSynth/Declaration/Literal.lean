import HeaderSynth.Text.Hex

/-!
# String literals

A text is written as `TEXT("...")`.  Characters outside printable ASCII become
escapes of four hexadecimal digits per UTF-16 unit.  Since such an escape takes all
hexadecimal digits that follow it, the literal is closed and opened again where a
digit would follow.
-/

namespace HeaderSynth

/-- The UTF-16 units of a character. -/
def utf16Units (c : Char) : List Nat :=
  let n := c.toNat
  if n < 0x10000 then [n]
  else [0xD800 + (n - 0x10000) / 0x400, 0xDC00 + (n - 0x10000) % 0x400]

/-- The escape of a character that has one of its own. -/
def namedEscape? (c : Char) : Option (List Char) :=
  if c = '\n' then some ['\\', 'n']
  else if c = '\r' then some ['\\', 'r']
  else if c = '\t' then some ['\\', 't']
  else if c = '\\' then some ['\\', '\\']
  else if c = '"' then some ['\\', '"']
  else none

def isPrintableAscii (c : Char) : Bool :=
  0x20 ≤ c.toNat && c.toNat < 0x7F

def unitEscape (n : Nat) : List Char :=
  '\\' :: 'x' :: Text.hexWord .upper 4 n

/-- The end of a literal and the beginning of the next. -/
def reopening : List Char := "\")TEXT(\"".toList

/-- The inside of a literal.  `afterUnit` says that a numeric escape stands right
before. -/
def literalBody (afterUnit : Bool) : List Char → List Char
  | [] => []
  | c :: rest =>
    match namedEscape? c with
    | some escape => escape ++ literalBody false rest
    | none =>
      if isPrintableAscii c then
        (if afterUnit && (Text.hexValue? c).isSome then reopening else []) ++
          c :: literalBody false rest
      else (utf16Units c).flatMap unitEscape ++ literalBody true rest

/-- The literal of a text. -/
def stringLiteral (text : String) : String :=
  "TEXT(\"" ++ String.ofList (literalBody false text.toList) ++ "\")"

end HeaderSynth
