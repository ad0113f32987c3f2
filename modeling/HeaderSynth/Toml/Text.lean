import HeaderSynth.Text.Hex

/-!
# TOML strings

Basic strings have escapes and literal strings have none; both can span lines.  A
reader gets what stands behind the opening quotes and gives the contents with the
rest of the text.
-/

namespace HeaderSynth.Toml

def isWhite (c : Char) : Bool :=
  c = ' ' || c = '\t'

/-- A character that can stand for itself in strings and comments. -/
def isPlain (c : Char) : Bool :=
  c = '\t' || (0x20 ≤ c.toNat && c.toNat ≠ 0x7F)

/-- The character with a number, if there is one. -/
def charOf? (n : Nat) : Option Char :=
  if n.isValidChar then some (Char.ofNat n) else none

/-- The character of a numeric escape. -/
def numericEscape? (digits : List Char) : Option Char :=
  Text.hexNumber? digits >>= charOf?

/-- The character of an escape of one letter. -/
def letterEscape? (c : Char) : Option Char :=
  if c = 'b' then some '\x08'
  else if c = 't' then some '\t'
  else if c = 'n' then some '\n'
  else if c = 'f' then some '\x0c'
  else if c = 'r' then some '\r'
  else if c = '"' then some '"'
  else if c = '\\' then some '\\'
  else none

/-- The character of the escape after a backslash, and the rest of the text. -/
def escaped? : List Char → Option (Char × List Char)
  | [] => none
  | c :: rest =>
    if c = 'u' then
      if 4 ≤ rest.length then (numericEscape? (rest.take 4)).map (·, rest.drop 4) else none
    else if c = 'U' then
      if 8 ≤ rest.length then (numericEscape? (rest.take 8)).map (·, rest.drop 8) else none
    else (letterEscape? c).map (·, rest)

/-- What a string reader has in front of it. -/
inductive StringPart where
  /-- Characters of the contents. -/
  | contents (chars : List Char) (rest : List Char)
  /-- The closing quotes, perhaps after quotes that belong to the contents. -/
  | closing (chars : List Char) (rest : List Char)

/-- Reads parts of a string until it is closed.  Each part takes a character, so the
length of the text is enough `fuel`. -/
def readParts (part? : List Char → Option StringPart) :
    Nat → List Char → Option (List Char × List Char)
  | 0, _ => none
  | fuel + 1, text =>
    match part? text with
    | some (.contents chars rest) =>
      (readParts part? fuel rest).map fun (others, rest) => (chars ++ others, rest)
    | some (.closing chars rest) => some (chars, rest)
    | none => none

def basicPart? : List Char → Option StringPart
  | [] => none
  | '"' :: rest => some (.closing [] rest)
  | '\\' :: rest => (escaped? rest).map fun (c, rest) => .contents [c] rest
  | c :: rest => if isPlain c then some (.contents [c] rest) else none

def literalPart? : List Char → Option StringPart
  | [] => none
  | '\'' :: rest => some (.closing [] rest)
  | c :: rest => if isPlain c then some (.contents [c] rest) else none

/-- What stands behind a line break, if the text begins with one. -/
def afterNewline? : List Char → Option (List Char)
  | '\n' :: rest => some rest
  | '\r' :: '\n' :: rest => some rest
  | _ => none

/-- The text without the blanks and line breaks at its beginning. -/
def skipLines : List Char → List Char
  | '\r' :: '\n' :: rest => skipLines rest
  | c :: rest => if isWhite c || c = '\n' then skipLines rest else c :: rest
  | [] => []

/-- Whether only blanks stand between here and the end of the line. -/
def endsLine (text : List Char) : Bool :=
  (afterNewline? (text.dropWhile isWhite)).isSome

/-- Closing quotes of a string over several lines.  Two more quotes can stand before
them and belong to the contents. -/
def closingQuotes? (quote : Char) (text : List Char) : Option StringPart :=
  let run := (text.takeWhile (· = quote)).length
  if run < 3 then none
  else
    let inside := min (run - 3) 2
    some (.closing (List.replicate inside quote) (text.drop (inside + 3)))

/-- A line break, a plain character or nothing else. -/
def linePart? (text : List Char) : Option StringPart :=
  match afterNewline? text with
  | some rest => some (.contents ['\n'] rest)
  | none =>
    match text with
    | [] => none
    | c :: rest => if isPlain c then some (.contents [c] rest) else none

/-- A backslash at the end of a line takes the line break and all blanks behind it
away. -/
def multilineBasicPart? (text : List Char) : Option StringPart :=
  (closingQuotes? '"' text).or <|
    match text with
    | '\\' :: rest =>
      if endsLine rest then some (.contents [] (skipLines rest))
      else (escaped? rest).map fun (c, rest) => .contents [c] rest
    | _ => linePart? text

def multilineLiteralPart? (text : List Char) : Option StringPart :=
  (closingQuotes? '\'' text).or (linePart? text)

/-- The text behind a line break right at the beginning of a string. -/
def dropFirstNewline (text : List Char) : List Char :=
  (afterNewline? text).getD text

def readString (part? : List Char → Option StringPart) (text : List Char) :
    Option (String × List Char) :=
  (readParts part? (text.length + 1) text).map fun (chars, rest) => (String.ofList chars, rest)

/-- A string of one line. -/
def shortString? : List Char → Option (String × List Char)
  | '"' :: rest => readString basicPart? rest
  | '\'' :: rest => readString literalPart? rest
  | _ => none

/-- A string of any kind. -/
def string? : List Char → Option (String × List Char)
  | '"' :: '"' :: '"' :: rest => readString multilineBasicPart? (dropFirstNewline rest)
  | '\'' :: '\'' :: '\'' :: rest => readString multilineLiteralPart? (dropFirstNewline rest)
  | text => shortString? text

end HeaderSynth.Toml
