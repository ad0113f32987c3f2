import HeaderSynth.Toml.Scalar
import HeaderSynth.Toml.Text

/-!
# TOML documents

A document is a sequence of headers and of keys with values, one on a line.  They
are entered into the table of the document in order; what contradicts an earlier
one is refused.
-/

namespace HeaderSynth.Toml

/-- Arrays and tables nest at most this deep. -/
def maxNesting : Nat := 79

/-- A dotted key has at most this many parts. -/
def maxKeyParts : Nat := 79

def skipWhite (text : List Char) : List Char :=
  text.dropWhile isWhite

/-- The text behind blanks, line breaks and comments. -/
def skipFiller (inComment : Bool) : List Char → Option (List Char)
  | [] => some []
  | '\r' :: '\n' :: rest => skipFiller false rest
  | '\n' :: rest => skipFiller false rest
  | c :: rest =>
    if inComment then if isPlain c then skipFiller true rest else none
    else if isWhite c then skipFiller false rest
    else if c = '#' then skipFiller true rest
    else some (c :: rest)

/-- The text behind the end of the line; only blanks and a comment can stand before
it. -/
def finishLine (inComment : Bool) : List Char → Option (List Char)
  | [] => some []
  | '\r' :: '\n' :: rest => some rest
  | '\n' :: rest => some rest
  | c :: rest =>
    if inComment then if isPlain c then finishLine true rest else none
    else if isWhite c then finishLine false rest
    else if c = '#' then finishLine true rest
    else none

/-- The text behind `c`, if it begins with it. -/
def expect (c : Char) : List Char → Option (List Char)
  | [] => none
  | d :: rest => if c = d then some rest else none

def isBareKeyChar (c : Char) : Bool :=
  c.isAlphanum || c = '_' || c = '-'

/-- One part of a key. -/
def keyPart? (text : List Char) : Option (String × List Char) :=
  (shortString? text).or <|
    let bare := text.takeWhile isBareKeyChar
    if bare.isEmpty then none else some (String.ofList bare, text.dropWhile isBareKeyChar)

/-- The parts of a dotted key.  Blanks can stand around the dots. -/
def keyParts? : Nat → List Char → Option (List String × List Char)
  | 0, _ => none
  | fuel + 1, text => do
    let (part, rest) ← keyPart? (skipWhite text)
    match skipWhite rest with
    | '.' :: rest => do
      let (parts, rest) ← keyParts? fuel rest
      return (part :: parts, rest)
    | rest => return ([part], rest)

/-- A dotted key: the parts on the way and the last one. -/
def key? (text : List Char) : Option ((List String × String) × List Char) := do
  let (parts, rest) ← keyParts? maxKeyParts text
  return ((parts.dropLast, ← parts.getLast?), rest)

/-- Reads a value; an array or table inside a value of nesting `depth` has one less. -/
abbrev ValueReader := List Char → Option (Value × List Char)

/-- The items of an array up to its closing bracket. -/
def items? (value? : ValueReader) : Nat → List Char → Option (List Value × List Char)
  | 0, _ => none
  | fuel + 1, text => do
    match ← skipFiller false text with
    | ']' :: rest => return ([], rest)
    | text => do
      let (item, rest) ← value? text
      match ← skipFiller false rest with
      | ']' :: rest => return ([item], rest)
      | ',' :: rest => do
        let (items, rest) ← items? value? fuel rest
        return (item :: items, rest)
      | _ => none

/-- A key with its value. -/
def pair? (value? : ValueReader) (text : List Char) :
    Option ((List String × String × Value) × List Char) := do
  let ((path, key), rest) ← key? text
  let (value, rest) ← value? (skipWhite (← expect '=' rest))
  return ((path, key, value), rest)

/-- The entries of a table in braces, after `entries`. -/
def inlineEntries? (value? : ValueReader) :
    Nat → Entries → List Char → Option (Entries × List Char)
  | 0, _, _ => none
  | fuel + 1, entries, text => do
    let ((path, key, value), rest) ← pair? value? text
    let entries ← entries.insertDotted value path.isEmpty .inline path key
    match skipWhite rest with
    | '\x7d' :: rest => return (entries, rest)
    | ',' :: rest => inlineEntries? value? fuel entries rest
    | _ => none

/-- A value of any kind.  Arrays and tables can be nested `depth` times. -/
def value? : Nat → ValueReader
  | 0, text => (string? text).elim (scalar? text) fun (content, rest) => some (.text content, rest)
  | depth + 1, text =>
    match text with
    | '[' :: rest => (items? (value? depth) text.length rest).map fun (items, rest) =>
      (.list items, rest)
    | '\x7b' :: rest =>
      match skipWhite rest with
      | '\x7d' :: rest => some (.table .inline [], rest)
      | rest => (inlineEntries? (value? depth) text.length [] rest).map fun (entries, rest) =>
        (.table .inline entries, rest)
    | '"' :: _ => (string? text).map fun (content, rest) => (.text content, rest)
    | '\'' :: _ => (string? text).map fun (content, rest) => (.text content, rest)
    | _ => scalar? text

/-- A line of a document. -/
inductive Statement where
  | table (path : List String) (key : String)
  | element (path : List String) (key : String)
  | pair (path : List String) (key : String) (value : Value)

/-- A statement, and the rest of the text behind its line. -/
def statement? (text : List Char) : Option (Statement × List Char) :=
  match text with
  | '[' :: '[' :: rest => do
    let ((path, key), rest) ← key? rest
    return (.element path key, ← finishLine false (← expect ']' (← expect ']' rest)))
  | '[' :: rest => do
    let ((path, key), rest) ← key? rest
    return (.table path key, ← finishLine false (← expect ']' rest))
  | text => do
    let ((path, key, value), rest) ← pair? (value? maxNesting) text
    return (.pair path key value, ← finishLine false rest)

/-- The statements of a text.  Each takes a character, so the length of the text is
enough `fuel`. -/
def statements? : Nat → List Char → Option (List Statement)
  | 0, _ => none
  | fuel + 1, text => do
    match ← skipFiller false text with
    | [] => return []
    | text => do
      let (statement, rest) ← statement? text
      return statement :: (← statements? fuel rest)

/-- A document that is being read: its entries, and the keys of the last header. -/
structure Document where
  entries : Entries
  header : List String

namespace Document

/-- Enters a statement. -/
def enter (document : Document) : Statement → Option Document
  | .table path key => do
    let entries ← document.entries.descend (Entries.openTable key) path
    return ⟨entries, path ++ [key]⟩
  | .element path key => do
    let entries ← document.entries.descend (Entries.openElement key) path
    return ⟨entries, path ++ [key]⟩
  | .pair path key value => do
    let insert (entries : Entries) := entries.insertDotted value path.isEmpty .header path key
    return { document with entries := ← document.entries.descend insert document.header }

end Document

/-- The text without a mark of its byte order. -/
def dropMark : List Char → List Char
  | '\uFEFF' :: rest => rest
  | text => text

/-- The table that a text describes. -/
def parse? (text : String) : Option Value := do
  let chars := dropMark text.toList
  let statements ← statements? (chars.length + 1) chars
  let document ← statements.foldlM Document.enter ⟨[], []⟩
  return .table .header document.entries

end HeaderSynth.Toml
