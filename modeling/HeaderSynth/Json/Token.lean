import HeaderSynth.Json.Basic
import HeaderSynth.Json.Escape

/-!
# JSON tokens

The scanner is a machine that takes one character at a time.  It collects the
inside of a string literal as it is written, and any other run of characters
up to a blank or a delimiter as one word; only a finished literal or word is
looked into.
-/

namespace HeaderSynth.Json

/-- A token of a JSON text. -/
inductive Token where
  | openArray
  | closeArray
  | openObject
  | closeObject
  | comma
  | colon
  /-- A string literal, with its text if its escapes denote one. -/
  | text (value : Option String)
  /-- A literal name or a number. -/
  | scalar (value : Json)
deriving Repr

def isDigit (c : Char) : Bool :=
  '0' ≤ c && c ≤ '9'

/-- The value of a run of decimal digits. -/
def decimalValue (digits : List Char) : Nat :=
  digits.foldl (fun n c => 10 * n + (c.toNat - 0x30)) 0

/-- A nonempty run of digits. -/
def digits? (text : List Char) : Option Nat :=
  if !text.isEmpty && text.all isDigit then some (decimalValue text) else none

/-- An exponent: digits with an optional sign. -/
def exponent? : List Char → Option Int
  | '+' :: rest => (digits? rest).map Int.ofNat
  | '-' :: rest => (digits? rest).map fun n => -(n : Int)
  | rest => (digits? rest).map Int.ofNat

/-- A number without its sign: digits without a needless leading zero, then an
optional fraction, then an optional exponent. -/
def unsignedNumber? (negative : Bool) (text : List Char) : Option Json := do
  let whole := text.takeWhile isDigit
  let rest := text.dropWhile isDigit
  let wholeValue ← digits? whole
  if whole.head? = some '0' && whole.length ≠ 1 then none
  match rest with
  | [] =>
    if negative && wholeValue == 0 then return .decimal ⟨true, 0, 0⟩
    else return .integer (if negative then -(wholeValue : Int) else wholeValue)
  | '.' :: rest =>
    let fraction := rest.takeWhile isDigit
    let _ ← digits? fraction
    let digits := decimalValue (whole ++ fraction)
    match rest.dropWhile isDigit with
    | [] => return .decimal ⟨negative, digits, -(fraction.length : Int)⟩
    | e :: power =>
      if e ≠ 'e' ∧ e ≠ 'E' then none
      let power ← exponent? power
      return .decimal ⟨negative, digits, power - fraction.length⟩
  | e :: power =>
    if e ≠ 'e' ∧ e ≠ 'E' then none
    let power ← exponent? power
    return .decimal ⟨negative, wholeValue, power⟩

def number? : List Char → Option Json
  | '-' :: rest => unsignedNumber? true rest
  | rest => unsignedNumber? false rest

/-- The value that a word stands for. -/
def word? (word : List Char) : Option Json :=
  if word = ['n', 'u', 'l', 'l'] then some .null
  else if word = ['t', 'r', 'u', 'e'] then some (.bool true)
  else if word = ['f', 'a', 'l', 's', 'e'] then some (.bool false)
  else number? word

/-- Blanks between tokens. -/
def isGap (c : Char) : Bool :=
  c = ' ' || c = '\n' || c = '\r' || c = '\t'

def delimiter? (c : Char) : Option Token :=
  match c with
  | '[' => some .openArray
  | ']' => some .closeArray
  | '{' => some .openObject
  | '}' => some .closeObject
  | ',' => some .comma
  | ':' => some .colon
  | _ => none

/-- Where the scanner stands.  What it has collected is kept in reverse. -/
inductive Scan where
  | between
  | word (collected : List Char)
  | literal (collected : List Char)
  | escaped (collected : List Char)
deriving Repr

def literalToken? (collected : List Char) : Option Token :=
  (codeUnits collected.reverse).map fun units =>
    .text ((joinSurrogates units).map String.ofList)

def wordToken? (collected : List Char) : Option Token :=
  (word? collected.reverse).map .scalar

/-- Scans a text from a state.  The end of the text ends a word, and nothing
else may be open there. -/
def scan : Scan → List Char → Option (List Token)
  | .between, [] => some []
  | .word collected, [] => (wordToken? collected).map fun token => [token]
  | .literal _, [] => none
  | .escaped _, [] => none
  | .between, c :: rest =>
    if isGap c then scan .between rest
    else if c = '"' then scan (.literal []) rest
    else
      match delimiter? c with
      | some token => (scan .between rest).map (token :: ·)
      | none => scan (.word [c]) rest
  | .word collected, c :: rest =>
    if isGap c then do
      let token ← wordToken? collected
      let tokens ← scan .between rest
      return token :: tokens
    else if c = '"' then none
    else
      match delimiter? c with
      | some delimiter => do
        let token ← wordToken? collected
        let tokens ← scan .between rest
        return token :: delimiter :: tokens
      | none => scan (.word (c :: collected)) rest
  | .literal collected, c :: rest =>
    if c = '"' then do
      let token ← literalToken? collected
      let tokens ← scan .between rest
      return token :: tokens
    else if c = '\\' then scan (.escaped (c :: collected)) rest
    else scan (.literal (c :: collected)) rest
  | .escaped collected, c :: rest => scan (.literal (c :: collected)) rest

/-- The tokens of a text. -/
def tokens? (text : List Char) : Option (List Token) :=
  scan .between text

end HeaderSynth.Json
