import HeaderSynth.Text.Hex

/-!
# Escapes in JSON strings

`escape` writes the inside of a string literal and `unescape` reads one.  A
quote, a backslash and the control characters are escaped; everything else
stands for itself.
-/

namespace HeaderSynth.Json

/-- One character as it stands inside a string literal. -/
def escapeChar (c : Char) : List Char :=
  if c = '"' then ['\\', '"']
  else if c = '\\' then ['\\', '\\']
  else if c = '\n' then ['\\', 'n']
  else if c = '\r' then ['\\', 'r']
  else if c = '\t' then ['\\', 't']
  else if c = '\x08' then ['\\', 'b']
  else if c = '\x0c' then ['\\', 'f']
  else if c.toNat < 0x20 then '\\' :: 'u' :: Text.hexWord .lower 4 c.toNat
  else [c]

def escape (text : List Char) : List Char :=
  text.flatMap escapeChar

def isHighSurrogate (n : Nat) : Bool :=
  0xD800 ≤ n && n < 0xDC00

def isLowSurrogate (n : Nat) : Bool :=
  0xDC00 ≤ n && n < 0xE000

/-- The character of a surrogate pair. -/
def pairChar (high low : Nat) : Char :=
  Char.ofNat (0x10000 + (high - 0xD800) * 0x400 + (low - 0xDC00))

/-- The character of an escape of one letter. -/
def shortEscape? (c : Char) : Option Char :=
  match c with
  | '"' => some '"'
  | '\\' => some '\\'
  | '/' => some '/'
  | 'b' => some '\x08'
  | 'f' => some '\x0c'
  | 'n' => some '\n'
  | 'r' => some '\r'
  | 't' => some '\t'
  | _ => none

/-- The code units of a string literal; surrogates are left as numbers.  A control
character, an unknown escape and a truncated one are refused. -/
def codeUnits : List Char → Option (List (Char ⊕ Nat))
  | [] => some []
  | '\\' :: 'u' :: a :: b :: c :: d :: rest => do
    let n ← Text.hexNumber? [a, b, c, d]
    let units ← codeUnits rest
    return (if isHighSurrogate n || isLowSurrogate n then .inr n else .inl (Char.ofNat n)) :: units
  | '\\' :: c :: rest => do
    let char ← shortEscape? c
    let units ← codeUnits rest
    return .inl char :: units
  | c :: rest =>
    if c = '\\' ∨ c.toNat < 0x20 then none
    else (codeUnits rest).map (.inl c :: ·)

/-- Joins the surrogate pairs; a surrogate without partner leaves no text. -/
def joinSurrogates : List (Char ⊕ Nat) → Option (List Char)
  | [] => some []
  | .inl c :: rest => (joinSurrogates rest).map (c :: ·)
  | .inr high :: .inr low :: rest =>
    if isHighSurrogate high && isLowSurrogate low then
      (joinSurrogates rest).map (pairChar high low :: ·)
    else none
  | .inr _ :: _ => none

end HeaderSynth.Json
