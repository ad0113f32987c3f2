/-!
# Hexadecimal text

Digits, fixed-width words and byte strings in base sixteen.  Reading accepts
both letter cases; writing uses the one that each output asks for.
-/

namespace HeaderSynth.Text

/-- The letters that stand for ten to fifteen. -/
inductive HexCase where
  | lower
  | upper
deriving DecidableEq, Repr

/-- The digit of a value below sixteen. -/
def hexDigit (letters : HexCase) (n : Nat) : Char :=
  if n < 10 then Char.ofNat (0x30 + n)
  else
    match letters with
    | .lower => Char.ofNat (0x61 + (n - 10))
    | .upper => Char.ofNat (0x41 + (n - 10))

/-- The value of a digit of either case. -/
def hexValue? (c : Char) : Option Nat :=
  let n := c.toNat
  if 0x30 ≤ n ∧ n ≤ 0x39 then some (n - 0x30)
  else if 0x61 ≤ n ∧ n ≤ 0x66 then some (n - 0x61 + 10)
  else if 0x41 ≤ n ∧ n ≤ 0x46 then some (n - 0x41 + 10)
  else none

/-- Exactly `width` digits, the high ones first; higher digits are dropped. -/
def hexWord (letters : HexCase) : Nat → Nat → List Char
  | 0, _ => []
  | width + 1, n => hexWord letters width (n / 16) ++ [hexDigit letters (n % 16)]

/-- The value of a run of digits. -/
def hexNumber? (digits : List Char) : Option Nat :=
  digits.foldlM (fun n c => (hexValue? c).map (16 * n + ·)) 0

/-- The digits of a number without leading zeros; zero is `0`. -/
def hexDigits (letters : HexCase) (n : Nat) : List Char :=
  if n < 16 then [hexDigit letters n]
  else hexDigits letters (n / 16) ++ [hexDigit letters (n % 16)]

/-- Two lower-case digits per byte. -/
def hexOfBytes (bytes : List UInt8) : List Char :=
  bytes.flatMap fun byte => hexWord .lower 2 byte.toNat

/-- The bytes of a text of digit pairs. -/
def bytesOfHex? : List Char → Option (List UInt8)
  | [] => some []
  | [_] => none
  | high :: low :: rest => do
    let h ← hexValue? high
    let l ← hexValue? low
    let bytes ← bytesOfHex? rest
    return UInt8.ofNat (16 * h + l) :: bytes

end HeaderSynth.Text
