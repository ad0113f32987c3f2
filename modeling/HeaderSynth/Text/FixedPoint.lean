/-!
# Binary floating point numbers with a fixed number of decimal places

A floating point number is taken apart into its exact value, a whole number
times a power of two.  Writing it with a fixed number of decimal places rounds
that value to the nearest multiple, and a half to the even neighbour.
-/

namespace HeaderSynth.Text

/-- The layout of a binary floating point number. -/
structure FloatLayout where
  exponentBits : Nat
  fractionBits : Nat

def FloatLayout.single : FloatLayout := ⟨8, 23⟩

def FloatLayout.double : FloatLayout := ⟨11, 52⟩

/-- The value of a floating point number; a finite one is `magnitude` times two
to `exponent`. -/
inductive FloatValue where
  | finite (negative : Bool) (magnitude : Nat) (exponent : Int)
  | infinite (negative : Bool)
  | notANumber
deriving DecidableEq, Repr

/-- The value of a bit pattern. -/
def FloatLayout.decode (layout : FloatLayout) (bits : Nat) : FloatValue :=
  let fractions := Nat.pow 2 layout.fractionBits
  let exponents := Nat.pow 2 layout.exponentBits
  let fraction := bits % fractions
  let exponent := bits / fractions % exponents
  let negative := bits / (fractions * exponents) % 2 == 1
  let bias : Int := exponents / 2 - 1 + layout.fractionBits
  if exponent = exponents - 1 then
    if fraction = 0 then .infinite negative else .notANumber
  else if exponent = 0 then .finite negative fraction (1 - bias)
  else .finite negative (fraction + fractions) (exponent - bias)

/-- The whole number nearest to `numerator / denominator`; a half goes to the even
neighbour. -/
def roundHalfEven (numerator denominator : Nat) : Nat :=
  let quotient := numerator / denominator
  let rest := numerator % denominator
  if 2 * rest < denominator then quotient
  else if denominator < 2 * rest then quotient + 1
  else quotient + quotient % 2

/-- `magnitude` times two to `exponent`, in units of ten to minus `places`. -/
def scaledDecimal (places magnitude : Nat) : Int → Nat
  | .ofNat up => magnitude * Nat.pow 10 places * Nat.pow 2 up
  | .negSucc down => roundHalfEven (magnitude * Nat.pow 10 places) (Nat.pow 2 (down + 1))

/-- Exactly `width` decimal digits; higher ones are dropped. -/
def decimalWord : Nat → Nat → List Char
  | 0, _ => []
  | width + 1, n => decimalWord width (n / 10) ++ [Char.ofNat (0x30 + n % 10)]

/-- A finite value with `places` decimal places, or nothing.  The sign of a
negative value stays, also where all digits are zero. -/
def FloatValue.fixed? (places : Nat) : FloatValue → Option String
  | .finite negative magnitude exponent =>
    let scaled := scaledDecimal places magnitude exponent
    some ((if negative then "-" else "") ++ toString (scaled / Nat.pow 10 places) ++ "." ++
      String.ofList (decimalWord places scaled))
  | _ => none

/-- The name of a value that is no finite number. -/
def FloatValue.special : FloatValue → String
  | .infinite false => "inf"
  | .infinite true => "-inf"
  | .notANumber => "NaN"
  | .finite .. => ""

end HeaderSynth.Text
