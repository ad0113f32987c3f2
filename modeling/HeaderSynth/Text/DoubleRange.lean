import HeaderSynth.Text.FixedPoint

/-!
# The range of double precision

Whether a decimal number, `digits` times ten to `exponent`, has a finite double.
There are two readings of such a number.  The exact one rounds the number itself,
once.  The stepwise one rounds the leading digits and the power of ten before it
multiplies them, so near the limit the two can differ.
-/

namespace HeaderSynth.Text

/-- The least magnitude that rounds to an infinite double. -/
def doubleLimit : Nat := Nat.pow 2 1024 - Nat.pow 2 970

/-- The largest power of ten with a finite double. -/
def maxDecimalPower : Nat := 308

/-- The double nearest to a whole number, as if its exponent had no bound; a half goes to
the even neighbour. -/
def nearestDouble (n : Nat) : Nat :=
  let unit := Nat.pow 2 (n.log2 - FloatLayout.double.fractionBits)
  roundHalfEven n unit * unit

/-- The leading digits of a number that fit in a word of 64 bits, and how many digits follow
them. -/
def leadingWord (n : Nat) : Nat × Nat :=
  if n < UInt64.size then (n, 0)
  else
    let (word, following) := leadingWord (n / 10)
    (word, following + 1)
termination_by n
decreasing_by
  have : 0 < UInt64.size := by decide
  omega

/-- Whether the number rounds to a finite double.  Exponents beyond the range of any
double are settled by the number of digits. -/
def isFiniteRounded (digits : Nat) (exponent : Int) : Bool :=
  let length := (Nat.toDigits 10 digits).length
  if digits = 0 then true
  else if exponent + length > 310 then false
  else if exponent + length < 300 then true
  else
    match exponent with
    | .ofNat up => digits * Nat.pow 10 up < doubleLimit
    | .negSucc down => digits < doubleLimit * Nat.pow 10 (down + 1)

/-- Whether the leading digits times their power of ten, each rounded to a double, stay
finite.  A negative power divides and so never leaves the range. -/
def isFiniteStepwise (digits : Nat) (exponent : Int) : Bool :=
  let (word, following) := leadingWord digits
  match exponent + following with
  | .negSucc _ => true
  | .ofNat power =>
    word == 0 ||
      (power ≤ maxDecimalPower &&
        nearestDouble word * nearestDouble (Nat.pow 10 power) < doubleLimit)

end HeaderSynth.Text
