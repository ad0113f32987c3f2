import HeaderSynth.Text.Affix
import HeaderSynth.Text.DoubleRange
import HeaderSynth.Text.Hex
import HeaderSynth.Toml.Value

/-!
# TOML scalars

Numbers, dates and times.  Each of them is one run of characters, except that a
blank can stand between a date and a time.
-/

namespace HeaderSynth.Toml

def isScalarChar (c : Char) : Bool :=
  c.isAlphanum || c = '+' || c = '-' || c = '_' || c = '.' || c = ':'

/-- The digits of a run in which underscores stand only between digits. -/
def plainDigits? (isDigit : Char → Bool) : List Char → Option (List Char)
  | [] => none
  | [c] => if isDigit c then some [c] else none
  | c :: '_' :: rest => if isDigit c then (plainDigits? isDigit rest).map (c :: ·) else none
  | c :: rest => if isDigit c then (plainDigits? isDigit rest).map (c :: ·) else none

def isHexDigit (c : Char) : Bool :=
  (Text.hexValue? c).isSome

def isDigitBelow (base : Nat) (c : Char) : Bool :=
  c.isDigit && c.toNat - '0'.toNat < base

def numberOf (base : Nat) (digits : List Char) : Nat :=
  digits.foldl (fun n c => n * base + (Text.hexValue? c).getD 0) 0

/-- The sign and the rest of a number. -/
def splitSign : List Char → Bool × List Char
  | '-' :: rest => (true, rest)
  | '+' :: rest => (false, rest)
  | text => (false, text)

/-- The digits of a decimal whole number, which begins with a zero only if it is one. -/
def wholeDigits? (text : List Char) : Option (List Char) :=
  match plainDigits? Char.isDigit text with
  | some ['0'] => some ['0']
  | some ('0' :: _) => none
  | other => other

/-- Integers have 64 bits; this is the first number above them. -/
def integerLimit : Nat := 0x8000000000000000

def isInteger (text : List Char) : Bool :=
  match text with
  | '0' :: 'x' :: rest => (plainDigits? isHexDigit rest).any (numberOf 16 · < integerLimit)
  | '0' :: 'o' :: rest => (plainDigits? (isDigitBelow 8) rest).any (numberOf 8 · < integerLimit)
  | '0' :: 'b' :: rest => (plainDigits? (isDigitBelow 2) rest).any (numberOf 2 · < integerLimit)
  | _ =>
    let (negative, rest) := splitSign text
    (wholeDigits? rest).any fun digits =>
      if negative then numberOf 10 digits ≤ integerLimit else numberOf 10 digits < integerLimit

/-- The two sides of the first character that satisfies `stop`. -/
def splitBefore (stop : Char → Bool) (text : List Char) : List Char × Option (List Char) :=
  (text.takeWhile (!stop ·), (text.dropWhile (!stop ·)).tail?)

/-- The value of an exponent. -/
def exponent? (text : List Char) : Option Int :=
  let (negative, rest) := splitSign text
  (plainDigits? Char.isDigit rest).map fun digits =>
    let n : Int := numberOf 10 digits
    if negative then -n else n

/-- A number with a fraction or an exponent.  A positive one must be in the range of a
double. -/
def isFraction (text : List Char) : Bool :=
  let (negative, rest) := splitSign text
  let (mantissa, exponent) := splitBefore (fun c => c = 'e' || c = 'E') rest
  let (whole, fraction) := splitBefore (· = '.') mantissa
  let digits? := do
    let whole ← wholeDigits? whole
    match fraction with
    | some fraction =>
      let fraction ← plainDigits? Char.isDigit fraction
      return (whole ++ fraction, fraction.length)
    | none => if exponent.isSome then return (whole, 0) else none
  match digits?, exponent.elim (some 0) exponent? with
  | some (digits, places), some power =>
    negative || Text.isFiniteRounded (numberOf 10 digits) (power - places)
  | _, _ => false

def isSpecialNumber (text : List Char) : Bool :=
  let (_, rest) := splitSign text
  rest = "inf".toList || rest = "nan".toList

/-- A number of exactly `width` digits. -/
def fixedNumber? (width : Nat) (text : List Char) : Option Nat :=
  if text.length = width && text.all Char.isDigit then some (numberOf 10 text) else none

def isLeapYear (year : Nat) : Bool :=
  year % 4 = 0 && (year % 100 ≠ 0 || year % 400 = 0)

def daysIn (year month : Nat) : Nat :=
  if month = 2 then (if isLeapYear year then 29 else 28)
  else if [4, 6, 9, 11].contains month then 30
  else 31

def isDate (text : List Char) : Bool :=
  match Text.splitAt '-' text with
  | [year, month, day] =>
    match fixedNumber? 4 year, fixedNumber? 2 month, fixedNumber? 2 day with
    | some year, some month, some day =>
      1 ≤ month && month ≤ 12 && 1 ≤ day && day ≤ daysIn year month
    | _, _, _ => false
  | _ => false

def isBelow (width limit : Nat) (text : List Char) : Bool :=
  (fixedNumber? width text).any (· < limit)

/-- A minute can have a leap second. -/
def isSecond (text : List Char) : Bool :=
  match splitBefore (· = '.') text with
  | (second, none) => isBelow 2 61 second
  | (second, some places) => isBelow 2 61 second && !places.isEmpty && places.all Char.isDigit

def isTime (text : List Char) : Bool :=
  match Text.splitAt ':' text with
  | [hour, minute, second] => isBelow 2 24 hour && isBelow 2 60 minute && isSecond second
  | _ => false

/-- The distance from universal time: a letter, or hours and minutes. -/
def isOffset (text : List Char) : Bool :=
  match text with
  | ['Z'] => true
  | ['z'] => true
  | sign :: rest =>
    (sign = '+' || sign = '-') &&
      match Text.splitAt ':' rest with
      | [hour, minute] => isBelow 2 24 hour && isBelow 2 60 minute
      | _ => false
  | [] => false

/-- A time, perhaps with its distance from universal time. -/
def isZonedTime (text : List Char) : Bool :=
  let isMark (c : Char) := c = 'Z' || c = 'z' || c = '+' || c = '-'
  let time := text.takeWhile (!isMark ·)
  let offset := text.dropWhile (!isMark ·)
  isTime time && (offset.isEmpty || isOffset offset)

def isDateTime (text : List Char) : Bool :=
  match text.drop 10 with
  | mark :: time => (mark = 'T' || mark = 't') && isDate (text.take 10) && isZonedTime time
  | [] => false

/-- The value of a run of characters. -/
def scalarOf? (text : List Char) : Option Value :=
  if text = "true".toList then some (.truth true)
  else if text = "false".toList then some (.truth false)
  else if isInteger text || isFraction text || isSpecialNumber text then some .number
  else if isDate text || isTime text || isDateTime text then some .moment
  else none

/-- A scalar, and the rest of the text. -/
def scalar? (text : List Char) : Option (Value × List Char) :=
  let run := text.takeWhile isScalarChar
  let rest := text.dropWhile isScalarChar
  let dated? : Option (Value × List Char) :=
    match rest with
    | ' ' :: after =>
      let time := after.takeWhile isScalarChar
      if isDate run && isZonedTime time then some (.moment, after.dropWhile isScalarChar) else none
    | _ => none
  dated?.or ((scalarOf? run).map (·, rest))

end HeaderSynth.Toml
