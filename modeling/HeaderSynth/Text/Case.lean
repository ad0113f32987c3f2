import HeaderSynth.Text.CaseTable

/-!
# Letter case

Full case conversion: a character may become several, and a capital sigma
that ends a word becomes the final form.
-/

namespace HeaderSynth.Text

def CaseRun.holds (run : CaseRun) (n : Nat) : Bool :=
  run.first ≤ n && n ≤ run.last && (n - run.first) % run.step == 0

/-- The conversion of one character: a sequence, a partner, or the character
itself.  The tables are in ascending order, so what begins beyond the character is
not searched. -/
def convertCase (sequences : List (Nat × List Nat)) (runs : List CaseRun) (c : Char) :
    List Char :=
  let n := c.toNat
  match (sequences.takeWhile (·.1 ≤ n)).lookup n with
  | some form => form.map Char.ofNat
  | none =>
    match (runs.takeWhile (·.first ≤ n)).find? (·.holds n) with
    | some run => [Char.ofNat (n + run.offset).toNat]
    | none => [c]

def upperChar (c : Char) : List Char :=
  convertCase upperSequences upperRuns c

def lowerChar (c : Char) : List Char :=
  convertCase lowerSequences lowerRuns c

def inRanges (ranges : List (Nat × Nat)) (c : Char) : Bool :=
  ranges.any fun (low, high) => low ≤ c.toNat && c.toNat ≤ high

/-- Whether the first character that case does not ignore is a cased one. -/
def meetsCased (text : List Char) : Bool :=
  match text.dropWhile (inRanges caseIgnorableRanges) with
  | [] => false
  | c :: _ => inRanges casedRanges c

/-- Lower case of `text`, which stands after `passed` (nearest character
first).  A capital sigma is final when a cased letter stands before it and
none after it. -/
def lowerAfter (passed : List Char) : List Char → List Char
  | [] => []
  | c :: rest =>
    let form :=
      if c = 'Σ' then
        if meetsCased passed && !meetsCased rest then ['ς'] else ['σ']
      else lowerChar c
    form ++ lowerAfter (c :: passed) rest

def toUpper (text : String) : String :=
  String.ofList (text.toList.flatMap upperChar)

def toLower (text : String) : String :=
  String.ofList (lowerAfter [] text.toList)

/-- `text` with its first character in upper case. -/
def capitalize (text : String) : String :=
  match text.toList with
  | [] => ""
  | c :: rest => String.ofList (upperChar c ++ rest)

end HeaderSynth.Text
