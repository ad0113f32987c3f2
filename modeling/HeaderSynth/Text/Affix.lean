/-!
# Prefixes, suffixes and blanks of texts

Names and packages are cut at fixed markers, and blanks are cut off the two ends of a
text.  The cuts work on the list of characters, so that each of them is one equation on
lists.
-/

namespace HeaderSynth.Text

/-- What follows `start` in `text`, if `text` begins with `start`. -/
def afterPrefix? (start text : String) : Option String :=
  (start.toList.isPrefixOf? text.toList).map String.ofList

/-- What precedes `ending` in `text`, if `text` ends with `ending`. -/
def beforeSuffix? (ending text : String) : Option String :=
  (ending.toList.isSuffixOf? text.toList).map String.ofList

def hasPrefix (start text : String) : Bool :=
  start.toList.isPrefixOf text.toList

def hasSuffix (ending text : String) : Bool :=
  ending.toList.isSuffixOf text.toList

/-- The characters after the first `::`, if there is one. -/
def afterScope? : List Char → Option (List Char)
  | ':' :: ':' :: rest => some rest
  | _ :: rest => afterScope? rest
  | [] => none

/-- Whether `part` stands somewhere in `text`. -/
def hasInfix (part : List Char) : List Char → Bool
  | [] => part.isEmpty
  | c :: rest => part.isPrefixOf (c :: rest) || hasInfix part rest

/-- The pieces of `text` between the occurrences of `separator`; a text without
it is one piece. -/
def splitAt (separator : Char) : List Char → List (List Char)
  | [] => [[]]
  | c :: rest =>
    if c = separator then [] :: splitAt separator rest
    else
      match splitAt separator rest with
      | [] => [[c]]
      | piece :: pieces => (c :: piece) :: pieces

/-- `text` followed by spaces up to `width` characters. -/
def padRight (width : Nat) (text : String) : String :=
  text ++ String.ofList (List.replicate (width - text.length) ' ')

theorem splitAt_ne_nil (separator : Char) (text : List Char) :
    splitAt separator text ≠ [] := by
  cases text with
  | nil => simp [splitAt]
  | cons c rest =>
    simp only [splitAt]
    split
    · simp
    · split <;> simp

/-- Whether a character has the property `White_Space`. -/
def isBlank (c : Char) : Bool :=
  let n := c.toNat
  (0x09 ≤ n && n ≤ 0x0D) || n == 0x20 || n == 0x85 || n == 0xA0 || n == 0x1680 ||
    (0x2000 ≤ n && n ≤ 0x200A) || n == 0x2028 || n == 0x2029 || n == 0x202F ||
    n == 0x205F || n == 0x3000

/-- `text` without the blank characters at its two ends. -/
def trim (text : List Char) : List Char :=
  ((text.dropWhile isBlank).reverse.dropWhile isBlank).reverse

/-- A text is blank when nothing remains after trimming. -/
def isBlankText (text : String) : Bool :=
  text.toList.all isBlank

end HeaderSynth.Text
