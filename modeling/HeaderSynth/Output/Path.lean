import HeaderSynth.Text.Affix

/-!
# Paths

A path is a text with slashes.  Joining keeps it as it is written; two paths are
the same when their components are.
-/

namespace HeaderSynth.Path

def isAbsolute (path : String) : Bool :=
  Text.hasPrefix "/" path

/-- Appends a path.  An absolute one replaces what stands before it. -/
def join (first second : String) : String :=
  if isAbsolute second then second
  else if first.isEmpty || Text.hasSuffix "/" first then first ++ second
  else first ++ "/" ++ second

/-- A part of a path between slashes. -/
inductive Component where
  | root
  /-- A leading dot; others have no meaning. -/
  | here
  | parent
  | name (text : String)
deriving DecidableEq, Repr

/-- The component of a piece that is not at the beginning. -/
def component? (piece : List Char) : Option Component :=
  if piece = [] ∨ piece = ['.'] then none
  else if piece = ['.', '.'] then some .parent
  else some (.name (String.ofList piece))

def components (path : String) : List Component :=
  match Text.splitAt '/' path.toList with
  | [] => []
  | first :: rest =>
    let start :=
      if first = [] then (if rest = [] then [] else [.root])
      else if first = ['.'] then [.here]
      else (component? first).toList
    start ++ rest.filterMap component?

/-- Whether two paths have the same components. -/
def same (first second : String) : Bool :=
  components first = components second

/-- Removes the pieces at the end that have no meaning.  The first piece always has one. -/
def trimPieces : List (List Char) → List (List Char)
  | [] => []
  | first :: rest =>
    first :: (rest.reverse.dropWhile fun piece => piece = [] || piece = ['.']).reverse

def joinPieces (pieces : List (List Char)) : String :=
  String.intercalate "/" (pieces.map String.ofList)

/-- The path without its last component, if it has one. -/
def parent? (path : String) : Option String :=
  match trimPieces (Text.splitAt '/' path.toList) with
  | [] => none
  | [[]] => none
  | [_] => some ""
  | pieces =>
    match trimPieces pieces.dropLast with
    | [[]] => some "/"
    | pieces => some (joinPieces pieces)

end HeaderSynth.Path
