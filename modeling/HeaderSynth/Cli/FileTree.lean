import HeaderSynth.Cli.Disk
import HeaderSynth.Sorted.Order

/-!
# File trees

A disk in memory.  Places are lists of names from the root; relative paths begin at
a fixed directory.
-/

namespace HeaderSynth.Cli

/-- A directory or file, as the names on the way from the root. -/
abbrev Place := List String

structure FileTree where
  directories : List Place
  files : List (Place × String)
  /-- Where relative paths begin. -/
  workingDirectory : Place

/-- No file name has more bytes. -/
def maxNameBytes : Nat := 255

/-- No path has more bytes. -/
def maxPathBytes : Nat := 4095

namespace FileTree

/-- A tree with nothing but the directory `workingDirectory`. -/
def empty (workingDirectory : Place) : FileTree where
  directories := (List.range (workingDirectory.length + 1)).map workingDirectory.take
  files := []
  workingDirectory

def file? (tree : FileTree) (place : Place) : Option String :=
  tree.files.lookup place

def isDirectory (tree : FileTree) (place : Place) : Bool :=
  tree.directories.contains place

/-- One step of a walk.  The root is its own parent. -/
def step (place : Place) (piece : String) : Except DiskError Place :=
  if piece = "." then .ok place
  else if piece = ".." then .ok place.dropLast
  else if maxNameBytes < piece.utf8ByteSize then .error .nameTooLong
  else .ok (place ++ [piece])

/-- Walks along the pieces of a path.  All places but the last must be directories. -/
def walk (tree : FileTree) (place : Place) : List String → Except DiskError Place
  | [] => .ok place
  | [piece] => step place piece
  | piece :: rest => do
    let next ← step place piece
    if tree.isDirectory next then tree.walk next rest
    else if (tree.file? next).isSome then throw .notDirectory
    else throw .notFound

/-- The pieces of a path between its slashes. -/
def pieces (path : String) : List String :=
  ((Text.splitAt '/' path.toList).filter (· ≠ [])).map String.ofList

/-- The place that a path leads to.  A slash at the end asks for a directory. -/
def locate (tree : FileTree) (path : String) : Except DiskError Place :=
  if path.toList.contains '\x00' then .error .nullInPath
  else if maxPathBytes < path.utf8ByteSize then .error .nameTooLong
  else
    let start := if Path.isAbsolute path then [] else tree.workingDirectory
    let ending := if Text.hasSuffix "/" path then ["."] else []
    tree.walk start (pieces path ++ ending)

def readText (tree : FileTree) (path : String) : Except DiskError String := do
  let place ← tree.locate path
  if tree.isDirectory place then throw .isDirectory
  match tree.file? place with
  | some text => return text
  | none => throw .notFound

def isPresent (tree : FileTree) (path : String) : Bool :=
  match tree.locate path with
  | .ok place => tree.isDirectory place || (tree.file? place).isSome
  | .error _ => false

def isDirectoryPath (tree : FileTree) (path : String) : Bool :=
  match tree.locate path with
  | .ok place => tree.isDirectory place
  | .error _ => false

def createDirectory (path : String) (tree : FileTree) : FileTree × Except DiskError Unit :=
  match tree.locate path with
  | .error error => (tree, .error error)
  | .ok place =>
    if tree.isDirectory place || (tree.file? place).isSome then (tree, .error .alreadyExists)
    else ({ tree with directories := tree.directories ++ [place] }, .ok ())

/-- Everything outside a directory. -/
def without (tree : FileTree) (place : Place) : FileTree :=
  { tree with
    directories := tree.directories.filter fun other => !place.isPrefixOf other
    files := tree.files.filter fun other => !place.isPrefixOf other.1 }

/-- A tree in which a directory is empty. -/
def emptied (tree : FileTree) (place : Place) : FileTree :=
  let rest := tree.without place
  { rest with directories := rest.directories ++ [place] }

/-- Removes a directory, after all that is in it.  Its path is looked up once more
between the two: one that led through the content is gone by then, and that is no
failure.  A directory that is called by dots is emptied and stays. -/
def removeTree (path : String) (tree : FileTree) : FileTree × Except DiskError Unit :=
  match tree.locate path with
  | .error error => (tree, .error error)
  | .ok place =>
    if tree.isDirectory place then
      let emptied := tree.emptied place
      match emptied.locate path, (pieces path).getLast? with
      | .error _, _ => (emptied, .ok ())
      | .ok _, some "." => (emptied, .error .invalidArgument)
      | .ok _, some ".." => (emptied, .error .notEmpty)
      | .ok place, _ => (tree.without place, .ok ())
    else (tree, .error (if (tree.file? place).isSome then .notDirectory else .notFound))

def writeText (path text : String) (tree : FileTree) : FileTree × Except DiskError Unit :=
  match tree.locate path with
  | .error error => (tree, .error error)
  | .ok place =>
    if tree.isDirectory place then (tree, .error .isDirectory)
    else
      ({ tree with files := (place, text) :: tree.files.filter (·.1 ≠ place) }, .ok ())

/-- The order in which a tree is listed: directory by directory, names ascending. -/
def listedBefore : Place → Place → Bool
  | [], _ => true
  | _ :: _, [] => false
  | a :: place, b :: other => Ordered.before a b || (a = b && listedBefore place other)

/-- The files below a directory that relative paths reach, with their paths. -/
def filesBelow (tree : FileTree) (name : String) : List (String × String) :=
  let start := tree.workingDirectory ++ [name]
  let below := tree.files.filter fun file => start.isPrefixOf file.1 && file.1 ≠ start
  (below.mergeSort fun a b => listedBefore a.1 b.1).map fun (place, text) =>
    (String.intercalate "/" (place.drop tree.workingDirectory.length), text)

/-- The operations of a disk in memory. -/
def disk : Disk (StateM FileTree) where
  readText path := do return (← get).readText path
  isPresent path := do return (← get).isPresent path
  isDirectory path := do return (← get).isDirectoryPath path
  removeTree path := modifyGet fun tree => (tree.removeTree path).swap
  createDirectory path := modifyGet fun tree => (tree.createDirectory path).swap
  writeText path text := modifyGet fun tree => (tree.writeText path text).swap

/-- Puts a file at a path, with the directories around it. -/
def withFile (path text : String) (tree : FileTree) : FileTree :=
  let (_, tree) := (disk.createDirectories ((Path.parent? path).getD "")).run tree
  (tree.writeText path text).1

end FileTree

end HeaderSynth.Cli
