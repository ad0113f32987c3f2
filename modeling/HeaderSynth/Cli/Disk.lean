import HeaderSynth.Output.Path

/-!
# Disks

What the commands need of a file system.  They run over any disk: the one of the
machine, or one in memory.
-/

namespace HeaderSynth.Cli

/-- Why a file operation fails. -/
inductive DiskError where
  | notFound
  | alreadyExists
  | notDirectory
  | isDirectory
  | invalidArgument
  | nameTooLong
  | notEmpty
  /-- A path with a character that no file name can have. -/
  | nullInPath
  /-- A file that is not UTF-8. -/
  | notText
  /-- Any other failure of the system. -/
  | system (description : String) (code : Nat)
deriving DecidableEq, Repr

def systemMessage (description : String) (code : Nat) : String :=
  s!"{description} (os error {code})"

def DiskError.message : DiskError → String
  | .notFound => systemMessage "No such file or directory" 2
  | .alreadyExists => systemMessage "File exists" 17
  | .notDirectory => systemMessage "Not a directory" 20
  | .isDirectory => systemMessage "Is a directory" 21
  | .invalidArgument => systemMessage "Invalid argument" 22
  | .nameTooLong => systemMessage "File name too long" 36
  | .notEmpty => systemMessage "Directory not empty" 39
  | .nullInPath => "file name contained an unexpected NUL byte"
  | .notText => "stream did not contain valid UTF-8"
  | .system description code => systemMessage description code

/-- The file operations of a disk. -/
structure Disk (m : Type → Type) where
  readText : String → m (Except DiskError String)
  isPresent : String → m Bool
  isDirectory : String → m Bool
  /-- Removes a directory with everything in it. -/
  removeTree : String → m (Except DiskError Unit)
  createDirectory : String → m (Except DiskError Unit)
  writeText : String → String → m (Except DiskError Unit)

namespace Disk

variable {m : Type → Type} [Monad m] (disk : Disk m)

/-- Creates a directory unless it is there. -/
def ensureDirectory (path : String) : m (Except DiskError Unit) := do
  match ← disk.createDirectory path with
  | .ok () => return .ok ()
  | .error cause => if ← disk.isDirectory path then return .ok () else return .error cause

/-- Creates a directory and, where its place is missing, first those around it.  Each
round shortens the path. -/
def createAround : Nat → String → m (Except DiskError Unit)
  | 0, _ => pure (.ok ())
  | fuel + 1, path => do
    if path = "" then return .ok ()
    match ← disk.ensureDirectory path, Path.parent? path with
    | .error .notFound, some parent => do
      match ← createAround fuel parent with
      | .ok () => disk.ensureDirectory path
      | .error cause => return .error cause
    | result, _ => return result

/-- Creates a directory and those around it, as far as they are missing. -/
def createDirectories (path : String) : m (Except DiskError Unit) :=
  disk.createAround (path.length + 1) path

end Disk

end HeaderSynth.Cli
