import HeaderSynth.Cli.Commands

/-!
# The program

Runs the command line over the disk of the machine.
-/

namespace HeaderSynth.Cli

/-- The failure with a number that the system gives, with either sign. -/
def DiskError.ofCode (code : UInt32) (description : String) : DiskError :=
  match code.toInt32.toInt.natAbs with
  | 2 => .notFound
  | 17 => .alreadyExists
  | 20 => .notDirectory
  | 21 => .isDirectory
  | 22 => .invalidArgument
  | 36 => .nameTooLong
  | 39 => .notEmpty
  | number => .system description number

def DiskError.ofIO : IO.Error → DiskError
  | .alreadyExists _ code details => .ofCode code details
  | .otherError code details => .ofCode code details
  | .resourceBusy code details => .ofCode code details
  | .resourceVanished code details => .ofCode code details
  | .unsupportedOperation code details => .ofCode code details
  | .hardwareFault code details => .ofCode code details
  | .unsatisfiedConstraints code details => .ofCode code details
  | .illegalOperation code details => .ofCode code details
  | .protocolError code details => .ofCode code details
  | .timeExpired code details => .ofCode code details
  | .interrupted _ code details => .ofCode code details
  | .noFileOrDirectory _ code details => .ofCode code details
  | .invalidArgument _ code details => .ofCode code details
  | .permissionDenied _ code details => .ofCode code details
  | .resourceExhausted _ code details => .ofCode code details
  | .inappropriateType _ code details => .ofCode code details
  | .noSuchThing _ code details => .ofCode code details
  | .unexpectedEof => .notText
  | .userError details => .system details 0

/-- An operation of the machine with its failure as a value. -/
def attempt {α : Type} (operation : IO α) : IO (Except DiskError α) := do
  match ← operation.toBaseIO with
  | .ok value => return .ok value
  | .error error => return .error (.ofIO error)

/-- The text of a file. -/
def readTextFile (path : String) : IO (Except DiskError String) := do
  match ← attempt (IO.FS.readBinFile path) with
  | .error error => return .error error
  | .ok bytes =>
    match String.fromUTF8? bytes with
    | some text => return .ok text
    | none => return .error .notText

def canOpen (path : String) : IO Bool := do
  return (← (IO.FS.Handle.mk path .read).toBaseIO).toBool

/-- Removes all that is in a directory, found by its real path: the given one may lead
through the content. -/
def emptyDirectory (path : String) : IO Unit := do
  let place ← IO.FS.realPath path
  for entry in ← place.readDir do
    if (← entry.path.symlinkMetadata).type == .dir then IO.FS.removeDirAll entry.path
    else IO.FS.removeFile entry.path

/-- Removes a directory.  A path that led through its content leads nowhere afterwards,
and that is no failure. -/
def removeDirectory (path : String) : IO (Except DiskError Unit) := do
  match ← attempt (emptyDirectory path) with
  | .error error => return .error error
  | .ok () =>
    match ← attempt (IO.FS.removeDir path) with
    | .error .notFound => return .ok ()
    | result => return result

/-- The disk of the machine. -/
def machineDisk : Disk IO where
  readText := readTextFile
  isPresent := canOpen
  isDirectory path := canOpen (Path.join path ".")
  removeTree := removeDirectory
  createDirectory path := attempt (IO.FS.createDir path)
  writeText path text := attempt (IO.FS.writeFile path text)

end HeaderSynth.Cli

open HeaderSynth.Cli in
/-- Runs the program and ends with its exit code. -/
def main (arguments : List String) : IO UInt32 := do
  let environment : Environment := {
    noColor := ← IO.getEnv "NO_COLOR"
    terminal := ← IO.getEnv "TERM" }
  let outcome ← runProgram machineDisk environment arguments
  IO.print outcome.output
  IO.eprint outcome.errors
  return outcome.exitCode.toUInt32
