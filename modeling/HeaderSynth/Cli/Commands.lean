import HeaderSynth.Cli.Disk
import HeaderSynth.Cli.Request
import HeaderSynth.Cli.Style
import HeaderSynth.Config.Decoding
import HeaderSynth.Dump.Generate
import HeaderSynth.Reflection.Decoding

/-!
# Commands

`dump` writes the files of a snapshot, `inspect` lists them.  Both print what they
did; a failure prints its cause and nothing else.
-/

namespace HeaderSynth.Cli

/-- Why a command fails. -/
inductive CommandError where
  | unreadableSnapshot (path : String) (cause : DiskError)
  | rejectedSnapshot (path : String) (cause : SnapshotError)
  | unreadableConfig (path : String) (cause : DiskError)
  | rejectedConfig (path : String) (cause : ConfigError)
  | failedDump (snapshot : String) (cause : GenerateError)
  | failedPlan (cause : GenerateError)
  | failedWrite (path : String) (cause : DiskError)
deriving DecidableEq, Repr

/-- A failure and its causes, the outermost first.  A cause that its effect already
mentions stands there twice. -/
def CommandError.message : CommandError → String
  | .unreadableSnapshot path cause =>
    s!"failed to load snapshot {path}: Snapshot I/O failed: {cause.message}: {cause.message}"
  | .rejectedSnapshot path cause => s!"failed to load snapshot {path}: {cause.message}"
  | .unreadableConfig path cause =>
    s!"failed to read config {path}: Failed to read config file: {cause.message}: {cause.message}"
  | .rejectedConfig path cause => s!"failed to read config {path}: {cause.message}"
  | .failedDump snapshot cause => s!"dump of {snapshot} failed: {cause.message}"
  | .failedPlan cause => cause.message
  | .failedWrite path cause =>
    s!"failed to write output: Failed to write '{path}': {cause.message}: {cause.message}"

section

variable {m : Type → Type} [Monad m] (disk : Disk m)

/-- The graph of a snapshot file. -/
def loadSnapshot (path : String) : ExceptT CommandError m Graph := do
  match ← disk.readText path with
  | .error cause => throw (.unreadableSnapshot path cause)
  | .ok text => ExceptT.mk (pure ((Graph.ofText text).mapError (.rejectedSnapshot path)))

/-- The configuration of a file; without one everything has its default. -/
def loadConfig : Option String → ExceptT CommandError m Config
  | none => pure {}
  | some path => do
    match ← disk.readText path with
    | .error cause => throw (.unreadableConfig path cause)
    | .ok text => ExceptT.mk (pure ((Config.ofText text).mapError (.rejectedConfig path)))

/-- An operation on the disk that must succeed; `path` is named if it does not. -/
def demand (path : String) (operation : m (Except DiskError Unit)) : ExceptT CommandError m Unit := do
  match ← operation with
  | .ok () => pure ()
  | .error cause => throw (.failedWrite path cause)

/-- Writes one file below `root`. -/
def writeFile (root : String) (file : OutputFile) : ExceptT CommandError m Unit := do
  let path := Path.join root file.path
  match Path.parent? path with
  | some parent => demand parent (disk.createDirectories parent)
  | none => pure ()
  demand path (disk.writeText path file.contents)

/-- Writes files below `root`, which is removed first where `clean` asks for it. -/
def writeFiles (root : String) (clean : Bool) (files : List OutputFile) :
    ExceptT CommandError m Unit := do
  if clean then
    if ← disk.isPresent root then demand root (disk.removeTree root)
  files.forM (writeFile disk root)

end

def newLine : Span := .plain "\n"

/-- The line of a module and the modules it refers to. -/
def moduleLine (module : String) (references : SortedSet String) : List Span :=
  [.plain "  ", .bold module] ++
    (if references.isEmpty then []
    else [.plain (" -> " ++ String.intercalate ", " references.toList)]) ++
    [newLine]

/-- What `dump` prints. -/
def dumpReport (output : String) (dump : Dump) : List Span :=
  [.strong .green "Generated ", .bold (toString dump.files.length), .plain " files for ",
    .bold (toString dump.modules.size), .plain " modules in ", .colored .cyan output, newLine] ++
    dump.modules.toList.flatMap (fun (module, references) => moduleLine module references) ++
    (if dump.diagnostics.isEmpty then []
    else
      [.strong .yellow s!"{dump.diagnostics.length} diagnostics", newLine] ++
        dump.diagnostics.flatMap fun diagnostic =>
          [.plain ("  " ++ diagnostic.render), newLine])

/-- The word for an object in a list. -/
def kindLabel : ObjectKind → String
  | .classType _ => "class"
  | .interfaceType _ => "interface"
  | .structType _ => "struct"
  | .enumType _ => "enum"
  | .function _ => "delegate"
  | .instanceOf _ => "instance"

/-- The line of an object and its header. -/
def objectLine (graph : Graph) (planned : PlannedObject) : List Span :=
  match graph.object? planned.id with
  | none => []
  | some object =>
    [.plain "  ", .colored .cyan (Text.padRight 9 (kindLabel object.kind)),
      .plain s!" {Text.padRight 32 object.name} {planned.baseName}.h", newLine]

/-- What `inspect` prints. -/
def inspectReport (graph : Graph) (planned : List PlannedObject) : List Span :=
  let modules := SortedSet.ofList (planned.map (·.module))
  if planned.isEmpty then [.strong .yellow "no eligible objects", newLine]
  else
    modules.toList.flatMap fun module =>
      let objects := planned.filter (·.module = module)
      [.bold module, .plain s!" ({objects.length} objects)", newLine] ++
        objects.flatMap (objectLine graph)

section

variable {m : Type → Type} [Monad m] (disk : Disk m)

/-- Writes the files of a snapshot. -/
def runDump (snapshot output : String) (config : Option String) (skipBuildFiles : Bool) :
    ExceptT CommandError m (List Span) := do
  let graph ← loadSnapshot disk snapshot
  let config ← loadConfig disk config
  let wanted := config.output.buildFiles && !skipBuildFiles
  let config := { config with output := { config.output with buildFiles := wanted } }
  match generate graph config with
  | .error cause => throw (.failedDump snapshot cause)
  | .ok dump => do
    writeFiles disk output config.output.clean dump.files
    return dumpReport output dump

/-- Lists the files of a snapshot. -/
def runInspect (snapshot : String) (config : Option String) :
    ExceptT CommandError m (List Span) := do
  let graph ← loadSnapshot disk snapshot
  let config ← loadConfig disk config
  match graph.plan config with
  | .error cause => throw (.failedPlan cause)
  | .ok (_, planned) => return inspectReport graph planned

def runCommand : Command → ExceptT CommandError m (List Span)
  | .dump snapshot output config skipBuildFiles =>
    runDump disk snapshot output config skipBuildFiles
  | .inspect snapshot config => runInspect disk snapshot config

end

/-- The variables that decide about colors. -/
structure Environment where
  noColor : Option String := none
  terminal : Option String := none

/-- Whether output has colors.  A variable can forbid them; unless the command line
decides, a terminal must be known to show them. -/
def Environment.allowsColor (environment : Environment) (mode : ColorMode) : Bool :=
  environment.noColor.isNone &&
    match mode with
    | .always => true
    | .never => false
    | .auto => environment.terminal.any (· ≠ "dumb")

/-- What a program leaves behind besides files. -/
structure Outcome where
  exitCode : Nat
  output : String := ""
  errors : String := ""
deriving DecidableEq, Repr

def programName : String := "redecl"

def programVersion : String := "0.2.0"

def helpText : String :=
  s!"Usage: {programName} [--verbose] [--quiet] [--color auto|always|never] COMMAND\n" ++
    "\n" ++
    "  dump SNAPSHOT --output DIRECTORY [--config FILE] [--no-build-files]\n" ++
    "  inspect SNAPSHOT [--config FILE]\n"

/-- Runs a command line over a disk. -/
def runProgram {m : Type → Type} [Monad m] (disk : Disk m) (environment : Environment)
    (arguments : List String) : m Outcome :=
  match Request.ofArguments arguments with
  | .error error => pure { exitCode := 2, errors := s!"error: {error.message}\n" }
  | .ok .version => pure { exitCode := 0, output := s!"{programName} {programVersion}\n" }
  | .ok .help => pure { exitCode := 0, output := helpText }
  | .ok (.run color command) => do
    let withColors := environment.allowsColor color
    match ← (runCommand disk command).run with
    | .ok report => return { exitCode := 0, output := renderSpans withColors report }
    | .error error =>
      return {
        exitCode := 1
        errors := renderSpans withColors [.strong .red "error: ", .plain (error.message ++ "\n")] }

end HeaderSynth.Cli
