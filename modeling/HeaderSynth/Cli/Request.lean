import HeaderSynth.Cli.Options

/-!
# Requests

What a command line asks for.  Options other than the count of verbosity are given
at most once per level, and the inner level wins.
-/

namespace HeaderSynth.Cli

inductive Command where
  | dump (snapshot output : String) (config : Option String) (skipBuildFiles : Bool)
  | inspect (snapshot : String) (config : Option String)
deriving DecidableEq, Repr

inductive Request where
  | run (color : ColorMode) (command : Command)
  | version
  | help
deriving DecidableEq, Repr

/-- Why a command line cannot be understood. -/
inductive UsageError where
  | unexpected (argument : String)
  | missingValue (name : OptionName)
  | invalidValue (name : OptionName) (value : String)
  | repeated (name : OptionName)
  | emptyArgument
  /-- Quiet and verbose output at once. -/
  | conflict
  | missingCommand
  | missingSnapshot
  | missingOutput
deriving DecidableEq, Repr

def OptionName.text : OptionName → String
  | .verbose => "--verbose"
  | .quiet => "--quiet"
  | .color => "--color"
  | .output => "--output"
  | .config => "--config"
  | .noBuildFiles => "--no-build-files"
  | .version => "--version"
  | .help => "--help"

def UsageError.message : UsageError → String
  | .unexpected argument => s!"unexpected argument '{argument}'"
  | .missingValue name => s!"a value is required for '{name.text}'"
  | .invalidValue name value => s!"invalid value '{value}' for '{name.text}'"
  | .repeated name => s!"'{name.text}' cannot be used multiple times"
  | .emptyArgument => "an argument cannot be empty"
  | .conflict => "'--quiet' cannot be used with '--verbose'"
  | .missingCommand => "a command is required"
  | .missingSnapshot => "a snapshot is required"
  | .missingOutput => "'--output' is required"

/-- What was given at one level. -/
structure Given where
  verbosity : Nat := 0
  quiet : Bool := false
  color : Option ColorMode := none
  output : Option String := none
  config : Option String := none
  noBuildFiles : Bool := false
  snapshot : Option String := none
deriving DecidableEq, Repr

/-- Why the reading of a level ends early. -/
inductive Stop where
  | wrong (error : UsageError)
  /-- The option asks for something that needs no command. -/
  | request (request : Request)

def colorMode? (value : String) : Option ColorMode :=
  if value = "auto" then some .auto
  else if value = "always" then some .always
  else if value = "never" then some .never
  else none

/-- A path that an option gives for the first time. -/
def firstPath (name : OptionName) (before : Option String) (value : String) :
    Except Stop (Option String) :=
  if before.isSome then .error (.wrong (.repeated name))
  else if value = "" then .error (.wrong .emptyArgument)
  else .ok (some value)

namespace Given

def withOption (given : Given) (name : OptionName) (value : String) : Except Stop Given :=
  match name with
  | .verbose => .ok { given with verbosity := given.verbosity + 1 }
  | .quiet =>
    if given.quiet then .error (.wrong (.repeated .quiet)) else .ok { given with quiet := true }
  | .color =>
    if given.color.isSome then .error (.wrong (.repeated .color))
    else
      match colorMode? value with
      | some mode => .ok { given with color := some mode }
      | none => .error (.wrong (.invalidValue .color value))
  | .output => do return { given with output := ← firstPath .output given.output value }
  | .config => do return { given with config := ← firstPath .config given.config value }
  | .noBuildFiles =>
    if given.noBuildFiles then .error (.wrong (.repeated .noBuildFiles))
    else .ok { given with noBuildFiles := true }
  | .version => .error (.request .version)
  | .help => .error (.request .help)

def add (given : Given) : Item → Except Stop Given
  | .option name value => given.withOption name value
  | .positional text =>
    if given.snapshot.isSome then .error (.wrong (.unexpected text))
    else if text = "" then .error (.wrong .emptyArgument)
    else .ok { given with snapshot := some text }
  | .unknown text => .error (.wrong (.unexpected text))
  | .missingValue name => .error (.wrong (.missingValue name))

def ofItems (items : List Item) : Except Stop Given :=
  items.foldlM add {}

/-- Refuses contradictions within one level. -/
def checked (given : Given) : Except Stop Given :=
  if given.quiet && 0 < given.verbosity then .error (.wrong .conflict) else .ok given

end Given

/-- What is required of an option or argument. -/
def needed (error : UsageError) : Option String → Except Stop String
  | some value => .ok value
  | none => .error (.wrong error)

/-- The request of a command and its arguments, after what was given before it. -/
def readCommand (outer : Given) (name : String) (arguments : List String) :
    Except Stop Request := do
  let dumps := name = "dump"
  if !dumps && name ≠ "inspect" then throw (.wrong (.unexpected name))
  let forms := if dumps then dumpOptions else inspectOptions
  let given ← Given.ofItems (readLayer forms false none arguments).items
  let given ← given.checked
  let outer ← outer.checked
  let color := (given.color.or outer.color).getD .auto
  let snapshot ← needed .missingSnapshot given.snapshot
  if dumps then
    let output ← needed .missingOutput given.output
    return .run color (.dump snapshot output given.config given.noBuildFiles)
  else return .run color (.inspect snapshot given.config)

/-- The request of a whole command line. -/
def readRequest (arguments : List String) : Except Stop Request := do
  let layer := readLayer topOptions true none arguments
  let outer ← Given.ofItems layer.items
  match layer.rest with
  | [] => throw (.wrong .missingCommand)
  | name :: rest => readCommand outer name rest

/-- What a command line asks for. -/
def Request.ofArguments (arguments : List String) : Except UsageError Request :=
  match readRequest arguments with
  | .ok request => .ok request
  | .error (.request request) => .ok request
  | .error (.wrong error) => .error error

end HeaderSynth.Cli
