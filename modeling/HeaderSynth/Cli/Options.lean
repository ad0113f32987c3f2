import HeaderSynth.Text.Affix

/-!
# Command lines

A command line is read level by level: the options before the command, then the
command with its options and its argument.  An option has a long name and perhaps a
letter; letters can be joined, and a value can be attached or stand by itself.
-/

namespace HeaderSynth.Cli

/-- When output is colored. -/
inductive ColorMode where
  | auto
  | always
  | never
deriving DecidableEq, Repr

inductive OptionName where
  | verbose
  | quiet
  | color
  | output
  | config
  | noBuildFiles
  | version
  | help
deriving DecidableEq, Repr

/-- How an option is written. -/
structure OptionForm where
  name : OptionName
  long : String
  letter : Option Char := none
  takesValue : Bool := false
deriving DecidableEq, Repr

/-- The options that are known everywhere. -/
def commonOptions : List OptionForm := [
  { name := .verbose, long := "verbose", letter := some 'v' },
  { name := .quiet, long := "quiet", letter := some 'q' },
  { name := .color, long := "color", takesValue := true },
  { name := .help, long := "help", letter := some 'h' }]

def topOptions : List OptionForm :=
  commonOptions ++ [{ name := .version, long := "version", letter := some 'V' }]

def inspectOptions : List OptionForm :=
  commonOptions ++ [{ name := .config, long := "config", letter := some 'c', takesValue := true }]

def dumpOptions : List OptionForm :=
  inspectOptions ++ [
    { name := .output, long := "output", letter := some 'o', takesValue := true },
    { name := .noBuildFiles, long := "no-build-files" }]

/-- A part of a command line.  What cannot be understood ends it. -/
inductive Item where
  | option (name : OptionName) (value : String)
  | positional (text : String)
  | unknown (text : String)
  | missingValue (name : OptionName)
deriving DecidableEq, Repr

/-- An argument that begins like an option.  A single dash is a plain argument. -/
def looksLikeOption (argument : String) : Bool :=
  Text.hasPrefix "-" argument && argument ≠ "-"

/-- The options that an argument gives, and an option that waits for its value. -/
structure Reading where
  items : List Item
  waiting : Option OptionName := none

/-- Reads joined letters.  An option with a value takes all the rest, without an equals
sign at its beginning. -/
def readLetters (forms : List OptionForm) : List Char → Reading
  | [] => ⟨[], none⟩
  | c :: rest =>
    match forms.find? (·.letter = some c) with
    | none => ⟨[.unknown (String.ofList [c])], none⟩
    | some form =>
      if form.takesValue then
        match rest with
        | [] => ⟨[], some form.name⟩
        | '=' :: value => ⟨[.option form.name (String.ofList value)], none⟩
        | value => ⟨[.option form.name (String.ofList value)], none⟩
      else
        let others := readLetters forms rest
        { others with items := .option form.name "" :: others.items }

/-- Reads a long option, perhaps with its value behind an equals sign. -/
def readLong (forms : List OptionForm) (text : List Char) : Reading :=
  let name := String.ofList (text.takeWhile (· ≠ '='))
  let value := (text.dropWhile (· ≠ '=')).tail?.map String.ofList
  match forms.find? (·.long = name), value with
  | none, _ => ⟨[.unknown name], none⟩
  | some form, some value =>
    if form.takesValue then ⟨[.option form.name value], none⟩ else ⟨[.unknown name], none⟩
  | some form, none =>
    if form.takesValue then ⟨[], some form.name⟩ else ⟨[.option form.name ""], none⟩

/-- Reads an argument that looks like an option. -/
def readOption (forms : List OptionForm) (argument : String) : Reading :=
  match argument.toList with
  | '-' :: '-' :: rest => readLong forms rest
  | '-' :: rest => readLetters forms rest
  | _ => ⟨[.unknown argument], none⟩

/-- What was read at one level, and the arguments from the command on. -/
structure Layer where
  items : List Item
  rest : List String := []

/-- Reads the arguments of one level.  `waiting` is an option whose value comes next.
Where `stops`, the first plain argument is the command and belongs to the next
level. -/
def readLayer (forms : List OptionForm) (stops : Bool) (waiting : Option OptionName) :
    List String → Layer
  | [] => ⟨(waiting.map Item.missingValue).toList, []⟩
  | argument :: rest =>
    match waiting with
    | some name =>
      if looksLikeOption argument then ⟨[.missingValue name], []⟩
      else
        let layer := readLayer forms stops none rest
        { layer with items := .option name argument :: layer.items }
    | none =>
      if argument = "--" then ⟨rest.map (if stops then .unknown else .positional), []⟩
      else if looksLikeOption argument then
        let reading := readOption forms argument
        let layer := readLayer forms stops reading.waiting rest
        { layer with items := reading.items ++ layer.items }
      else if stops then ⟨[], argument :: rest⟩
      else
        let layer := readLayer forms stops none rest
        { layer with items := .positional argument :: layer.items }

end HeaderSynth.Cli
