import HeaderSynth.Naming.Header
import HeaderSynth.Output.Path
import HeaderSynth.Sorted.Map

/-!
# Source files

A file collects the lines of its body and what they depend on: it sees a type not at
all, by its name, or by its full definition, and the level recorded for an object only
ever rises.  Includes and forward declarations are written when the file is rendered,
because only then all headers have their names.
-/

namespace HeaderSynth

/-! ## Dependencies -/

/-- How much of a type a file sees. -/
inductive Level where
  | none
  /-- The name only. -/
  | forward
  /-- The complete definition. -/
  | full
deriving DecidableEq, Repr

/-- The higher of two levels. -/
def Level.max : Level → Level → Level
  | .none, other => other
  | .forward, .none => .forward
  | .forward, other => other
  | .full, _ => .full

/-- The objects that a file depends on. -/
abbrev Dependencies := SortedMap ObjectId Level

namespace Dependencies

/-- Raises the level of an object. -/
def register (dependencies : Dependencies) (id : ObjectId) (level : Level) : Dependencies :=
  dependencies.alter id fun recorded => (recorded.getD .none).max level

def level (dependencies : Dependencies) (id : ObjectId) : Level :=
  (dependencies.get? id).getD .none

/-- The objects at exactly one level, in order. -/
def withLevel (dependencies : Dependencies) (level : Level) : List ObjectId :=
  (dependencies.toList.filter (·.2 = level)).map Prod.fst

end Dependencies

/-! ## Files -/

/-- The two files of an object. -/
inductive FileRole where
  | declaration
  | definition
deriving DecidableEq, Repr

/-- A file that is being written. -/
structure SourceFile where
  object : ObjectId
  module : String
  baseName : String
  role : FileRole
  body : String := ""
  /-- The depth of indentation of the next line. -/
  indent : Nat := 0
  /-- Headers to include besides those of the dependencies. -/
  includes : SortedSet String := .empty
  dependencies : Dependencies := .empty

/-- A finished file, with its path below the root of the output. -/
structure OutputFile where
  path : String
  contents : String
deriving DecidableEq, Repr

/-- A rendered text and the other modules it mentions. -/
structure Rendered where
  text : String
  modules : SortedSet String

/-- One step of indentation. -/
def indentUnit : String := "    "

def indentation (depth : Nat) : String :=
  String.join (List.replicate depth indentUnit)

namespace SourceFile

def hasContent (file : SourceFile) : Bool :=
  !file.body.isEmpty

/-- The path of the file below the root of the output. -/
def path (file : SourceFile) : String :=
  match file.role with
  | .declaration => Path.join (Path.join file.module "Public") (file.baseName ++ ".h")
  | .definition => Path.join (Path.join file.module "Private") (file.baseName ++ ".cpp")

def appendLine (file : SourceFile) (line : String) : SourceFile :=
  { file with body := file.body ++ indentation file.indent ++ line ++ "\n" }

/-- Appends a line without indentation. -/
def appendFlush (file : SourceFile) (line : String) : SourceFile :=
  { file with body := file.body ++ line ++ "\n" }

def blankLine (file : SourceFile) : SourceFile :=
  file.appendFlush ""

def beginIndent (file : SourceFile) : SourceFile :=
  { file with indent := file.indent + 1 }

def endIndent (file : SourceFile) : SourceFile :=
  { file with indent := file.indent - 1 }

def addInclude (file : SourceFile) (header : String) : SourceFile :=
  { file with includes := file.includes.insert header }

def depend (file : SourceFile) (id : ObjectId) (level : Level) : SourceFile :=
  { file with dependencies := file.dependencies.register id level }

/-- Includes everything that `declaration` only names. -/
def completeForward (file declaration : SourceFile) : SourceFile :=
  (declaration.dependencies.withLevel .forward).foldl (fun file id => file.depend id .full) file

/-- The lines for one dependency, and the modules they mention. -/
structure Mention where
  lines : List String := []
  modules : List String := []

/-- The include of an object of which the file sees the definition.  Nothing is
written for the file's own header, for a header that `declaration` includes and
for an object outside all modules. -/
def includeOf (graph : Graph) (names : NameRegistry) (file : SourceFile)
    (declaration : Option SourceFile) (id : ObjectId) : Except GenerateError Mention := do
  let owner := graph.headerOwner id
  let header := names.existing (← graph.headerName owner) owner
  let module := graph.moduleName id
  if header = file.baseName then return {}
  else if declaration.any fun header => header.dependencies.level id = .full then return {}
  else if module = "" then return {}
  else if module = file.module then return { lines := [s!"#include \"{header}.h\""] }
  else
    let top ← graph.get (graph.topLevel id)
    return {
      lines := [s!"//CROSS-MODULE INCLUDE V2: -ModuleName={module} -ObjectName={top.name}" ++
        s!" -FallbackName={header}"]
      modules := [module] }

/-- The forward declaration of an object of which the file sees the name. -/
def forwardOf (graph : Graph) (file : SourceFile) (id : ObjectId) :
    Except GenerateError Mention := do
  let module := graph.moduleName id
  let object ← graph.get id
  let lines ← match object.kind with
    | .classType _ => pure [s!"class {graph.className id};"]
    | .interfaceType _ => pure [s!"class {graph.className id};", s!"class {graph.contractName id};"]
    | .structType _ => pure [s!"struct {graph.structName id};"]
    | _ => throw (.unsupportedForward object.name)
  return { lines, modules := if module = "" ∨ module = file.module then [] else [module] }

/-- The lines before the includes of the dependencies. -/
def openingLines (file : SourceFile) (declaration : Option SourceFile) : List String :=
  (match file.role, declaration with
    | .declaration, _ => ["#pragma once", "#include \"CoreMinimal.h\""]
    | .definition, some header => [s!"#include \"{header.baseName}.h\""]
    | .definition, none => ["#include \"CoreMinimal.h\""]) ++
    file.includes.toList.map fun header => s!"#include \"{header}\""

/-- The lines after the includes of the dependencies. -/
def closingLines (file : SourceFile) : List String :=
  match file.role with
  | .declaration => [s!"#include \"{file.baseName}.generated.h\""]
  | .definition => []

def joinLines (lines : List String) : String :=
  String.join (lines.map (· ++ "\n"))

theorem joinLines_nil : joinLines [] = "" := by
  simp [joinLines]

theorem joinLines_cons (line : String) (rest : List String) :
    joinLines (line :: rest) = line ++ "\n" ++ joinLines rest := by
  simp [joinLines]

theorem joinLines_append (first second : List String) :
    joinLines (first ++ second) = joinLines first ++ joinLines second := by
  simp [joinLines]

/-- The complete text of a file.  `declaration` is the file that declares what this
one defines. -/
def render (file : SourceFile) (graph : Graph) (names : NameRegistry)
    (declaration : Option SourceFile) : Except GenerateError Rendered := do
  let included ← (file.dependencies.withLevel .full).mapM
    (includeOf graph names file declaration)
  let forward ← (file.dependencies.withLevel .forward).mapM (forwardOf graph file)
  let includeLines := file.openingLines declaration ++ included.flatMap (·.lines) ++ file.closingLines
  let forwardText := joinLines (forward.flatMap (·.lines))
  return {
    text := joinLines includeLines ++ "\n" ++
      (if forwardText.isEmpty then "" else forwardText ++ "\n") ++
      (if file.body.isEmpty then "" else file.body ++ "\n")
    modules := .ofList ((included ++ forward).flatMap (·.modules)) }

end SourceFile

end HeaderSynth
