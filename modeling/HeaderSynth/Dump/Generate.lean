import HeaderSynth.Declaration.ObjectFiles
import HeaderSynth.Dump.Plan
import HeaderSynth.Output.Modules

/-!
# Dumps

A dump writes the files of all planned objects and renders them afterwards, when
all names and the use of all types are known.  Then it adds the build files of the
modules.
-/

namespace HeaderSynth

/-- Everything that a dump yields. -/
structure Dump where
  files : List OutputFile
  modules : ModuleReferences
  diagnostics : List Diagnostic
deriving DecidableEq

/-- The file with the given path. -/
def Dump.file? (dump : Dump) (path : String) : Option OutputFile :=
  dump.files.find? fun file => Path.same file.path path

/-- Writes the files of planned objects one after the other. -/
def synthesizeAll (graph : Graph) (options : GeneratorOptions) :
    List PlannedObject → Run → Except GenerateError (Run × List ObjectFiles)
  | [], run => .ok (run, [])
  | planned :: rest, run =>
    match synthesize graph options planned.id planned.module planned.baseName run with
    | (_, .error error) => .error error
    | (run, .ok files) => do
      let (run, others) ← synthesizeAll graph options rest run
      return (run, files :: others)

/-- The hash of a type that is the key of a map. -/
def hashStub (name : String) : String :=
  s!"FORCEINLINE uint32 GetTypeHash(const {name}) \x7b return 0; \x7d"

/-- The header with the hash of its type, where some map needs it. -/
def SourceFile.withHash (file : SourceFile) (graph : Graph) (usage : TypeUsage) :
    Except GenerateError SourceFile :=
  if file.object ∈ usage.hashedKeys then do
    match (← graph.get file.object).kind with
    | .structType _ => return file.appendLine (hashStub (graph.structName file.object))
    | .classType _ => return file.appendLine (hashStub (graph.className file.object))
    | .interfaceType _ => return file.appendLine (hashStub (graph.className file.object))
    | _ => return file
  else .ok file

/-- The rendered files of one object. -/
structure RenderedObject where
  module : String
  files : List OutputFile
  /-- The other modules that the files mention. -/
  references : List String

/-- Renders the source of an object, if it has one. -/
def renderDefinition (graph : Graph) (names : NameRegistry) (declaration : SourceFile) :
    Option SourceFile → Except GenerateError (List OutputFile × List String)
  | none => .ok ([], [])
  | some definition =>
    if definition.hasContent then do
      let rendered ← definition.render graph names (some declaration)
      return ([⟨definition.path, rendered.text⟩], rendered.modules.toList)
    else .ok ([], [])

/-- Renders the files of an object.  An empty header stands for no files at all. -/
def ObjectFiles.render (files : ObjectFiles) (graph : Graph) (names : NameRegistry)
    (usage : TypeUsage) : Except GenerateError RenderedObject :=
  if files.declaration.hasContent then do
    let declaration ← files.declaration.withHash graph usage
    let rendered ← declaration.render graph names none
    let (sources, mentioned) ← renderDefinition graph names declaration files.definition
    return {
      module := declaration.module
      files := ⟨declaration.path, rendered.text⟩ :: sources
      references := rendered.modules.toList ++ mentioned }
  else .ok ⟨files.declaration.module, [], []⟩

/-- Records the modules that the files of an object mention. -/
def ModuleReferences.recordObject (references : ModuleReferences) (object : RenderedObject) :
    ModuleReferences :=
  object.references.foldl (fun references other =>
    ModuleReferences.record references object.module other) references

/-- The modules of a dump and what their files mention. -/
def moduleReferences (planned : List PlannedObject) (rendered : List RenderedObject) :
    ModuleReferences :=
  rendered.foldl ModuleReferences.recordObject <|
    planned.foldl (fun references object => ModuleReferences.ensure references object.module) .empty

/-- The build files of every module. -/
def buildFiles (config : Config) (references : ModuleReferences) : List OutputFile :=
  if config.output.buildFiles then
    references.keys.flatMap fun module =>
      [buildDescriptor module config.modules.forced references config.output.modernRules,
        moduleSource module config.modules.primary]
  else []

/-- Writes and renders everything. -/
def generate (graph : Graph) (config : Config) : Except GenerateError Dump := do
  let (names, planned) ← graph.plan config
  let (run, written) ← synthesizeAll graph config.generator planned .empty
  let rendered ← written.mapM fun files => files.render graph names run.usage
  let references := moduleReferences planned rendered
  return {
    files := rendered.flatMap (·.files) ++ buildFiles config references
    modules := references
    diagnostics := run.diagnostics }

end HeaderSynth
