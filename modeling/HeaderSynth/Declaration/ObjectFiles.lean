import HeaderSynth.Declaration.Aggregate
import HeaderSynth.Declaration.ClassType
import HeaderSynth.Declaration.Enumeration

/-!
# The files of an object

Every object that can be declared has a header, and classes and aggregates have a
source besides.
-/

namespace HeaderSynth

/-- The files of one object. -/
structure ObjectFiles where
  declaration : SourceFile
  /-- Present for classes and aggregates. -/
  definition : Option SourceFile

/-- How an object is written. -/
structure Writing where
  declare : Emit Unit
  define : Option (Emit Unit) := none

/-- How an object is written in `module`, if it can be declared.  Annotations consult
the `usage` recorded before. -/
def Object.writing (graph : Graph) (options : GeneratorOptions) (module : String)
    (usage : TypeUsage) (id : ObjectId) (object : Object) : Except GenerateError Writing :=
  match object.kind with
  | .classType info =>
    .ok {
      declare := declareClass graph options module id object info
      define := some (defineClass graph id object info) }
  | .interfaceType info => .ok { declare := declareInterface graph options module id object info }
  | .structType info =>
    .ok {
      declare := declareStruct graph options module usage id object info
      define := some (defineStruct graph id object info) }
  | .enumType info => .ok { declare := declareEnum options usage id object info }
  | .function _ =>
    if object.isFlaggedDelegate then
      if object.outer.isNone then .ok { declare := declareDelegate graph options true id }
      else .error (.unsupportedObject object.name "nested delegate signature")
    else if object.isDelegateSignature then .error (.missingDelegateFlag object.name)
    else .error (.unsupportedObject object.name "function")
  | .instanceOf _ => .error (.unsupportedObject object.name "instance")

/-- Writes one file, and records what is shared by all files of the run. -/
def SourceFile.write (file : SourceFile) (emission : Emit Unit) (run : Run) :
    Run × Except GenerateError SourceFile :=
  (run.applyAll emission.log, emission.result.map fun _ => file.applyAll emission.log)

/-- The source of an object whose header is `declaration`. -/
def writeDefinition (declaration : SourceFile) (emission : Emit Unit) (run : Run) :
    Run × Except GenerateError SourceFile :=
  let file : SourceFile := { declaration with
    role := .definition, body := "", indent := 0, includes := .empty, dependencies := .empty }
  let (run, written) := file.write emission run
  (run, written.map (·.completeForward declaration))

/-- Writes the files of an object under `baseName` in `module`.  What was recorded
before a failure stays recorded. -/
def synthesize (graph : Graph) (options : GeneratorOptions) (id : ObjectId)
    (module baseName : String) (run : Run) : Run × Except GenerateError ObjectFiles :=
  match graph.get id >>= Object.writing graph options module run.usage id with
  | .error error => (run, .error error)
  | .ok writing =>
    let file : SourceFile := { object := id, module, baseName, role := .declaration }
    match file.write writing.declare run with
    | (run, .error error) => (run, .error error)
    | (run, .ok declaration) =>
      match writing.define with
      | none => (run, .ok ⟨declaration, none⟩)
      | some emission =>
        match writeDefinition declaration emission run with
        | (run, .error error) => (run, .error error)
        | (run, .ok definition) => (run, .ok ⟨declaration, some definition⟩)

end HeaderSynth
