import HeaderSynth.Error
import HeaderSynth.Logged
import HeaderSynth.Output.SourceFile

/-!
# What declarations emit

Writing a declaration yields a log: lines of the file, demands of the types that
the lines mention, and diagnostics.  The log is applied afterwards to the file, to
the record of how types are used, and to the list of diagnostics.
-/

namespace HeaderSynth

/-- What a type demands of the file that mentions it and of later annotations. -/
inductive Demand where
  | depend (id : ObjectId) (level : Level)
  | includeHeader (header : String)
  /-- An enumeration is the type of a field that scripts can see. -/
  | visibleEnum (id : ObjectId)
  /-- An aggregate is the type of a field or parameter. -/
  | usedStruct (id : ObjectId)
  /-- The numeric type under a scoped enumeration. -/
  | underlying (id : ObjectId) (type : String)
  /-- An aggregate is the key of a map and needs a hash. -/
  | hashedKey (id : ObjectId)
deriving DecidableEq, Repr

/-- A problem that leaves output behind. -/
structure Diagnostic where
  object : String
  member : Option String
  message : String
deriving DecidableEq, Repr

def Diagnostic.render (diagnostic : Diagnostic) : String :=
  match diagnostic.member with
  | some member => s!"{diagnostic.object}::{member}: {diagnostic.message}"
  | none => s!"{diagnostic.object}: {diagnostic.message}"

/-- An entry of the log of a declaration. -/
inductive Emission where
  | line (text : String)
  /-- A line without indentation. -/
  | flush (text : String)
  | indent
  | outdent
  | demand (demand : Demand)
  | diagnose (diagnostic : Diagnostic)
deriving DecidableEq, Repr

/-- How types are used; later annotations consult it. -/
structure TypeUsage where
  visibleEnums : SortedSet ObjectId
  visibleStructs : SortedSet ObjectId
  underlying : SortedMap ObjectId String
  hashedKeys : SortedSet ObjectId

def TypeUsage.empty : TypeUsage := ⟨.empty, .empty, .empty, .empty⟩

def TypeUsage.record (usage : TypeUsage) : Demand → TypeUsage
  | .depend .. => usage
  | .includeHeader _ => usage
  | .visibleEnum id => { usage with visibleEnums := usage.visibleEnums.insert id }
  | .usedStruct id => { usage with visibleStructs := usage.visibleStructs.insert id }
  | .underlying id type => { usage with underlying := usage.underlying.insert id type }
  | .hashedKey id => { usage with hashedKeys := usage.hashedKeys.insert id }

def SourceFile.meet (file : SourceFile) : Demand → SourceFile
  | .depend id level => file.depend id level
  | .includeHeader header => file.addInclude header
  | _ => file

def SourceFile.apply (file : SourceFile) : Emission → SourceFile
  | .line text => file.appendLine text
  | .flush text => file.appendFlush text
  | .indent => file.beginIndent
  | .outdent => file.endIndent
  | .demand demand => file.meet demand
  | .diagnose _ => file

/-- What all declarations of one run share. -/
structure Run where
  usage : TypeUsage
  /-- The diagnostics, in the order in which they arose. -/
  diagnostics : List Diagnostic

def Run.empty : Run := ⟨.empty, []⟩

def Run.apply (run : Run) : Emission → Run
  | .demand demand => { run with usage := run.usage.record demand }
  | .diagnose diagnostic => { run with diagnostics := run.diagnostics ++ [diagnostic] }
  | _ => run

def SourceFile.applyAll (file : SourceFile) (log : List Emission) : SourceFile :=
  log.foldl SourceFile.apply file

def Run.applyAll (run : Run) (log : List Emission) : Run :=
  log.foldl Run.apply run

/-- A computation that writes a declaration. -/
abbrev Emit := Logged Emission GenerateError

namespace Emit

def line (text : String) : Emit Unit := Logged.write (.line text)

def flush (text : String) : Emit Unit := Logged.write (.flush text)

def blank : Emit Unit := flush ""

def depend (id : ObjectId) (level : Level) : Emit Unit := Logged.write (.demand (.depend id level))

def includeHeader (header : String) : Emit Unit := Logged.write (.demand (.includeHeader header))

def diagnose (object member message : String) : Emit Unit :=
  Logged.write (.diagnose ⟨object, some member, message⟩)

/-- Lines that stand one step further in. -/
def indented (body : Emit Unit) : Emit Unit := do
  Logged.write .indent
  body
  Logged.write .outdent

/-- A computation that only makes demands. -/
def ofDemands {α : Type} (computation : Logged Demand GenerateError α) : Emit α :=
  computation.mapLog .demand

end Emit

end HeaderSynth
