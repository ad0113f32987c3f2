import HeaderSynth.Annotation.Types
import HeaderSynth.Declaration.Delegate
import HeaderSynth.Declaration.Member

/-!
# Classes and interfaces

The header of a class declares its delegates, fields, constructor and methods, and
stubs for the methods of its interfaces that it does not have itself.  The source
defines the methods and a constructor that restores the default object.

An interface is declared twice: as a class that reflects it, and as the contract
that implementing classes derive from.
-/

namespace HeaderSynth

open Emit (line blank depend includeHeader indented)

/-! ## Classes -/

/-- The base of a class that has no super class. -/
def rootBase : String := "UObjectBaseUtility"

/-- The header that replication needs. -/
def replicationHeader : String := "Net/UnrealNetwork.h"

/-- Classes that only have a constructor with an initializer. -/
def initializerBases : List String :=
  ["UUserWidget", "UMovieSceneTrack", "APlayerStart", "URichTextBlock",
    "URichTextBlockImageDecorator", "URichTextBlockDecorator"]

def Graph.baseName (graph : Graph) (info : ClassInfo) : String :=
  match info.superClass with
  | some parent => graph.className parent
  | none => rootBase

def ClassInfo.replicatedFields (info : ClassInfo) : List Field :=
  info.fields.filter (·.flags.contains PropertyFlags.net)

/-- The methods of an interface for which a class gets stubs: those that are not events
and that the class does not declare under the same name. -/
def Graph.missingMethods (graph : Graph) (info : ClassInfo) (interface : ObjectId) :
    List Object :=
  let implemented := (graph.methods info.functions).map (·.name)
  match (graph.object? interface).bind (·.classInfo?) with
  | none => []
  | some contract =>
    (graph.methods contract.functions).filter fun object =>
      !object.methodFlags.contains FunctionFlags.blueprintEvent && !implemented.contains object.name

/-- The constructor and the override that replication needs. -/
def declareConstructor (name : String) (info : ClassInfo) : Emit Unit := do
  line s!"{name}();"
  if info.replicatedFields.isEmpty then pure ()
  else do
    line ("virtual void GetLifetimeReplicatedProps(TArray<FLifetimeProperty>& OutLifetimeProps)" ++
      " const override;")
    blank

/-- The stubs for the methods of the interfaces, under a comment. -/
def overrideSections (graph : Graph) (options : GeneratorOptions) (owner : String)
    (reserved : ReservedNames) (info : ClassInfo) : List Section :=
  if info.interfaces.isEmpty then []
  else
    ⟨none, do
      blank
      line "// Fix for true pure virtual functions not being implemented"⟩ ::
    (info.interfaces.flatMap (graph.missingMethods info)).map
      (methodSection graph options owner .override reserved)

/-- Declares a class in the header of `module`. -/
def declareClass (graph : Graph) (options : GeneratorOptions) (module : String)
    (id : ObjectId) (object : Object) (info : ClassInfo) : Emit Unit := do
  let name := graph.className id
  let arguments ← Logged.ofExcept (graph.classArguments options id info)
  let annotations ← annotationText arguments
  info.superClass.toList.forM (depend · .full)
  info.interfaces.forM (depend · .full)
  let contracts := String.join (info.interfaces.map fun id => ", public " ++ graph.contractName id)
  let api := exportMacro module (info.flags.contains ClassFlags.requiredApi)
  line s!"UCLASS({annotations})"
  line s!"class {api}{name} : public {graph.baseName info}{contracts} \x7b"
  indented do
    line generatedBody
    let reserved := graph.reservedNames id true
    writeSections none <|
      publicSection (declareNestedDelegates graph options info.functions) ::
      info.fields.map (fieldSection graph options object.name) ++
      [publicSection (declareConstructor name info)] ++
      (graph.methods info.functions).map (methodSection graph options object.name .member reserved) ++
      overrideSections graph options object.name reserved info
  line "\x7d;"

/-- Registers the replicated fields of the class `name`. -/
def defineReplication (name : String) (info : ClassInfo) : Emit Unit :=
  if info.replicatedFields.isEmpty then pure ()
  else do
    includeHeader replicationHeader
    line (s!"void {name}::GetLifetimeReplicatedProps" ++
      "(TArray<FLifetimeProperty>& OutLifetimeProps) const \x7b")
    indented do
      line "Super::GetLifetimeReplicatedProps(OutLifetimeProps);"
      blank
      info.replicatedFields.forM fun field => line s!"DOREPLIFETIME({name}, {field.name});"
    line "\x7d"
    blank

/-- Defines the constructor of the class `name`. -/
def defineConstructor (graph : Graph) (owner name : String) (info : ClassInfo) : Emit Unit := do
  let base := graph.baseName info
  let initializer :=
    if initializerBases.contains base then s!" : {base}(FObjectInitializer::Get())" else ""
  line s!"{name}::{name}(){initializer} \x7b"
  indented <|
    match info.defaultObject with
    | some memory => info.fields.forM (restoreField graph owner memory)
    | none => line "// Null default object."
  line "\x7d"

/-- Defines the methods and the constructor of a class. -/
def defineClass (graph : Graph) (id : ObjectId) (object : Object) (info : ClassInfo) :
    Emit Unit := do
  let name := graph.className id
  let reserved := graph.reservedNames id true
  (graph.methods info.functions).forM (defineMethod graph object.name name reserved)
  defineReplication name info
  defineConstructor graph object.name name info

/-! ## Interfaces -/

/-- Declares an interface in the header of `module`. -/
def declareInterface (graph : Graph) (options : GeneratorOptions) (module : String)
    (id : ObjectId) (object : Object) (info : ClassInfo) : Emit Unit := do
  let annotations ← annotationText (graph.interfaceArguments id info)
  let api := exportMacro module (info.flags.contains ClassFlags.requiredApi)
  let (classBase, contractBase) ← match info.superClass with
    | some parent => do
      depend parent .full
      pure (graph.className parent, graph.contractName parent)
    | none => pure ("UInterface", "IInterface")
  line s!"UINTERFACE({annotations})"
  line s!"class {api}{graph.className id} : public {classBase} \x7b"
  indented (line generatedBody)
  line "\x7d;"
  blank
  line s!"class {api}{graph.contractName id} : public {contractBase} \x7b"
  indented do
    line generatedBody
    let reserved := graph.reservedNames id false
    writeSections none <|
      publicSection (declareNestedDelegates graph options info.functions) ::
      (graph.methods info.functions).map (methodSection graph options object.name .contract reserved)
  line "\x7d;"

end HeaderSynth
