import HeaderSynth.Declaration.Access
import HeaderSynth.Declaration.DefaultValue
import HeaderSynth.Declaration.Signature

/-!
# Members

The fields and methods of a type.  A method is declared in the class or contract that
owns it, and once more, as a pure virtual stub, in a class that implements the contract.
The source of a class holds bodies that return the zero value.
-/

namespace HeaderSynth

open Emit (line blank indented)

/-! ## Fields -/

/-- What stands behind the name of a field. -/
def memberSuffix (field : Field) : String :=
  if field.arrayDim ≠ 1 then s!"[{field.arrayDim.toNat}]"
  else if field.kind.isBitfield then ": 1"
  else ""

/-- Declares a field of `owner`. -/
def declareField (graph : Graph) (options : GeneratorOptions) (owner : String) (field : Field) :
    Emit Unit := do
  let annotations ← annotationText (fieldArguments graph options field)
  let type ← field.memberTypeText graph owner
  line s!"UPROPERTY({annotations})"
  line s!"{type} {field.name}{memberSuffix field};"
  blank

def fieldSection (graph : Graph) (options : GeneratorOptions) (owner : String) (field : Field) :
    Section :=
  memberSection owner field.name (PropertyFlags.access? field.flags)
    (declareField graph options owner field)

/-- The macro of the export from a module, with the blank behind it. -/
def exportMacro (module : String) (isExported : Bool) : String :=
  if isExported then apiMacro module ++ " " else ""

/-- The macro that every reflected type begins with. -/
def generatedBody : String := "GENERATED_BODY()"

/-! ## Methods -/

/-- In what place a method is declared. -/
inductive MethodPlace where
  /-- In its own class. -/
  | member
  /-- In the contract of its interface, where methods are virtual unless they are events. -/
  | contract
  /-- In a class that implements the interface. -/
  | override
deriving DecidableEq, Repr

/-- The payload of something that is listed as a method. -/
def methodOf (object : Object) : Emit MethodInfo :=
  match object.methodInfo? with
  | some method => pure method
  | none => Logged.fail (.unsupportedObject object.name "non-function member")

/-- The functions among `ids` that are not delegate signatures. -/
def Graph.methods (graph : Graph) (ids : List ObjectId) : List Object :=
  (ids.filterMap graph.object?).filter fun object => !object.isDelegateSignature

/-- The mask of something that is listed as a method. -/
def Object.methodFlags (object : Object) : FunctionFlags :=
  ((object.methodInfo?).map (·.flags)).getD .none

/-- Whether a method is virtual where it is declared. -/
def isVirtual (place : MethodPlace) (flags : FunctionFlags) : Bool :=
  place = .contract && !flags.contains FunctionFlags.static &&
    !flags.contains FunctionFlags.blueprintEvent

/-- The body of a pure virtual method, which the macro takes as a second argument. -/
def returnStatement (graph : Graph) (owner : String) (method : MethodInfo) : Emit String :=
  match method.returnParam? with
  | some field => do
    let value ← zeroValue graph owner field
    return s!" return {value};"
  | none => pure ""

/-- What stands behind the parameter list of a declaration. -/
def pureVirtualEnding (graph : Graph) (owner : String) (place : MethodPlace) (object : Object)
    (method : MethodInfo) : Emit String :=
  if isVirtual place method.flags || place = .override then do
    let body ← returnStatement graph owner method
    return (if place = .override then " override" else "") ++ s!" PURE_VIRTUAL({object.name},{body})"
  else pure ""

/-- Declares a method. -/
def declareMethod (graph : Graph) (options : GeneratorOptions) (owner : String)
    (place : MethodPlace) (reserved : ReservedNames) (object : Object) : Emit Unit := do
  let method ← methodOf object
  let flags := method.flags
  let modifier :=
    if flags.contains FunctionFlags.static then "static "
    else if isVirtual place flags then "virtual "
    else ""
  let returned ← returnType graph owner method
  let const := if flags.contains FunctionFlags.const then " const" else ""
  let ending ← pureVirtualEnding graph owner place object method
  let params ← parameterList graph owner .declaration reserved method
  let pureVirtual := isVirtual place flags || place = .override
  let annotations ← annotationText (functionArguments graph options object method pureVirtual)
  line s!"UFUNCTION({annotations})"
  line s!"{modifier}{returned} {object.name}({params}){const}{ending};"
  blank

/-- The section of a method in the declaration of `owner`. -/
def methodSection (graph : Graph) (options : GeneratorOptions) (owner : String)
    (place : MethodPlace) (reserved : ReservedNames) (object : Object) : Section :=
  memberSection owner object.name (FunctionFlags.access? object.methodFlags)
    (declareMethod graph options owner place reserved object)

/-- The functions that must be written for a method.  Calls over the network and native
events are received by a function of their own, and a call can be checked first. -/
structure StubNames where
  implementation : String
  validation : Option String := none
deriving DecidableEq, Repr

/-- An event that is not native needs no function. -/
def stubNames? (name : String) (flags : FunctionFlags) : Option StubNames :=
  if flags.contains FunctionFlags.net then
    some {
      implementation := name ++ "_Implementation"
      validation :=
        if flags.contains FunctionFlags.netValidate then some (name ++ "_Validate") else none }
  else if flags.contains FunctionFlags.blueprintEvent then
    if flags.contains FunctionFlags.native then some { implementation := name ++ "_Implementation" }
    else none
  else some { implementation := name }

/-- Writes the body of the function that checks a call. -/
def defineValidation (className params : String) : Option String → Emit Unit
  | none => pure ()
  | some name => do
    line s!"bool {className}::{name}({params}) \x7b"
    indented (line "return true;")
    line "\x7d"

/-- Writes the body of a function, which returns the zero value if it returns anything. -/
def zeroBody (graph : Graph) (owner : String) (method : MethodInfo) : Emit Unit :=
  match method.returnParam? with
  | some field => do
    let value ← zeroValue graph owner field
    line s!"return {value};"
  | none => pure ()

/-- Writes the functions of a method of the class `className`. -/
def defineMethod (graph : Graph) (owner className : String) (reserved : ReservedNames)
    (object : Object) : Emit Unit := do
  let method ← methodOf object
  match stubNames? object.name method.flags with
  | none => pure ()
  | some stubs => do
    let params ← parameterList graph owner .definition reserved method
    let returned ← returnType graph owner method
    let const := if method.flags.contains FunctionFlags.const then " const" else ""
    line s!"{returned} {className}::{stubs.implementation}({params}){const} \x7b"
    indented (zeroBody graph owner method)
    line "\x7d"
    defineValidation className params stubs.validation
    blank

end HeaderSynth
