import HeaderSynth.Annotation.Members
import HeaderSynth.Reflection.Graph
import HeaderSynth.Text.Case

/-!
# Signatures

The return type and the parameter list of a method or delegate.  Headers annotate
parameters and sources do not; apart from that the two lists agree.  A parameter gets
another name where it would hide a member, in whatever letter case.
-/

namespace HeaderSynth

/-! ## Reserved names -/

/-- Names in lower case; neither order nor repetition matters. -/
structure ReservedNames where
  names : List String

namespace ReservedNames

def empty : ReservedNames := ⟨[]⟩

def insert (reserved : ReservedNames) (name : String) : ReservedNames :=
  ⟨Text.toLower name :: reserved.names⟩

def contains (reserved : ReservedNames) (name : String) : Bool :=
  reserved.names.contains (Text.toLower name)

end ReservedNames

/-- The fields of a type and its super types. -/
def Graph.allFields (graph : Graph) (id : ObjectId) : List Field :=
  (graph.superChain id).flatMap fun ancestor =>
    match graph.object? ancestor with
    | some object => object.fields
    | none => []

/-- The functions that a class itself declares, as far as they are objects. -/
def Graph.ownFunctions (graph : Graph) (id : ObjectId) : List Object :=
  match (graph.object? id).bind (·.classInfo?) with
  | some info => info.functions.filterMap graph.object?
  | none => []

/-- What the parameters of the methods of a type must not be called: like a field of
the type or a super type and, on demand, like a method of the type. -/
def Graph.reservedNames (graph : Graph) (id : ObjectId) (withMethods : Bool) : ReservedNames :=
  let fields := (graph.allFields id).map (·.name)
  let methods := if withMethods then (graph.ownFunctions id).map (·.name) else []
  ⟨(fields ++ methods).map Text.toLower⟩

/-! ## Parameters and results -/

/-- The text of an annotation as part of a declaration. -/
def annotationText (arguments : List Argument) : Emit String :=
  Logged.ofExcept (Arguments.textOf arguments)

/-- The name of a parameter, changed where it would hide a member. -/
def parameterName (reserved : ReservedNames) (param : Field) : String :=
  if reserved.contains param.name then "New" ++ Text.capitalize param.name else param.name

def Field.isReference (param : Field) : Bool :=
  param.flags.intersects (PropertyFlags.referenceParm ||| PropertyFlags.outParm)

/-- Strings are passed as constant references even where nothing asks for it. -/
def Field.isForcedReference (param : Field) : Bool :=
  !param.isReference && param.kind = .str

/-- The annotation of a parameter with the blank behind it. -/
def parameterAnnotation (role : FileRole) (param : Field) : Emit String :=
  match role with
  | .definition => pure ""
  | .declaration => do
    let text ← annotationText (parameterArguments param)
    return if text = "" then "" else s!"UPARAM({text}) "

/-- One parameter.  `separator` stands between the type and the name. -/
def parameterText (graph : Graph) (owner : String) (role : FileRole) (separator : String)
    (reserved : ReservedNames) (param : Field) : Emit String := do
  let annotation ← parameterAnnotation role param
  let type ← param.typeText graph owner
  let const :=
    if param.flags.contains PropertyFlags.constParm || param.isForcedReference then "const " else ""
  let reference := if param.isReference || param.isForcedReference then "&" else ""
  return annotation ++ const ++ type ++ reference ++ separator ++ parameterName reserved param

/-- The parameters of a method, in order. -/
def parameterTexts (graph : Graph) (owner : String) (role : FileRole) (separator : String)
    (reserved : ReservedNames) (method : MethodInfo) : Emit (List String) :=
  method.parameters.mapM (parameterText graph owner role separator reserved)

/-- The parameter list of a method. -/
def parameterList (graph : Graph) (owner : String) (role : FileRole) (reserved : ReservedNames)
    (method : MethodInfo) : Emit String := do
  return String.intercalate ", " (← parameterTexts graph owner role " " reserved method)

def returnType (graph : Graph) (owner : String) (method : MethodInfo) : Emit String :=
  match method.returnParam? with
  | some field => field.typeText graph owner
  | none => pure "void"

end HeaderSynth
