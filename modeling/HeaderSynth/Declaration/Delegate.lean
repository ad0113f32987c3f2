import HeaderSynth.Declaration.Signature

/-!
# Delegates

A delegate type is declared by a macro whose name tells the number of parameters
and what kind of delegate it is.
-/

namespace HeaderSynth

/-- No macro takes more parameters. -/
def maxDelegateParameters : Nat := 9

/-- The part of the macro name that tells the number of parameters. -/
def parameterCountSuffix : Nat → String
  | 0 => ""
  | 1 => "_OneParam"
  | 2 => "_TwoParams"
  | 3 => "_ThreeParams"
  | 4 => "_FourParams"
  | 5 => "_FiveParams"
  | 6 => "_SixParams"
  | 7 => "_SevenParams"
  | 8 => "_EightParams"
  | _ => "_NineParams"

/-- The macro that declares a delegate. -/
def delegateMacro (method : MethodInfo) : String :=
  "DECLARE_DYNAMIC" ++
    (if method.flags.contains FunctionFlags.multicastDelegate then "_MULTICAST" else "") ++
    (if method.sparse then "_SPARSE" else "") ++ "_DELEGATE" ++
    (if method.returnParam?.isSome then "_RetVal" else "") ++
    parameterCountSuffix method.parameters.length ++
    (if method.flags.contains FunctionFlags.const then "_Const" else "")

/-- The payload of a delegate signature that can be declared. -/
def delegateInfo (object : Object) : Except GenerateError MethodInfo :=
  match object.methodInfo? with
  | none => .error (.missingDelegateFlag object.name)
  | some method =>
    if !method.flags.contains FunctionFlags.delegate then .error (.missingDelegateFlag object.name)
    else if maxDelegateParameters < method.parameters.length then
      .error (.tooManyParameters object.name method.parameters.length)
    else .ok method

/-- The type of the result, if there is one. -/
def resultTypes (graph : Graph) (typeName : String) (method : MethodInfo) :
    Emit (List String) :=
  match method.returnParam? with
  | some field => do return [← field.typeText graph typeName]
  | none => pure []

/-- The arguments of the macro: the type of the result if there is one, the name of the
delegate, then types and names of the parameters. -/
def delegateArguments (graph : Graph) (typeName : String) (method : MethodInfo) :
    Emit (List String) := do
  let params ← parameterTexts graph typeName .declaration ", " .empty method
  let result ← resultTypes graph typeName method
  return result ++ typeName :: params

/-- The annotation of a delegate with the blank behind it.  Only a delegate that
stands directly in a package is annotated. -/
def delegateAnnotation (graph : Graph) (options : GeneratorOptions) (topLevel : Bool)
    (object : Object) (method : MethodInfo) : Emit String :=
  if topLevel then do
    let text ← annotationText (functionArguments graph options object method false)
    return s!"UDELEGATE({text}) "
  else pure ""

/-- Declares a delegate. -/
def declareDelegate (graph : Graph) (options : GeneratorOptions) (topLevel : Bool)
    (id : ObjectId) : Emit Unit := do
  let object ← Logged.ofExcept (graph.get id)
  let method ← Logged.ofExcept (delegateInfo object)
  let annotation ← delegateAnnotation graph options topLevel object method
  let arguments ← delegateArguments graph (graph.delegateName id) method
  let list := String.intercalate ", " arguments
  Emit.line s!"{annotation}{delegateMacro method}({list});"

/-- Declares the delegate signatures among `ids`, and nothing else that they name. -/
def declareSignatures (graph : Graph) (options : GeneratorOptions) : List ObjectId → Emit Nat
  | [] => pure 0
  | id :: rest => do
    let object ← Logged.ofExcept (graph.get id)
    if object.isDelegateSignature then
      declareDelegate graph options false id
      return (← declareSignatures graph options rest) + 1
    else declareSignatures graph options rest

/-- Declares the delegates nested in a type, with an empty line behind them. -/
def declareNestedDelegates (graph : Graph) (options : GeneratorOptions) (ids : List ObjectId) :
    Emit Unit := do
  let count ← declareSignatures graph options ids
  if count = 0 then pure () else Emit.blank

end HeaderSynth
