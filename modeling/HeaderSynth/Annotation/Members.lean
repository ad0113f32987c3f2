import HeaderSynth.Annotation.Tables
import HeaderSynth.Config.Basic
import HeaderSynth.Declaration.TypeText

/-!
# Annotations of members

The arguments of `UPROPERTY`, `UPARAM`, `UFUNCTION` and `UDELEGATE`.
-/

namespace HeaderSynth

/-- Whether a type is, or its elements or values are, a pointer that keeps its target
alive. -/
def FieldKind.holdsStrongObject : FieldKind → Bool
  | .object .raw _ => true
  | .object .ptr _ => true
  | .classRef .raw _ => true
  | .classRef .ptr _ => true
  | .array _ inner => inner.holdsStrongObject
  | .map _ _ _ value => value.holdsStrongObject
  | _ => false

/-- How a field is edited and used by scripts. -/
def exposureArguments (graph : Graph) (options : GeneratorOptions) (field : Field) :
    List Argument :=
  if options.exposeFields then
    .switch 0 "EditAnywhere" ::
      (if field.arrayDim = 1 && field.kind.isExposable graph then [.switch 0 "BlueprintReadWrite"]
      else []) ++
      [.parameter 1 "AllowPrivateAccess" "true"]
  else
    let input := FlagInput.of field.flags none
    firedArguments RuleTable.propertyEdit input ++ firedArguments RuleTable.propertyBlueprint input

def replicationArguments (field : Field) : List Argument :=
  if field.flags.contains PropertyFlags.net then
    match field.repNotify with
    | some notify =>
      if field.flags.contains PropertyFlags.repNotify then
        [.parameter 0 "ReplicatedUsing" notify]
      else [.switch 0 "Replicated"]
    | none => [.switch 0 "Replicated"]
  else []

/-- Whether the target of a field is created anew for each owner. -/
def Field.isInstanced (field : Field) : Bool :=
  (field.flags.contains (PropertyFlags.exportObject ||| PropertyFlags.instancedReference) ||
    field.flags.contains (PropertyFlags.exportObject ||| PropertyFlags.containsInstancedReference)) &&
    field.kind.holdsStrongObject

def exportArguments (field : Field) : List Argument :=
  if field.isInstanced then [.switch 0 "Instanced"]
  else if field.flags.contains PropertyFlags.exportObject then [.switch 0 "Export"]
  else []

def fieldArguments (graph : Graph) (options : GeneratorOptions) (field : Field) :
    List Argument :=
  exposureArguments graph options field ++
    firedArguments RuleTable.property (FlagInput.of field.flags none) ++
    replicationArguments field ++ exportArguments field

def parameterArguments (param : Field) : List Argument :=
  firedArguments RuleTable.parameter (FlagInput.of param.flags none)

/-- The mask of the method of the same name on the nearest ancestor of `owner` that
has something of that name. -/
def Graph.inheritedMethodFlags? (graph : Graph) (owner : ObjectId) (name : String) :
    Option FunctionFlags :=
  let declared := (graph.superChain owner).tail.flatMap fun ancestor =>
    match (graph.object? ancestor).bind (·.classInfo?) with
    | some info => info.functions.filterMap graph.object?
    | none => []
  ((declared.find? (·.name = name)).bind (·.methodInfo?)).map (·.flags)

/-- Whether a method calls itself pure, callable or both.  The methods of an interface
are not pure. -/
def callableArguments (graph : Graph) (options : GeneratorOptions) (method : MethodInfo)
    (ofInterface pureVirtual : Bool) : List Argument :=
  let flags := method.flags
  let isCallable := flags.contains FunctionFlags.blueprintCallable
  let isPure := isCallable && flags.contains FunctionFlags.blueprintPure && !ofInterface
  let declared :=
    if isPure then [.switch 0 "BlueprintPure"]
    else if isCallable then
      (if flags.contains FunctionFlags.const && !ofInterface then
        [.parameter 0 "BlueprintPure" "false"]
      else []) ++ [.switch 0 "BlueprintCallable"]
    else []
  let forced :=
    if (isPure || !isCallable) && options.exposeFunctions && !pureVirtual &&
        method.params.all (·.kind.isExposable graph) then [.switch 0 "BlueprintCallable"]
    else []
  declared ++ forced

def quoted (text : String) : String :=
  "\"" ++ text ++ "\""

/-- The first parameter that names the world of the call. -/
def MethodInfo.worldContext? (method : MethodInfo) : Option Field :=
  method.params.find? fun param =>
    Text.hasInfix "WORLDCONTEXT".toList (Text.toUpper param.name).toList

/-- The first parameter that keeps the state of a call over time. -/
def MethodInfo.latentInfo? (graph : Graph) (method : MethodInfo) : Option Field :=
  method.params.find? fun param =>
    match param.kind with
    | .struct (some id) => graph.isChildOf id enginePackage "LatentActionInfo"
    | _ => false

/-- The arguments for the parameters that have a meaning of their own. -/
def specialParameterArguments (graph : Graph) (method : MethodInfo) : List Argument :=
  (match method.worldContext? with
    | some param => [.parameter 1 "WorldContext" (quoted param.name)]
    | none => []) ++
    match method.latentInfo? graph with
    | some param => [.parameter 1 "LatentInfo" (quoted param.name), .switch 1 "Latent"]
    | none => []

def functionArguments (graph : Graph) (options : GeneratorOptions) (object : Object)
    (method : MethodInfo) (pureVirtual : Bool) : List Argument :=
  let ofInterface := ((object.outer.bind graph.object?).map (·.isInterface)).getD false
  let inherited := object.outer.bind fun outer => graph.inheritedMethodFlags? outer object.name
  callableArguments graph options method ofInterface pureVirtual ++
    firedArguments RuleTable.functions (FlagInput.of method.flags inherited) ++
    specialParameterArguments graph method

end HeaderSynth
