import HeaderSynth.Annotation.Exposure
import HeaderSynth.Annotation.Tables
import HeaderSynth.Config.Basic
import HeaderSynth.Declaration.Emission

/-!
# Annotations of types

The arguments of `UCLASS`, `UINTERFACE`, `USTRUCT` and `UENUM`.  To those of the
rule tables come the ones that depend on the super types, on how the type is used
and on the configuration.
-/

namespace HeaderSynth

/-- The category that means no configuration file. -/
def noConfig : String := "None"

/-- The exposure switch of a class whose super class does not have it already. -/
def exposureSwitch (exposure inherited : Exposure) : List Argument :=
  if exposure.derivable then
    if inherited.derivable then [] else [.switch 0 "Blueprintable"]
  else if exposure.usable && !inherited.usable then [.switch 0 "BlueprintType"]
  else []

namespace Graph

/-- The payload of the super class of a class. -/
def superInfo? (graph : Graph) (info : ClassInfo) : Option ClassInfo :=
  (info.superClass.bind graph.object?).bind (·.classInfo?)

/-- The argument that names the class of the outer object, unless it says nothing new. -/
def withinArguments (graph : Graph) (info : ClassInfo) : Except GenerateError (List Argument) :=
  match info.within with
  | none => .ok []
  | some within =>
    if graph.isRootObject within || (graph.superInfo? info).bind (·.within) = some within then .ok []
    else do return [.parameter 0 "Within" (← graph.get within).name]

def configArguments (graph : Graph) (info : ClassInfo) : List Argument :=
  if info.configName = "" ∨ info.configName = noConfig ∨
      (graph.superInfo? info).map (·.configName) = some info.configName then []
  else [.parameter 0 "Config" info.configName]

def classArguments (graph : Graph) (options : GeneratorOptions) (id : ObjectId)
    (info : ClassInfo) : Except GenerateError (List Argument) := do
  let exposed :=
    if options.exposeFields then [.switch 0 "Blueprintable"]
    else exposureSwitch (graph.exposure id) (graph.superExposure info.superClass)
  let input := FlagInput.of info.flags ((graph.superInfo? info).map (·.flags))
  let within ← graph.withinArguments info
  let component :=
    if graph.isChildOf id enginePackage "ActorComponent" then
      [.switch 1 "BlueprintSpawnableComponent", .parameter 0 "ClassGroup" "Custom"]
    else []
  return exposed ++ firedArguments RuleTable.classes input ++ within ++
    graph.configArguments info ++ component

def interfaceArguments (graph : Graph) (id : ObjectId) (info : ClassInfo) : List Argument :=
  let input := FlagInput.of info.flags ((graph.superInfo? info).map (·.flags))
  let exposure := graph.exposure id
  firedArguments RuleTable.interfaces input ++
    exposureSwitch exposure (graph.superExposure info.superClass) ++
    (if exposure.usable && !exposure.derivable then
      [.switch 1 "CannotImplementInterfaceInBlueprint"]
    else [])

def structArguments (graph : Graph) (options : GeneratorOptions) (usage : TypeUsage)
    (id : ObjectId) (info : StructInfo) : List Argument :=
  let written (flags : StructFlags) := flags.difference StructFlags.computed
  let parent := (info.superStruct.bind graph.object?).bind (·.structInfo?)
  (if graph.hasVisibleField id || decide (id ∈ usage.visibleStructs) || options.exposeFields then
    [.switch 0 "BlueprintType"]
  else []) ++
    firedArguments RuleTable.structs
      (FlagInput.of (written info.flags) (parent.map fun parent => written parent.flags))

end Graph

/-- Whether scripts can use an enumeration as far as its width is known. -/
def EnumInfo.fitsByte (usage : TypeUsage) (id : ObjectId) (info : EnumInfo) : Bool :=
  match info.form with
  | .enumClass => (usage.underlying.get? id).all (· = "uint8")
  | .regular => true
  | .namespaced => true

def enumArguments (options : GeneratorOptions) (usage : TypeUsage) (id : ObjectId)
    (info : EnumInfo) : List Argument :=
  firedArguments RuleTable.enums (FlagInput.of info.flags none) ++
    (if id ∈ usage.visibleEnums ∨ (options.exposeEnums ∧ info.fitsByte usage id) then
      [.switch 0 "BlueprintType"]
    else [])

end HeaderSynth
