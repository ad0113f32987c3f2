import HeaderSynth.Annotation.Rule

/-!
# Rule tables

One table per annotation, for the arguments that the masks alone decide.
-/

namespace HeaderSynth

namespace Rule

/-- A switch for own bits. -/
def whenOwn {kind : FlagKind} (flags : Flags kind) (name : String) : Rule :=
  { ownAll := flags.raw, argument := .switch 0 name }

/-- A switch for a bit that the ancestor has and the descriptor lacks. -/
def whenDropped {kind : FlagKind} (flags : Flags kind) (name : String) : Rule :=
  { parentAll := flags.raw, currentNone := flags.raw, argument := .switch 0 name }

/-- A group of one switch. -/
def alone {kind : FlagKind} (flags : Flags kind) (name : String) : RuleGroup :=
  [whenOwn flags name]

/-- A switch for a bit of the descriptor, or else one for taking back the bit of
the ancestor. -/
def keptOrDropped {kind : FlagKind} (flags : Flags kind) (kept dropped : String) : RuleGroup :=
  [whenOwn flags kept, whenDropped flags dropped]

end Rule

namespace RuleTable

open Rule

def classes : List RuleGroup := [
  alone ClassFlags.minimalApi "MinimalAPI",
  alone ClassFlags.deprecated "Deprecated",
  alone ClassFlags.abstract "Abstract",
  alone ClassFlags.noExport "NoExport",
  alone ClassFlags.const "Const",
  alone ClassFlags.defaultToInstanced "DefaultToInstanced",
  keptOrDropped ClassFlags.transient "Transient" "NonTransient",
  keptOrDropped ClassFlags.editInlineNew "EditInlineNew" "NotEditInlineNew",
  keptOrDropped ClassFlags.notPlaceable "NotPlaceable" "Placeable",
  alone ClassFlags.defaultConfig "DefaultConfig",
  alone ClassFlags.globalUserConfig "GlobalUserConfig",
  alone ClassFlags.projectUserConfig "ProjectUserConfig",
  alone ClassFlags.perObjectConfig "PerObjectConfig",
  alone ClassFlags.configDoNotCheckDefaults "ConfigDoNotCheckDefaults",
  alone ClassFlags.hideDropDown "HideDropdown",
  keptOrDropped ClassFlags.collapseCategories "CollapseCategories" "DontCollapseCategories"]

def interfaces : List RuleGroup := [
  alone ClassFlags.minimalApi "MinimalAPI"]

def structs : List RuleGroup := [
  alone StructFlags.noExport "NoExport",
  alone StructFlags.atomic "Atomic",
  alone StructFlags.immutable "Immutable"]

def enums : List RuleGroup := [
  alone EnumFlags.flags "Flags"]

/-- Three bits decide where a field can be seen and edited. -/
def propertyEdit : List RuleGroup := [
  [whenOwn (PropertyFlags.edit ||| PropertyFlags.editConst ||| PropertyFlags.disableEditOnTemplate)
      "VisibleInstanceOnly",
    whenOwn (PropertyFlags.edit ||| PropertyFlags.editConst ||| PropertyFlags.disableEditOnInstance)
      "VisibleDefaultsOnly",
    whenOwn (PropertyFlags.edit ||| PropertyFlags.editConst) "VisibleAnywhere",
    whenOwn (PropertyFlags.edit ||| PropertyFlags.disableEditOnTemplate) "EditInstanceOnly",
    whenOwn (PropertyFlags.edit ||| PropertyFlags.disableEditOnInstance) "EditDefaultsOnly",
    whenOwn PropertyFlags.edit "EditAnywhere"]]

/-- Access from scripts. -/
def propertyBlueprint : List RuleGroup := [
  [whenOwn (PropertyFlags.blueprintVisible ||| PropertyFlags.blueprintReadOnly) "BlueprintReadOnly",
    whenOwn PropertyFlags.blueprintVisible "BlueprintReadWrite"],
  [{ ownAll := (PropertyFlags.blueprintVisible ||| PropertyFlags.nativeAccessPrivate).raw,
     argument := .parameter 1 "AllowPrivateAccess" "true" }]]

def property : List RuleGroup := [
  alone PropertyFlags.noClear "NoClear",
  alone PropertyFlags.editFixedSize "EditFixedSize",
  alone PropertyFlags.simpleDisplay "SimpleDisplay",
  alone PropertyFlags.advancedDisplay "AdvancedDisplay",
  alone PropertyFlags.blueprintAssignable "BlueprintAssignable",
  alone PropertyFlags.blueprintCallable "BlueprintCallable",
  alone PropertyFlags.blueprintAuthorityOnly "BlueprintAuthorityOnly",
  [whenOwn (PropertyFlags.config ||| PropertyFlags.globalConfig) "GlobalConfig",
    whenOwn PropertyFlags.config "Config"],
  alone PropertyFlags.repSkip "NotReplicated",
  alone PropertyFlags.assetRegistrySearchable "AssetRegistrySearchable",
  alone PropertyFlags.interp "Interp",
  alone PropertyFlags.saveGame "SaveGame",
  alone PropertyFlags.nonTransactional "NonTransactional",
  alone PropertyFlags.transient "Transient",
  alone PropertyFlags.duplicateTransient "DuplicateTransient",
  alone PropertyFlags.textExportTransient "TextExportTransient",
  alone PropertyFlags.nonPieDuplicateTransient "NonPIEDuplicateTransient",
  alone PropertyFlags.skipSerialization "SkipSerialization"]

def parameter : List RuleGroup := [
  [{ ownAll := (PropertyFlags.referenceParm ||| PropertyFlags.outParm).raw,
     ownNone := PropertyFlags.constParm.raw,
     argument := .switch 0 "Ref" }],
  alone PropertyFlags.repSkip "NotReplicated"]

def functions : List RuleGroup := [
  [whenOwn (FunctionFlags.blueprintEvent ||| FunctionFlags.native) "BlueprintNativeEvent",
    whenOwn FunctionFlags.blueprintEvent "BlueprintImplementableEvent"],
  [whenOwn (FunctionFlags.net ||| FunctionFlags.netServer) "Server",
    whenOwn (FunctionFlags.net ||| FunctionFlags.netClient) "Client",
    whenOwn (FunctionFlags.net ||| FunctionFlags.netMulticast) "NetMulticast",
    whenOwn (FunctionFlags.net ||| FunctionFlags.netRequest) "ServiceRequest",
    whenOwn (FunctionFlags.net ||| FunctionFlags.netResponse) "ServiceResponse"],
  [whenOwn (FunctionFlags.net ||| FunctionFlags.netReliable) "Reliable",
    whenOwn FunctionFlags.net "Unreliable"],
  alone (FunctionFlags.net ||| FunctionFlags.netValidate) "WithValidation",
  alone FunctionFlags.exec "Exec",
  alone FunctionFlags.blueprintAuthorityOnly "BlueprintAuthorityOnly",
  alone FunctionFlags.blueprintCosmetic "BlueprintCosmetic"]

end RuleTable

end HeaderSynth
