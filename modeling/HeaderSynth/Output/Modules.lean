import HeaderSynth.Output.SourceFile
import HeaderSynth.Sorted.Map

/-!
# Modules of a dump

Which modules received files, and which other modules those files mention.  Every module
that received files gets a build descriptor that lists what it depends on, and a source
file that registers it.
-/

namespace HeaderSynth

/-! ## References -/

/-- The modules of a dump, each with the other modules it refers to. -/
abbrev ModuleReferences := SortedMap String (SortedSet String)

namespace ModuleReferences

/-- Makes sure that a module has an entry. -/
def ensure (references : ModuleReferences) (module : String) : ModuleReferences :=
  references.alter module (·.getD .empty)

/-- Records that `module` refers to `other`.  A module does not refer to itself, and
no module has an empty name. -/
def record (references : ModuleReferences) (module other : String) : ModuleReferences :=
  references.alter module fun others =>
    let others := others.getD .empty
    if other = "" ∨ other = module then others else others.insert other

def direct (references : ModuleReferences) (module : String) : List String :=
  ((references.get? module).getD .empty).toList

/-- A set of modules with everything that its members refer to. -/
def expand (references : ModuleReferences) (modules : SortedSet String) : SortedSet String :=
  modules.insertAll (modules.toList.flatMap references.direct)

/-- `expand`, repeated. -/
def expandTimes (references : ModuleReferences) : Nat → SortedSet String → SortedSet String
  | 0, modules => modules
  | rounds + 1, modules => references.expandTimes rounds (references.expand modules)

/-- Every module that can be reached from `module` by one reference or more, without
the module itself.  A shortest way passes each entry at most once. -/
def transitive (references : ModuleReferences) (module : String) : SortedSet String :=
  (references.expandTimes references.size (.ofList (references.direct module))).erase module

end ModuleReferences

/-! ## Build files -/

/-- The modules that the build descriptor of `module` lists: the forced ones and all
that it refers to, directly or not. -/
def buildDependencies (module : String) (forced : List String) (references : ModuleReferences) :
    SortedSet String :=
  ((SortedSet.ofList forced).insertAll (references.transitive module).toList).erase module

/-- The build descriptor of a module. -/
def buildDescriptor (module : String) (forced : List String) (references : ModuleReferences)
    (modern : Bool) : OutputFile where
  path := Path.join module (module ++ ".Build.cs")
  contents :=
    let listed := (buildDependencies module forced references).toList.map fun name =>
      indentation 3 ++ "\"" ++ name ++ "\","
    SourceFile.joinLines <|
      ["using UnrealBuildTool;",
        "",
        s!"public class {module} : ModuleRules \x7b",
        s!"{indentUnit}public {module}(ReadOnlyTargetRules Target) : base(Target) \x7b",
        indentation 2 ++ "PCHUsage = PCHUsageMode.UseExplicitOrSharedPCHs;"] ++
      (if modern then
        [indentation 2 ++ "bLegacyPublicIncludePaths = false;",
          indentation 2 ++ "ShadowVariableWarningLevel = WarningLevel.Warning;"]
      else []) ++
      ["",
        indentation 2 ++ "PublicDependencyModuleNames.AddRange(new string[] \x7b"] ++
      listed ++
      [indentation 2 ++ "\x7d);",
        indentUnit ++ "\x7d",
        "\x7d"]

/-- The source file that registers a module. -/
def moduleSource (module : String) (primary : Option String) : OutputFile where
  path := Path.join (Path.join module "Private") (module ++ "Module.cpp")
  contents :=
    SourceFile.joinLines
      ["#include \"Modules/ModuleManager.h\"",
        "",
        if primary = some module then
          s!"IMPLEMENT_PRIMARY_GAME_MODULE(FDefaultGameModuleImpl, {module}, {module});"
        else s!"IMPLEMENT_MODULE(FDefaultGameModuleImpl, {module});"]

end HeaderSynth
