import HeaderSynth.Sorted.Set
import HeaderSynth.Text.Affix

/-!
# Configuration

What a dump exposes to scripts, which modules it leaves out, and how its output is
laid out.  A configuration is valid when no module name is blank and the primary
module is not left out.
-/

namespace HeaderSynth

/-! ## Stock modules -/

/-- The two modules that every other one builds on. -/
def coreModules : List String := ["Engine", "CoreUObject"]

/-- The stock modules besides the core ones. -/
def stockModules : List String := [
  "ActorLayerUtilities", "ActorSequence", "AIModule", "AndroidPermission", "AnimationCore",
  "AnimationSharing", "AnimGraphRuntime", "AppleImageUtils", "ArchVisCharacter", "AssetRegistry",
  "AssetTags", "AudioAnalyzer", "AudioCapture", "AudioExtensions", "AudioMixer",
  "AudioPlatformConfiguration", "AudioSynesthesia", "AugmentedReality", "AutomationUtils",
  "AvfMediaFactory", "BuildPatchServices", "CableComponent", "Chaos", "ChaosCloth",
  "ChaosNiagara", "ChaosSolvers", "ChaosSolverEngine", "CinematicCamera",
  "ClothingSystemRuntimeCommon", "ClothingSystemRuntimeInterface", "ClothingSystemRuntimeNv",
  "CustomMeshComponent", "DatasmithContent", "DeveloperSettings", "EditableMesh",
  "EngineMessages", "EngineSettings", "EyeTracker", "FacialAnimation", "FieldSystemCore",
  "FieldSystemEngine", "Foliage", "GameplayTags", "GameplayTasks", "GeometryCache",
  "GeometryCacheTracks", "GeometryCollectionCore", "GeometryCollectionSimulationCore",
  "GeometryCollectionEngine", "GeometryCollectionTracks", "GooglePAD", "HeadMountedDisplay",
  "ImageWrapper", "ImageWriteQueue", "ImgMedia", "ImgMediaFactory", "InputCore",
  "InteractiveToolsFramework", "JsonUtilities", "Landscape", "LevelSequence",
  "LightPropagationVolumeRuntime", "LiveLinkInterface", "LocationServicesBPLibrary",
  "LuminRuntimeSettings", "MagicLeap", "MagicLeapAR", "MagicLeapARPin", "MagicLeapAudio",
  "MagicLeapController", "MagicLeapEyeTracker", "MagicLeapHandMeshing", "MagicLeapHandTracking",
  "MagicLeapIdentity", "MagicLeapImageTracker", "MagicLeapLightEstimation", "MagicLeapPlanes",
  "MagicLeapPrivileges", "MagicLeapSecureStorage", "MagicLeapSharedWorld",
  "MaterialShaderQualitySettings", "MediaAssets", "MediaCompositing", "MediaUtils",
  "MeshDescription", "MobilePatchingUtils", "MotoSynth", "MoviePlayer", "MovieScene",
  "MovieSceneCapture", "MovieSceneTracks", "MRMesh", "NavigationSystem", "NetCore", "Niagara",
  "NiagaraAnimNotifies", "NiagaraCore", "NiagaraShader", "OculusHMD", "OculusInput", "OculusMR",
  "OnlineSubsystem", "OnlineSubsystemUtils", "Overlay", "PacketHandler", "Paper2D",
  "PhysicsCore", "PhysXVehicles", "ProceduralMeshComponent", "PropertyAccess", "PropertyPath",
  "Renderer", "Serialization", "SessionMessages", "SignificanceManager", "Slate", "SlateCore",
  "SoundFields", "StaticMeshDescription", "SteamVR", "SteamVRInputDevice", "Synthesis",
  "TcpMessaging", "TemplateSequence", "TimeManagement", "UdpMessaging", "UMG", "UObjectPlugin",
  "VariantManagerContent", "VectorVM", "WmfMediaFactory"]

/-! ## Options -/

/-- Exposure to scripts beyond what the flags ask for. -/
structure GeneratorOptions where
  /-- Every field can be edited, and used by scripts where its type allows it. -/
  exposeFields : Bool := false
  /-- Every enumeration of a byte can be used by scripts. -/
  exposeEnums : Bool := false
  /-- Every method can be called by scripts where its parameters allow it. -/
  exposeFunctions : Bool := false
deriving DecidableEq, Repr

/-- Which modules are generated, and what their build descriptors say. -/
structure ModuleOptions where
  ignored : List String := []
  /-- Leave out the two core modules. -/
  ignoreCore : Bool := true
  /-- Leave out every stock module, the core ones included. -/
  ignoreStock : Bool := false
  /-- The module that is registered as the primary one. -/
  primary : Option String := none
  /-- What every build descriptor depends on. -/
  forced : List String := ["Core", "CoreUObject", "Engine"]
deriving DecidableEq, Repr

structure OutputOptions where
  /-- Remove the root of the output before writing. -/
  clean : Bool := true
  buildFiles : Bool := true
  /-- Write the switches that newer tool chains expect. -/
  modernRules : Bool := true
deriving DecidableEq, Repr

structure Config where
  generator : GeneratorOptions := {}
  modules : ModuleOptions := {}
  output : OutputOptions := {}
deriving DecidableEq, Repr

instance : Inhabited Config := ⟨{}⟩

/-- Why a configuration is not valid. -/
inductive ConfigFault where
  | blankModule
  | ignoredPrimary (module : String)
deriving DecidableEq, Repr

def ConfigFault.message : ConfigFault → String
  | .blankModule => "module names cannot be empty"
  | .ignoredPrimary module => s!"primary module '{module}' is also ignored"

/-- Every module that is left out. -/
def ModuleOptions.allIgnored (options : ModuleOptions) : List String :=
  options.ignored ++
    (if options.ignoreCore || options.ignoreStock then coreModules else []) ++
    (if options.ignoreStock then stockModules else [])

/-- Every name of a module in a configuration. -/
def ModuleOptions.names (options : ModuleOptions) : List String :=
  options.ignored ++ options.forced ++ options.primary.toList

namespace Config

def ignoresModule (config : Config) (module : String) : Bool :=
  config.modules.allIgnored.contains module

/-- The modules that are left out, in order. -/
def ignoredModules (config : Config) : SortedSet String :=
  .ofList config.modules.allIgnored

/-- The first fault of a configuration. -/
def fault? (config : Config) : Option ConfigFault :=
  if config.modules.names.any Text.isBlankText then some .blankModule
  else
    (config.modules.primary.filter config.ignoresModule).map .ignoredPrimary

end Config

end HeaderSynth
