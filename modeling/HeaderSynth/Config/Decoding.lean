import HeaderSynth.Config.Basic
import HeaderSynth.Json.Decode
import HeaderSynth.Toml.Document

/-!
# Configurations from text

A configuration file is written in TOML; the same shape is accepted as a JSON value.
Everything may be missing, and unknown keys are ignored.
-/

namespace HeaderSynth

/-- A format in which a configuration can be written. -/
structure ConfigFormat (α : Type) where
  text? : α → Option String
  truth? : α → Option Bool
  list? : α → Option (List α)
  isNull : α → Bool
  /-- The given fields, by name. -/
  record? : List String → α → Option (List (String × α))

namespace ConfigFormat

variable {α : Type} (format : ConfigFormat α)

/-- A field that may be missing. -/
def field {β : Type} (record : List (String × α)) (name : String) (default : β)
    (decode : α → Option β) : Option β :=
  match record.lookup name with
  | some value => decode value
  | none => some default

def texts? (value : α) : Option (List String) := do
  (← format.list? value).mapM format.text?

/-- A text, or nothing where the format says so. -/
def optionalText? (value : α) : Option (Option String) :=
  if format.isNull value then some none else (format.text? value).map some

def generator? (value : α) : Option GeneratorOptions := do
  let record ← format.record? ["make_all_properties_blueprint_read_write",
    "make_enum_classes_blueprint_type", "make_all_functions_blueprint_callable"] value
  return {
    exposeFields := ← field record "make_all_properties_blueprint_read_write" false format.truth?
    exposeEnums := ← field record "make_enum_classes_blueprint_type" false format.truth?
    exposeFunctions := ← field record "make_all_functions_blueprint_callable" false format.truth? }

def modules? (value : α) : Option ModuleOptions := do
  let record ← format.record? ["ignored", "ignore_engine_and_core_uobject",
    "ignore_all_core_engine_modules", "primary", "forced_dependencies"] value
  let default : ModuleOptions := {}
  return {
    ignored := ← field record "ignored" default.ignored format.texts?
    ignoreCore := ← field record "ignore_engine_and_core_uobject" default.ignoreCore format.truth?
    ignoreStock :=
      ← field record "ignore_all_core_engine_modules" default.ignoreStock format.truth?
    primary := ← field record "primary" none format.optionalText?
    forced := ← field record "forced_dependencies" default.forced format.texts? }

def output? (value : α) : Option OutputOptions := do
  let record ← format.record? ["clean", "emit_build_files", "modern_build_rules"] value
  return {
    clean := ← field record "clean" true format.truth?
    buildFiles := ← field record "emit_build_files" true format.truth?
    modernRules := ← field record "modern_build_rules" true format.truth? }

def config? (value : α) : Option Config := do
  let record ← format.record? ["generator", "modules", "output"] value
  return {
    generator := ← field record "generator" {} format.generator?
    modules := ← field record "modules" {} format.modules?
    output := ← field record "output" {} format.output? }

end ConfigFormat

/-- Configurations as JSON values. -/
def Json.configFormat : ConfigFormat Json where
  text? := Json.asText?
  truth? := Json.asBool?
  list? := Json.asList? some
  isNull
    | .null => true
    | _ => false
  record? names value := (Json.Record.ofJson? names value).map (·.fields)

namespace Toml

/-- The items of an array, also of one that repeated headers build. -/
def Value.list? : Value → Option (List Value)
  | .list items => some items
  | .tables elements => some (elements.map (.table .header))
  | _ => none

/-- The fields `names` of a table or, by position, of an array.  A date or time has
none of them. -/
def Value.record? (names : List String) : Value → Option Entries
  | .table _ entries => some (entries.filter fun entry => names.contains entry.1)
  | .moment => some []
  | value => value.list?.map names.zip

/-- Configurations as TOML documents. -/
def configFormat : ConfigFormat Value where
  text?
    | .text content => some content
    | _ => none
  truth?
    | .truth value => some value
    | _ => none
  list? := Value.list?
  isNull _ := false
  record? := Value.record?

end Toml

/-- Why a configuration file cannot be used. -/
inductive ConfigError where
  /-- The text is no TOML, or not of the shape of a configuration. -/
  | malformed
  | invalid (fault : ConfigFault)
deriving DecidableEq, Repr

def ConfigError.message : ConfigError → String
  | .malformed => "Failed to parse config: it does not have the shape of a configuration"
  | .invalid fault => s!"Invalid config: {fault.message}"

namespace Config

def ofJson? (value : Json) : Option Config :=
  Json.configFormat.config? value

/-- A valid configuration. -/
def validated (config : Config) : Except ConfigError Config :=
  match config.fault? with
  | some fault => .error (.invalid fault)
  | none => .ok config

/-- The valid configuration of a file. -/
def ofText (text : String) : Except ConfigError Config :=
  match Toml.parse? text >>= Toml.configFormat.config? with
  | some config => config.validated
  | none => .error .malformed

end Config

end HeaderSynth
