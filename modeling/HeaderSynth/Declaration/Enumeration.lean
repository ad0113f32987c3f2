import HeaderSynth.Annotation.Types
import HeaderSynth.Declaration.Signature

/-!
# Enumerations

An entry has an explicit value only where the values do not follow each other.
-/

namespace HeaderSynth

open Emit (line indented)

def maxSuffix : String := "_MAX"

/-- A value in hexadecimal, with its sign. -/
def hexValue (value : Int) : String :=
  (if value < 0 then "-" else "") ++ "0x" ++
    String.ofList (Text.hexDigits .upper value.natAbs)

/-- The lines of entries, of which the first continues the sequence when its value is
`expected`.  The entry that the tool chain adds by itself is left out where it
continues the sequence; other entries of this kind are hidden. -/
def entryLines (enumName : String) (expected : Int64) : List EnumEntry → List String
  | [] => []
  | entry :: rest =>
    let name := entryBaseName entry.name
    let isExplicit := entry.value ≠ expected
    let value := if isExplicit then s!" = {hexValue entry.value.toInt}" else ""
    let isMax := Text.hasSuffix maxSuffix name
    let text :=
      if isMax && name = enumName ++ maxSuffix && !isExplicit then []
      else [name ++ value ++ (if isMax then " UMETA(Hidden)" else "") ++ ","]
    text ++ entryLines enumName (entry.value + 1) rest

/-- The numeric type that is written for a scoped enumeration. -/
def underlyingType? (options : GeneratorOptions) (usage : TypeUsage) (id : ObjectId) :
    Option String :=
  match usage.underlying.get? id with
  | some recorded => some (if id ∈ usage.visibleEnums then "uint8" else recorded)
  | none => if options.exposeEnums then some "uint8" else none

/-- Declares an enumeration. -/
def declareEnum (options : GeneratorOptions) (usage : TypeUsage) (id : ObjectId) (object : Object)
    (info : EnumInfo) : Emit Unit := do
  let annotations ← annotationText (enumArguments options usage id info)
  line s!"UENUM({annotations})"
  let entries : Emit Unit := do
    indented ((entryLines object.name 0 info.entries).forM line)
    line "\x7d;"
  match info.form with
  | .namespaced => do
    line s!"namespace {object.name} \x7b"
    indented do
      line "enum Type \x7b"
      entries
    line "\x7d"
  | .regular => do
    line s!"enum {object.name} \x7b"
    entries
  | .enumClass => do
    let underlying := ((underlyingType? options usage id).map (" : " ++ ·)).getD ""
    line s!"enum class {object.name}{underlying} \x7b"
    entries

end HeaderSynth
