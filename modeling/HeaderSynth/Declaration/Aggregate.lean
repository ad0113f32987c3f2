import HeaderSynth.Annotation.Types
import HeaderSynth.Declaration.DefaultValue
import HeaderSynth.Declaration.Member

/-!
# Aggregates

A value aggregate is declared with its fields and a constructor.  The constructor
restores the default instance, or a zeroed one where none is recorded.  Places in memory are
words of 64 bits.  Their sums wrap around, as in a release build, which does not check them.
-/

namespace HeaderSynth

open Emit (line depend indented)

/-- The bytes of the widest number. -/
def maxScalarWidth : UInt64 := 8

/-- The place of the byte of a truth value behind the start of its field. -/
def FieldKind.byteOffset : FieldKind → UInt64
  | .bool byteOffset _ => byteOffset
  | _ => 0

/-- The end of the memory that reading a field can touch. -/
def Field.extent (field : Field) : UInt64 :=
  field.offset + field.kind.byteOffset + maxScalarWidth * max field.arrayDim.toUInt64 1

namespace StructInfo

/-- The end of the memory that reading the fields can touch. -/
def extent (info : StructInfo) : UInt64 :=
  (info.fields.map (·.extent)).foldl max 0

/-- The memory that the constructor restores, if it can be had. -/
def memory? (info : StructInfo) : Option Instance :=
  match info.defaultInstance with
  | some memory => some memory
  | none => Instance.zeroed? (max info.size info.extent)

def isExported (info : StructInfo) : Bool :=
  info.flags.contains StructFlags.requiredApi

end StructInfo

/-- Declares an aggregate in the header of `module`. -/
def declareStruct (graph : Graph) (options : GeneratorOptions) (module : String)
    (usage : TypeUsage) (id : ObjectId) (object : Object) (info : StructInfo) : Emit Unit := do
  let name := graph.structName id
  let annotations ← annotationText (graph.structArguments options usage id info)
  let base ← match info.superStruct with
    | some parent => do
      depend parent .full
      pure s!" : public {graph.structName parent}"
    | none => pure ""
  line s!"USTRUCT({annotations})"
  line s!"struct {exportMacro module info.isExported}{name}{base} \x7b"
  indented do
    line generatedBody
    writeSections none <|
      publicSection (pure ()) ::
      info.fields.map (fieldSection graph options object.name) ++
      [publicSection (line s!"{exportMacro module (!info.isExported)}{name}();")]
  line "\x7d;"

/-- Defines the constructor of an aggregate.  A run that asks for memory which cannot be had
ends there, so it does not matter what is written then. -/
def defineStruct (graph : Graph) (id : ObjectId) (object : Object) (info : StructInfo) :
    Emit Unit := do
  let name := graph.structName id
  line s!"{name}::{name}() \x7b"
  indented do
    match info.memory? with
    | some memory => info.fields.forM (restoreField graph object.name memory)
    | none => pure ()
  line "\x7d"

end HeaderSynth
