import HeaderSynth.Declaration.Emission

/-!
# Type texts

The text of a type in a declaration, and what the type demands.  References to
objects need only the name of their target, so that headers do not include each
other in circles; values need the whole definition.
-/

namespace HeaderSynth

/-- The header that declares `TSubclassOf`. -/
def subclassOfHeader : String := "Templates/SubclassOf.h"

/-- Whether a member of this type shares its byte with others. -/
def FieldKind.isBitfield : FieldKind → Bool
  | .bool _ mask => mask ≠ wholeByte
  | _ => false

def ObjectReference.wrap : ObjectReference → String → String
  | .raw, target => target ++ "*"
  | .ptr, target => "TObjectPtr<" ++ target ++ ">"
  | .weak, target => "TWeakObjectPtr<" ++ target ++ ">"
  | .lazy, target => "TLazyObjectPtr<" ++ target ++ ">"
  | .soft, target => "TSoftObjectPtr<" ++ target ++ ">"

open Logged (write fail)

/-- Demands the definition of an enumeration; scripts see it through a visible
field. -/
def demandEnum (slot : Slot) (id : ObjectId) : Logged Demand GenerateError Unit := do
  write (.depend id .full)
  if slot.flags.contains PropertyFlags.blueprintVisible then write (.visibleEnum id)

/-- The text of the type of a field of `owner`.  A direct `member` of a type can be a
bit field and can need a hash; a parameter or a part of another type cannot. -/
def typeText (graph : Graph) (owner : String) (member : Bool) (slot : Slot) :
    FieldKind → Logged Demand GenerateError String
  | .int8 => pure "int8"
  | .int16 => pure "int16"
  | .int32 => pure "int32"
  | .int64 => pure "int64"
  | .uint16 => pure "uint16"
  | .uint32 => pure "uint32"
  | .uint64 => pure "uint64"
  | .float => pure "float"
  | .double => pure "double"
  | .byte none => pure "uint8"
  | .byte (some id) => do
    demandEnum slot id
    return "TEnumAsByte<" ++ graph.enumTypeName id ++ ">"
  | .enum none _ _ => fail (.nullEnumType owner slot.name)
  | .enum (some id) innerSlot underlying => do
    demandEnum slot id
    let type ← typeText graph owner false innerSlot underlying
    write (.underlying id type)
    return graph.enumTypeName id
  | .bool _ mask => pure (if member && mask ≠ wholeByte then "uint8" else "bool")
  | .object reference none => pure (reference.wrap "UObject")
  | .object reference (some id) => do
    write (.depend id .forward)
    return reference.wrap (graph.className id)
  | .classRef .ptr _ => pure "TObjectPtr<UClass>"
  | .classRef .raw none => pure "UClass*"
  | .classRef .raw (some id) =>
    if graph.isRootObject id then pure "UClass*"
    else do
      write (.depend id .forward)
      write (.includeHeader subclassOfHeader)
      return "TSubclassOf<" ++ graph.className id ++ ">"
  | .classRef .soft none => pure "TSoftClassPtr<UObject>"
  | .classRef .soft (some id) => do
    write (.depend id .forward)
    return "TSoftClassPtr<" ++ graph.className id ++ ">"
  | .interface none => pure "FScriptInterface"
  | .interface (some id) =>
    if graph.isRootInterface id then pure "FScriptInterface"
    else do
      write (.depend id .forward)
      return "TScriptInterface<" ++ graph.contractName id ++ ">"
  | .struct none => fail (.nullStructType owner slot.name)
  | .struct (some id) => do
    write (.depend id .full)
    write (.usedStruct id)
    return graph.structName id
  | .delegate none _ => fail (.unsupportedFieldKind owner slot.name "delegate without signature")
  | .delegate (some id) _ => do
    write (.depend id .full)
    return graph.delegateName id
  | .fieldPath fieldClass => pure ("TFieldPath<F" ++ fieldClass ++ ">")
  | .name => pure "FName"
  | .str => pure "FString"
  | .text => pure "FText"
  | .array innerSlot inner => do
    let type ← typeText graph owner false innerSlot inner
    return "TArray<" ++ type ++ ">"
  | .set elementSlot element => do
    let type ← typeText graph owner false elementSlot element
    return "TSet<" ++ type ++ ">"
  | .map keySlot key valueSlot value => do
    match member, key with
    | true, .struct (some id) => write (.hashedKey id)
    | _, _ => pure ()
    let keyType ← typeText graph owner false keySlot key
    let valueType ← typeText graph owner false valueSlot value
    return "TMap<" ++ keyType ++ ", " ++ valueType ++ ">"
  | .unsupported className => fail (.unsupportedFieldKind owner slot.name className)

/-- The text of a field's type where the field is a parameter or return value. -/
def Field.typeText (graph : Graph) (owner : String) (field : Field) : Emit String :=
  Emit.ofDemands (HeaderSynth.typeText graph owner false field.toSlot field.kind)

/-- The text of a field's type where the field is a member. -/
def Field.memberTypeText (graph : Graph) (owner : String) (field : Field) : Emit String :=
  Emit.ofDemands (HeaderSynth.typeText graph owner true field.toSlot field.kind)

/-- Aggregates that scripts cannot take as the type of a field or parameter. -/
def hiddenStructs : List String :=
  ["FloatInterval", "SplineCurves", "Int32Interval", "BoneReference", "OverlapResult", "RichCurve"]

/-- Whether scripts accept a type. -/
def FieldKind.isExposable (graph : Graph) : FieldKind → Bool
  | .int8 => false
  | .int16 => false
  | .int64 => false
  | .uint16 => false
  | .uint32 => false
  | .uint64 => false
  | .double => false
  | .object .weak _ => false
  | .array _ inner => inner.isExposable graph
  | .set _ element => element.isExposable graph
  | .map _ key _ value => key.isExposable graph && value.isExposable graph
  | .struct (some id) =>
    match graph.object? id with
    | some found => !hiddenStructs.contains found.name
    | none => true
  | .enum _ _ (.byte _) => true
  | .enum .. => false
  | _ => true

end HeaderSynth
