import HeaderSynth.Declaration.Literal
import HeaderSynth.Declaration.TypeText
import HeaderSynth.Text.FixedPoint

/-!
# Default values

The zero value of a type, for the bodies of stubs, and the statements of a
constructor that restore a field from the memory of a default instance.  The
elements of containers and aggregates are not restored.
-/

namespace HeaderSynth

open Emit (line depend diagnose)

/-- The name of a value of an enumeration; only plain enumerations leave it
unqualified. -/
def enumValueName? (graph : Graph) (id : ObjectId) (value : Int) : Option String := do
  let object ← graph.object? id
  let info ← object.enumInfo?
  let entry := entryBaseName (← info.nameOf? value)
  return if info.form = .regular then entry else object.name ++ "::" ++ entry

/-- A value of an enumeration: its name, or a cast and a diagnostic. -/
def enumLiteral (graph : Graph) (owner member : String) (id : ObjectId) (value : Int) :
    Emit String :=
  match enumValueName? graph id value with
  | some name => pure name
  | none => do
    let type := graph.enumName id
    diagnose owner member s!"value {value} has no name in enum '{type}', casting instead"
    return s!"({type}){value}"

/-- The value of the first entry of an enumeration, or zero. -/
def firstEnumValue (graph : Graph) (id : ObjectId) : Int :=
  match (graph.object? id).bind (·.enumInfo?) with
  | some info => (info.entries.head?.map (·.value.toInt)).getD 0
  | none => 0

/-- The zero value of the type of a field. -/
def zeroValue (graph : Graph) (owner : String) (field : Field) : Emit String :=
  match field.kind with
  | .byte none => pure "0"
  | .byte (some id) => enumLiteral graph owner field.name id (firstEnumValue graph id)
  | .enum (some id) _ _ => enumLiteral graph owner field.name id (firstEnumValue graph id)
  | .enum none _ _ => Logged.fail (.nullEnumType owner field.name)
  | .bool .. => pure "false"
  | .int8 => pure "0"
  | .int16 => pure "0"
  | .int32 => pure "0"
  | .int64 => pure "0"
  | .uint16 => pure "0"
  | .uint32 => pure "0"
  | .uint64 => pure "0"
  | .float => pure "0.0f"
  | .double => pure "0.0"
  | .object .. => pure "NULL"
  | .classRef .. => pure "NULL"
  | .interface _ => pure "NULL"
  | .struct none => Logged.fail (.nullStructType owner field.name)
  | .struct (some id) => pure (graph.structName id ++ "\x7b\x7d")
  | .fieldPath _ => pure "FFieldPath()"
  | .delegate .. => do return (← field.typeText graph owner) ++ "()"
  | .array .. => do return (← field.typeText graph owner) ++ "()"
  | .set .. => do return (← field.typeText graph owner) ++ "()"
  | .map .. => do return (← field.typeText graph owner) ++ "()"
  | .name => pure "NAME_None"
  | .str => pure "TEXT(\"\")"
  | .text => pure "FText::GetEmpty()"
  | .unsupported className => Logged.fail (.unsupportedFieldKind owner field.name className)

/-- The bytes of the numeric type under an enumeration. -/
def FieldKind.integerWidth : FieldKind → Nat
  | .int8 => 1
  | .byte _ => 1
  | .int16 => 2
  | .uint16 => 2
  | .int64 => 8
  | .uint64 => 8
  | _ => 4

/-- A read of memory as part of a declaration. -/
def readMemory {α : Type} (result : Except OutOfBounds α) : Emit α :=
  Logged.ofExcept (result.mapError .outOfBounds)

/-- The text of a number with two decimal places; one that is not finite is skipped
with a diagnostic. -/
def fixedValue? (owner member ending : String) (value : Text.FloatValue) : Emit (Option String) :=
  match value.fixed? 2 with
  | some text => pure (some (text ++ ending))
  | none => do
    diagnose owner member s!"non-finite default {value.special} skipped"
    return none

/-- The value of an object reference, if it can be written. -/
def objectValue? (graph : Graph) (owner member : String) :
    Option ObjectId → Emit (Option String)
  | none => pure (some "NULL")
  | some target =>
    match graph.object? target with
    | none => do
      diagnose owner member s!"default references unknown object {target.render}"
      return none
    | some object =>
      let owned := object.objectFlags.contains ObjectFlags.defaultSubObject
      match owned, object.kind with
      | true, .instanceOf (some type) => do
        depend type .full
        return some s!"CreateDefaultSubobject<{graph.className type}>(TEXT(\"{object.name}\"))"
      | _, .classType _ => do
        depend target .full
        return some s!"{graph.className target}::StaticClass()"
      | _, _ => do
        diagnose owner member
          s!"unhandled default object reference '{object.package}{object.name}'"
        return none

/-- The value of a class reference, if it can be written. -/
def classValue? (graph : Graph) (owner member : String) : Option ObjectId → Emit (Option String)
  | none => pure (some "NULL")
  | some target =>
    let native :=
      match (graph.object? target).bind (·.classInfo?) with
      | some info => info.flags.contains ClassFlags.native
      | none => false
    if native then do
      depend target .full
      return some s!"{graph.className target}::StaticClass()"
    else do
      diagnose owner member s!"default references non-native class {target.render}"
      return none

/-- The value that a field has in memory; nothing for one that the constructor need
not or cannot assign.  The place of a truth value wraps around at the end of the 64 bits. -/
def storedValue? (graph : Graph) (owner : String) (memory : Instance) (field : Field) :
    Emit (Option String) :=
  let offset := field.offset.toNat
  let signed (width : Nat) : Emit (Option String) := do
    return some (toString (← readMemory (memory.readSigned offset width)))
  let unsigned (width : Nat) : Emit (Option String) := do
    return some (toString (← readMemory (memory.readUnsigned offset width)))
  match field.kind with
  | .byte none => do return some (toString (← readMemory (memory.readByte offset)))
  | .byte (some id) => do
    let value ← readMemory (memory.readByte offset)
    return some (← enumLiteral graph owner field.name id value)
  | .enum none _ _ => Logged.fail (.nullEnumType owner field.name)
  | .enum (some id) _ underlying => do
    depend id .full
    let value ← readMemory (memory.readSigned offset underlying.integerWidth)
    return some (← enumLiteral graph owner field.name id value)
  | .bool byteOffset mask => do
    let byte ← readMemory (memory.readByte (field.offset + byteOffset).toNat)
    return some (if byte &&& mask.toNat ≠ 0 then "true" else "false")
  | .int8 => signed 1
  | .int16 => signed 2
  | .int32 => signed 4
  | .int64 => signed 8
  | .uint16 => unsigned 2
  | .uint32 => unsigned 4
  | .uint64 => unsigned 8
  | .float => do
    let bits ← readMemory (memory.readUnsigned offset 4)
    fixedValue? owner field.name "f" (Text.FloatLayout.single.decode bits)
  | .double => do
    let bits ← readMemory (memory.readUnsigned offset 8)
    fixedValue? owner field.name "" (Text.FloatLayout.double.decode bits)
  | .name =>
    let text := memory.stringAt field.offset
    pure (if text = "" ∨ text = "None" then none else some (stringLiteral text))
  | .str =>
    let text := memory.stringAt field.offset
    pure (if text = "" then none else some (stringLiteral text))
  | .text =>
    let text := memory.stringAt field.offset
    pure (if text = "" then none else some s!"FText::FromString({stringLiteral text})")
  | .object .raw _ => objectValue? graph owner field.name (memory.objectAt field.offset)
  | .object .ptr _ => objectValue? graph owner field.name (memory.objectAt field.offset)
  | .classRef .raw _ => classValue? graph owner field.name (memory.objectAt field.offset)
  | .classRef .ptr _ => classValue? graph owner field.name (memory.objectAt field.offset)
  | .unsupported className => Logged.fail (.unsupportedFieldKind owner field.name className)
  | _ => pure none

/-- The assignments of a value: one, or one per element of a fixed array. -/
def assignments (field : Field) (value : String) : List String :=
  if field.arrayDim = 1 then [s!"this->{field.name} = {value};"]
  else (List.range field.arrayDim.toNat).map fun index =>
    s!"this->{field.name}[{index}] = {value};"

/-- Makes room in a container that has elements. -/
def reserve (method : String) (memory : Instance) (field : Field) : Emit Unit :=
  let count := memory.countAt field.offset
  if count = 0 then pure () else line s!"this->{field.name}.{method}({count});"

/-- The statements that restore a field from the memory of a default instance. -/
def restoreField (graph : Graph) (owner : String) (memory : Instance) (field : Field) :
    Emit Unit :=
  match field.kind with
  | .array .. => reserve "AddDefaulted" memory field
  | .set .. => reserve "Reserve" memory field
  | .map .. => reserve "Reserve" memory field
  | _ => do
    match ← storedValue? graph owner memory field with
    | some value => (assignments field value).forM line
    | none => pure ()

end HeaderSynth
