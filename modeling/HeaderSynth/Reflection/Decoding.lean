import HeaderSynth.Json.Decode
import HeaderSynth.Json.Reader
import HeaderSynth.Reflection.Snapshot
import HeaderSynth.Reflection.Validation
import HeaderSynth.Text.Affix

/-!
# Reflection graphs from JSON

Decoding follows the shape of the value: the parts of a composite type are
decoded together with the members that hold them, so no step is repeated and
the recursion is on the value itself.
-/

namespace HeaderSynth

open Json (Record Tagged)

def ObjectId.ofJson? (value : Json) : Option ObjectId :=
  value.asUInt32?.map ObjectId.mk

def Flags.ofJson? {kind : FlagKind} (value : Json) : Option (Flags kind) :=
  (value.asNat? (Nat.pow 2 kind.width)).map Flags.ofNat

/-- Hexadecimal bytes, with blanks around them. -/
def Instance.bytesOfJson? (value : Json) : Option (List UInt8) := do
  Text.bytesOfHex? (Text.trim (← value.asText?).toList)

/-- A managed value, possibly `nested` inside a tagged record. -/
def ManagedValue.decode (nested : Bool) (value : Json) : Option ManagedValue := do
  let record ← Record.ofJson? ["type", "value"] value
  match ← record.required "type" (Json.asChoice? nested) with
  | "object" => (record.nullable "value" ObjectId.ofJson?).map .object
  | "string" => (record.required "value" Json.asText?).map .string
  | "count" => (record.required "value" Json.asUInt64?).map .count
  | _ => none

def ManagedSlot.decode (nested : Bool) (value : Json) : Option ManagedSlot := do
  let record ← Record.ofJson? ["offset", "value"] value
  return {
    offset := ← record.required "offset" Json.asUInt64?
    value := ← record.required "value" (ManagedValue.decode nested) }

/-- The memory of an instance, possibly `nested` inside a tagged record. -/
def Instance.decode (nested : Bool) (value : Json) : Option Instance := do
  let record ← Record.ofJson? ["bytes", "managed"] value
  return {
    bytes := ← record.required "bytes" Instance.bytesOfJson?
    managed := ← record.withDefault "managed" [] (Json.asList? (ManagedSlot.decode nested)) }

/-- A managed value that stands by itself. -/
def ManagedValue.ofJson? (value : Json) : Option ManagedValue :=
  ManagedValue.decode false value

/-- An instance that stands by itself. -/
def Instance.ofJson? (value : Json) : Option Instance :=
  Instance.decode false value

def ObjectReference.ofJson? (value : Json) : Option ObjectReference := do
  match ← value.asChoice? true with
  | "raw" => some .raw
  | "ptr" => some .ptr
  | "weak" => some .weak
  | "lazy" => some .lazy
  | "soft" => some .soft
  | _ => none

def ClassReference.ofJson? (value : Json) : Option ClassReference := do
  match ← value.asChoice? true with
  | "raw" => some .raw
  | "ptr" => some .ptr
  | "soft" => some .soft
  | _ => none

/-- The tags of the field kinds. -/
def FieldKind.tags : List String :=
  ["int8", "int16", "int32", "int64", "uint16", "uint32", "uint64", "float", "double", "byte",
    "enum", "bool", "object", "class", "interface", "struct", "delegate", "field_path", "name",
    "str", "text", "array", "set", "map", "unsupported"]

/-- The members of a field kind besides its tag, in order. -/
def FieldKind.memberNames : String → List String
  | "byte" => ["enum_type"]
  | "enum" => ["enum_type", "underlying"]
  | "bool" => ["byte_offset", "field_mask"]
  | "object" => ["reference", "class"]
  | "class" => ["reference", "meta_class"]
  | "interface" => ["interface"]
  | "struct" => ["struct_type"]
  | "delegate" => ["signature", "multicast"]
  | "field_path" => ["field_class"]
  | "array" => ["inner"]
  | "set" => ["element"]
  | "map" => ["key", "value"]
  | "unsupported" => ["class_name"]
  | _ => []

def Slot.memberNames : List String :=
  ["name", "flags", "array_dim", "offset", "rep_notify", "type"]

/-- The slot of a field. -/
def Slot.ofRecord? (record : Record) : Option Slot := do
  return {
    name := ← record.required "name" Json.asText?
    flags := ← record.withDefault "flags" .none Flags.ofJson?
    arrayDim := ← record.withDefault "array_dim" 1 Json.asUInt32?
    offset := ← record.withDefault "offset" 0 Json.asUInt64?
    repNotify := ← record.optional "rep_notify" Json.asText? }

/-- A type from its tag and its record; `part?` gives the parts of a composite
type, already decoded. -/
def FieldKind.ofRecord? (tag : String) (record : Record) (part? : String → Option Field) :
    Option FieldKind :=
  match tag with
  | "int8" => some .int8
  | "int16" => some .int16
  | "int32" => some .int32
  | "int64" => some .int64
  | "uint16" => some .uint16
  | "uint32" => some .uint32
  | "uint64" => some .uint64
  | "float" => some .float
  | "double" => some .double
  | "name" => some .name
  | "str" => some .str
  | "text" => some .text
  | "byte" => (record.optional "enum_type" ObjectId.ofJson?).map .byte
  | "enum" => do
    let enumType ← record.nullable "enum_type" ObjectId.ofJson?
    let underlying ← part? "underlying"
    return .enum enumType underlying.toSlot underlying.kind
  | "bool" => do
    let byteOffset ← record.withDefault "byte_offset" 0 Json.asUInt64?
    let mask ← record.withDefault "field_mask" wholeByte Json.asUInt8?
    return .bool byteOffset mask
  | "object" => do
    let reference ← record.withDefault "reference" .raw ObjectReference.ofJson?
    let target ← record.optional "class" ObjectId.ofJson?
    return .object reference target
  | "class" => do
    let reference ← record.withDefault "reference" .raw ClassReference.ofJson?
    let metaClass ← record.optional "meta_class" ObjectId.ofJson?
    return .classRef reference metaClass
  | "interface" => (record.optional "interface" ObjectId.ofJson?).map .interface
  | "struct" => (record.nullable "struct_type" ObjectId.ofJson?).map .struct
  | "delegate" => do
    let signature ← record.nullable "signature" ObjectId.ofJson?
    let multicast ← record.withDefault "multicast" false Json.asBool?
    return .delegate signature multicast
  | "field_path" => (record.required "field_class" Json.asText?).map .fieldPath
  | "array" => (part? "inner").map fun inner => .array inner.toSlot inner.kind
  | "set" => (part? "element").map fun element => .set element.toSlot element.kind
  | "map" => do
    let key ← part? "key"
    let value ← part? "value"
    return .map key.toSlot key.kind value.toSlot value.kind
  | "unsupported" => (record.required "class_name" Json.asText?).map .unsupported
  | _ => none

mutual

/-- A field.  Its type is `nested` when the field stands inside a tagged record. -/
def Field.decode (nested : Bool) : Json → Option Field
  | .object members => do
    let record ← Record.ofJson? Slot.memberNames (.object members)
    let kind ← ((FieldKind.decodeMembers nested members).lookup "type").join
    return { ← Slot.ofRecord? record with kind }
  | .array items => do
    let record ← Record.ofJson? Slot.memberNames (.array items)
    let kinds := Slot.memberNames.zip (FieldKind.decodeItems nested items)
    let kind ← (kinds.lookup "type").join
    return { ← Slot.ofRecord? record with kind }
  | _ => none

/-- A field type. -/
def FieldKind.decode (nested : Bool) : Json → Option FieldKind
  | .object members => do
    let tagged ← Tagged.ofJson? "kind" (.object members)
    let tag ← Json.variantName? nested FieldKind.tags tagged.tag
    let record ← Record.ofJson? (FieldKind.memberNames tag) tagged.content
    let parts := Field.decodeMembers members
    FieldKind.ofRecord? tag record fun name => (parts.lookup name).join
  | .array (tag :: items) => do
    let tag ← Json.variantName? nested FieldKind.tags tag
    let names := FieldKind.memberNames tag
    let record ← Record.ofJson? names (.array items)
    let parts := names.zip (Field.decodeItems items)
    FieldKind.ofRecord? tag record fun name => (parts.lookup name).join
  | _ => none

/-- Every member, read as a field type. -/
def FieldKind.decodeMembers (nested : Bool) :
    List (String × Json) → List (String × Option FieldKind)
  | [] => []
  | (name, value) :: members =>
    (name, FieldKind.decode nested value) :: FieldKind.decodeMembers nested members

/-- Every item, read as a field type. -/
def FieldKind.decodeItems (nested : Bool) : List Json → List (Option FieldKind)
  | [] => []
  | value :: items => FieldKind.decode nested value :: FieldKind.decodeItems nested items

/-- Every member, read as a field inside a tagged record. -/
def Field.decodeMembers : List (String × Json) → List (String × Option Field)
  | [] => []
  | (name, value) :: members => (name, Field.decode true value) :: Field.decodeMembers members

/-- Every item, read as a field inside a tagged record. -/
def Field.decodeItems : List Json → List (Option Field)
  | [] => []
  | value :: items => Field.decode true value :: Field.decodeItems items

end

/-- A field that stands by itself. -/
def Field.ofJson? (value : Json) : Option Field :=
  Field.decode false value

/-- A field type that stands by itself. -/
def FieldKind.ofJson? (value : Json) : Option FieldKind :=
  FieldKind.decode false value

def ClassInfo.ofJson? (value : Json) : Option ClassInfo := do
  let record ← Record.ofJson? ["flags", "super_class", "within", "config_name", "interfaces",
    "fields", "functions", "default_object"] value
  return {
    flags := ← record.required "flags" Flags.ofJson?
    superClass := ← record.optional "super_class" ObjectId.ofJson?
    within := ← record.optional "within" ObjectId.ofJson?
    configName := ← record.withDefault "config_name" "" Json.asText?
    interfaces := ← record.withDefault "interfaces" [] (Json.asList? ObjectId.ofJson?)
    fields := ← record.withDefault "fields" [] (Json.asList? (Field.decode true))
    functions := ← record.withDefault "functions" [] (Json.asList? ObjectId.ofJson?)
    defaultObject := ← record.optional "default_object" (Instance.decode true) }

def StructInfo.ofJson? (value : Json) : Option StructInfo := do
  let record ← Record.ofJson? ["flags", "super_struct", "fields", "size", "default_instance"] value
  return {
    flags := ← record.required "flags" Flags.ofJson?
    superStruct := ← record.optional "super_struct" ObjectId.ofJson?
    fields := ← record.withDefault "fields" [] (Json.asList? (Field.decode true))
    size := ← record.withDefault "size" 0 Json.asUInt64?
    defaultInstance := ← record.optional "default_instance" (Instance.decode true) }

/-- The form of an enumeration, possibly `nested` inside a tagged record. -/
def EnumForm.decode (nested : Bool) (value : Json) : Option EnumForm := do
  match ← value.asChoice? nested with
  | "regular" => some .regular
  | "namespaced" => some .namespaced
  | "enum_class" => some .enumClass
  | _ => none

/-- A form that stands by itself. -/
def EnumForm.ofJson? (value : Json) : Option EnumForm :=
  EnumForm.decode false value

def EnumEntry.ofJson? (value : Json) : Option EnumEntry := do
  let record ← Record.ofJson? ["name", "value"] value
  return {
    name := ← record.required "name" Json.asText?
    value := ← record.required "value" Json.asInt64? }

def EnumInfo.ofJson? (value : Json) : Option EnumInfo := do
  let record ← Record.ofJson? ["form", "flags", "entries"] value
  return {
    form := ← record.withDefault "form" .regular (EnumForm.decode true)
    flags := ← record.withDefault "flags" .none Flags.ofJson?
    entries := ← record.withDefault "entries" [] (Json.asList? EnumEntry.ofJson?) }

def MethodInfo.ofJson? (value : Json) : Option MethodInfo := do
  let record ← Record.ofJson? ["flags", "params", "sparse"] value
  return {
    flags := ← record.required "flags" Flags.ofJson?
    params := ← record.withDefault "params" [] (Json.asList? (Field.decode true))
    sparse := ← record.withDefault "sparse" false Json.asBool? }

/-- How many arrays and objects the payload of an object may nest.  A snapshot nests at
most 127 of them, and three are open around a payload. -/
def ObjectKind.maxDepth : Nat := 124

/-- The payload of an object.  Every part of it must be readable, also the members
that are ignored. -/
def ObjectKind.ofJson? (value : Json) : Option ObjectKind := do
  if !value.isReadable ObjectKind.maxDepth then none
  let tagged ← Tagged.ofJson? "kind" value
  match ← tagged.tag.asText? with
  | "class" => (ClassInfo.ofJson? tagged.content).map .classType
  | "interface" => (ClassInfo.ofJson? tagged.content).map .interfaceType
  | "struct" => (StructInfo.ofJson? tagged.content).map .structType
  | "enum" => (EnumInfo.ofJson? tagged.content).map .enumType
  | "function" => (MethodInfo.ofJson? tagged.content).map .function
  | "instance" => do
    let record ← Record.ofJson? ["class"] tagged.content
    (record.nullable "class" ObjectId.ofJson?).map .instanceOf
  | _ => none

def Object.ofJson? (value : Json) : Option Object := do
  let record ← Record.ofJson? ["name", "package", "outer", "object_flags", "kind"] value
  return {
    name := ← record.required "name" Json.asText?
    package := ← record.required "package" Json.asText?
    outer := ← record.optional "outer" ObjectId.ofJson?
    objectFlags := ← record.withDefault "object_flags" .none Flags.ofJson?
    kind := ← record.required "kind" ObjectKind.ofJson? }

def Graph.ofJson? (value : Json) : Option Graph := do
  let record ← Record.ofJson? ["objects"] value
  let objects ← record.required "objects" (Json.asList? Object.ofJson?)
  return ⟨objects.toArray⟩

/-- Why a snapshot cannot be used. -/
inductive SnapshotError where
  /-- The text is no JSON, or not of the shape of a snapshot. -/
  | malformed
  | invalid (fault : GraphFault)
deriving DecidableEq, Repr

def SnapshotError.message : SnapshotError → String
  | .malformed => "Snapshot is not valid JSON: it does not have the shape of a snapshot"
  | .invalid fault => s!"Invalid snapshot: {fault.message}"

/-- A valid graph. -/
def Graph.validated (graph : Graph) : Except SnapshotError Graph :=
  match graph.fault? with
  | some fault => .error (.invalid fault)
  | none => .ok graph

/-- A snapshot of a valid graph. -/
def Snapshot.validated (snapshot : Snapshot) : Except SnapshotError Snapshot := do
  let graph ← snapshot.graph.validated
  return { snapshot with graph }

/-- A snapshot as it is read, without an index. -/
def Snapshot.ofJson? (value : Json) : Option Snapshot :=
  (Graph.ofJson? value).map fun graph => ⟨graph, .empty⟩

/-- The snapshot that a JSON value describes, indexed and of a valid graph. -/
def Snapshot.load (value : Json) : Except SnapshotError Snapshot :=
  match Snapshot.ofJson? value with
  | some snapshot => snapshot.rebuildIndex.validated
  | none => .error .malformed

/-- The snapshot of a file. -/
def Snapshot.ofText (text : String) : Except SnapshotError Snapshot :=
  match Json.parse? text with
  | some value => Snapshot.load value
  | none => .error .malformed

/-- The valid graph that a JSON value describes. -/
def Graph.load (value : Json) : Except SnapshotError Graph :=
  (Snapshot.load value).map (·.graph)

/-- The valid graph of a snapshot file. -/
def Graph.ofText (text : String) : Except SnapshotError Graph :=
  (Snapshot.ofText text).map (·.graph)

end HeaderSynth
