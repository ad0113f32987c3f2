import HeaderSynth.Json.Printer
import HeaderSynth.Reflection.Snapshot

/-!
# Reflection graphs as JSON

The members of every record stand in a fixed order.  A tagged record begins with
its tag; a member that may be missing is left out when it holds nothing.
-/

namespace HeaderSynth

/-- A member that is left out when there is no value. -/
def Json.optionalMember {α : Type} (key : String) (encode : α → Json) (value : Option α) :
    List (String × Json) :=
  match value with
  | none => []
  | some value => [(key, encode value)]

/-- A value, or `null` for none. -/
def Json.ofOption {α : Type} (encode : α → Json) : Option α → Json
  | none => .null
  | some value => encode value

def Json.ofNat (n : Nat) : Json := .integer n

def ObjectId.toJson (id : ObjectId) : Json := .ofNat id.index

def Flags.toJson {kind : FlagKind} (flags : Flags kind) : Json := .ofNat flags.toNat

def ManagedValue.toJson : ManagedValue → Json
  | .object target => .object [("type", .string "object"), ("value", .ofOption ObjectId.toJson target)]
  | .string text => .object [("type", .string "string"), ("value", .string text)]
  | .count size => .object [("type", .string "count"), ("value", .ofNat size.toNat)]

def ManagedSlot.toJson (slot : ManagedSlot) : Json :=
  .object [("offset", .ofNat slot.offset.toNat), ("value", slot.value.toJson)]

def Instance.toJson (memory : Instance) : Json :=
  .object <|
    ("bytes", .string (String.ofList (Text.hexOfBytes memory.bytes))) ::
      if memory.managed.isEmpty then []
      else [("managed", .array (memory.managed.map ManagedSlot.toJson))]

/-- The members of a field before its type. -/
def Slot.members (slot : Slot) : List (String × Json) :=
  [("name", .string slot.name), ("flags", slot.flags.toJson),
    ("array_dim", .ofNat slot.arrayDim.toNat), ("offset", .ofNat slot.offset.toNat)] ++
    Json.optionalMember "rep_notify" .string slot.repNotify

def ObjectReference.tag : ObjectReference → String
  | .raw => "raw"
  | .ptr => "ptr"
  | .weak => "weak"
  | .lazy => "lazy"
  | .soft => "soft"

def ClassReference.tag : ClassReference → String
  | .raw => "raw"
  | .ptr => "ptr"
  | .soft => "soft"

/-- The tag of a field kind. -/
def FieldKind.tag : FieldKind → String
  | .int8 => "int8"
  | .int16 => "int16"
  | .int32 => "int32"
  | .int64 => "int64"
  | .uint16 => "uint16"
  | .uint32 => "uint32"
  | .uint64 => "uint64"
  | .float => "float"
  | .double => "double"
  | .byte _ => "byte"
  | .enum .. => "enum"
  | .bool .. => "bool"
  | .object .. => "object"
  | .classRef .. => "class"
  | .interface _ => "interface"
  | .struct _ => "struct"
  | .delegate .. => "delegate"
  | .fieldPath _ => "field_path"
  | .name => "name"
  | .str => "str"
  | .text => "text"
  | .array .. => "array"
  | .set .. => "set"
  | .map .. => "map"
  | .unsupported _ => "unsupported"

/-- A part of a composite type: its slot and its encoded type. -/
def Slot.toJson (slot : Slot) (type : Json) : Json :=
  .object (slot.members ++ [("type", type)])

def FieldKind.toJson : FieldKind → Json
  | .byte enumType =>
    .object (("kind", .string "byte") :: Json.optionalMember "enum_type" ObjectId.toJson enumType)
  | .enum enumType slot underlying =>
    .object [("kind", .string "enum"), ("enum_type", .ofOption ObjectId.toJson enumType),
      ("underlying", slot.toJson underlying.toJson)]
  | .bool byteOffset mask =>
    .object [("kind", .string "bool"), ("byte_offset", .ofNat byteOffset.toNat),
      ("field_mask", .ofNat mask.toNat)]
  | .object reference target =>
    .object (("kind", .string "object") :: ("reference", .string reference.tag) ::
      Json.optionalMember "class" ObjectId.toJson target)
  | .classRef reference metaClass =>
    .object (("kind", .string "class") :: ("reference", .string reference.tag) ::
      Json.optionalMember "meta_class" ObjectId.toJson metaClass)
  | .interface target =>
    .object (("kind", .string "interface") :: Json.optionalMember "interface" ObjectId.toJson target)
  | .struct structType =>
    .object [("kind", .string "struct"), ("struct_type", .ofOption ObjectId.toJson structType)]
  | .delegate signature multicast =>
    .object [("kind", .string "delegate"), ("signature", .ofOption ObjectId.toJson signature),
      ("multicast", .bool multicast)]
  | .fieldPath fieldClass =>
    .object [("kind", .string "field_path"), ("field_class", .string fieldClass)]
  | .array slot inner => .object [("kind", .string "array"), ("inner", slot.toJson inner.toJson)]
  | .set slot element =>
    .object [("kind", .string "set"), ("element", slot.toJson element.toJson)]
  | .map keySlot key valueSlot value =>
    .object [("kind", .string "map"), ("key", keySlot.toJson key.toJson),
      ("value", valueSlot.toJson value.toJson)]
  | .unsupported className =>
    .object [("kind", .string "unsupported"), ("class_name", .string className)]
  | scalar => .object [("kind", .string scalar.tag)]

def Field.toJson (field : Field) : Json :=
  field.toSlot.toJson field.kind.toJson

def ClassInfo.members (info : ClassInfo) : List (String × Json) :=
  [("flags", info.flags.toJson)] ++
    Json.optionalMember "super_class" ObjectId.toJson info.superClass ++
    Json.optionalMember "within" ObjectId.toJson info.within ++
    [("config_name", .string info.configName),
      ("interfaces", .array (info.interfaces.map ObjectId.toJson)),
      ("fields", .array (info.fields.map Field.toJson)),
      ("functions", .array (info.functions.map ObjectId.toJson))] ++
    Json.optionalMember "default_object" Instance.toJson info.defaultObject

def StructInfo.members (info : StructInfo) : List (String × Json) :=
  [("flags", info.flags.toJson)] ++
    Json.optionalMember "super_struct" ObjectId.toJson info.superStruct ++
    [("fields", .array (info.fields.map Field.toJson)), ("size", .ofNat info.size.toNat)] ++
    Json.optionalMember "default_instance" Instance.toJson info.defaultInstance

def EnumForm.tag : EnumForm → String
  | .regular => "regular"
  | .namespaced => "namespaced"
  | .enumClass => "enum_class"

def EnumEntry.toJson (entry : EnumEntry) : Json :=
  .object [("name", .string entry.name), ("value", .integer entry.value.toInt)]

def EnumInfo.members (info : EnumInfo) : List (String × Json) :=
  [("form", .string info.form.tag), ("flags", info.flags.toJson),
    ("entries", .array (info.entries.map EnumEntry.toJson))]

def MethodInfo.members (info : MethodInfo) : List (String × Json) :=
  [("flags", info.flags.toJson), ("params", .array (info.params.map Field.toJson)),
    ("sparse", .bool info.sparse)]

/-- The name of an object kind. -/
def ObjectKind.tag : ObjectKind → String
  | .classType _ => "class"
  | .interfaceType _ => "interface"
  | .structType _ => "struct"
  | .enumType _ => "enum"
  | .function _ => "function"
  | .instanceOf _ => "instance"

def ObjectKind.toJson (kind : ObjectKind) : Json :=
  .object <| ("kind", .string kind.tag) ::
    match kind with
    | .classType info => info.members
    | .interfaceType info => info.members
    | .structType info => info.members
    | .enumType info => info.members
    | .function info => info.members
    | .instanceOf type => [("class", .ofOption ObjectId.toJson type)]

def Object.toJson (object : Object) : Json :=
  .object <|
    [("name", .string object.name), ("package", .string object.package)] ++
      Json.optionalMember "outer" ObjectId.toJson object.outer ++
      [("object_flags", object.objectFlags.toJson), ("kind", object.kind.toJson)]

def Graph.toJson (graph : Graph) : Json :=
  .object [("objects", .array (graph.objects.toList.map Object.toJson))]

def Graph.toText (graph : Graph) : String :=
  graph.toJson.pretty

/-- The text of a snapshot file, which does not hold the index. -/
def Snapshot.toText (snapshot : Snapshot) : String :=
  snapshot.graph.toText

end HeaderSynth
