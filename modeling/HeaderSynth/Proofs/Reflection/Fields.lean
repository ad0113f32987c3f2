import HeaderSynth.Proofs.Reflection.Records
import HeaderSynth.Proofs.Text.Hexadecimal

/-!
# Instances and fields are decoded from what they are encoded to

The memory of an instance is written as hexadecimal text beside its managed values.  A
field type is a tree whose parts are fields, so the statement about types is an induction
over the tree; it says for every type that decoding its members finds the parts again.
-/

namespace HeaderSynth

open Json (IsExact Record Tagged)

/-! ## Memory -/

namespace Text

theorem isBlank_hexDigit {n : Nat} (hn : n < 16) : isBlank (hexDigit .lower n) = false := by
  have hall : ∀ n < 16, isBlank (hexDigit .lower n) = false := by decide
  exact hall n hn

/-- The two digits of a byte. -/
theorem hexWord_byte (byte : UInt8) :
    hexWord .lower 2 byte.toNat =
      [hexDigit .lower (byte.toNat / 16), hexDigit .lower (byte.toNat % 16)] := by
  have hbyte : byte.toNat < 256 := byte.toNat_lt_size
  simp only [hexWord, List.nil_append, List.cons_append]
  rw [Nat.mod_eq_of_lt (show byte.toNat / 16 < 16 by omega)]

theorem bytesOfHex?_hexOfBytes (bytes : List UInt8) :
    bytesOfHex? (hexOfBytes bytes) = some bytes := by
  induction bytes with
  | nil => rfl
  | cons byte bytes ih =>
      have hbyte : byte.toNat < 256 := byte.toNat_lt_size
      have hhigh := hexValue?_hexDigit .lower (n := byte.toNat / 16) (by omega)
      have hlow := hexValue?_hexDigit .lower (n := byte.toNat % 16) (by omega)
      have hhalves : 16 * (byte.toNat / 16) + byte.toNat % 16 = byte.toNat := Nat.div_add_mod _ _
      rw [hexOfBytes, List.flatMap_cons, hexWord_byte, ← hexOfBytes]
      simp only [List.cons_append, List.nil_append, bytesOfHex?, hhigh, hlow, ih, hhalves,
        Option.bind_eq_bind, Option.bind_some, UInt8.ofNat_toNat, Option.pure_def]

theorem trim_eq_self {text : List Char} (htext : ∀ c ∈ text, isBlank c = false) :
    trim text = text := by
  have hdrop : ∀ text : List Char, (∀ c ∈ text, isBlank c = false) →
      text.dropWhile isBlank = text := by
    intro text htext
    cases text with
    | nil => rfl
    | cons c text => simp [htext c (by simp)]
  rw [trim, hdrop text htext, hdrop text.reverse (by simpa using htext), List.reverse_reverse]

theorem trim_hexOfBytes (bytes : List UInt8) : trim (hexOfBytes bytes) = hexOfBytes bytes := by
  apply trim_eq_self
  intro c hc
  obtain ⟨byte, -, hc⟩ := List.mem_flatMap.mp hc
  have hbyte : byte.toNat < 256 := byte.toNat_lt_size
  rw [hexWord_byte] at hc
  rcases List.mem_cons.mp hc with rfl | hc
  · exact isBlank_hexDigit (by omega)
  · rw [List.mem_singleton.mp hc]
    exact isBlank_hexDigit (by omega)

end Text

theorem ManagedValue.decode_toJson (nested : Bool) (value : ManagedValue) :
    ManagedValue.decode nested value.toJson = some value := by
  cases value with
  | object target =>
      show (Record.nullable ⟨false, [("type", .string "object"),
        ("value", .ofOption ObjectId.toJson target)]⟩ "value" ObjectId.ofJson?).map
          ManagedValue.object = _
      rw [Record.nullable_eq_some _ rfl ObjectId.ofJson?_toJson ObjectId.toJson_ne_null]
      rfl
  | string text => rfl
  | count size =>
      show (Json.asUInt64? (.ofNat size.toNat)).map ManagedValue.count = _
      rw [Json.asUInt64?_ofNat]
      rfl

theorem ManagedSlot.decode_toJson (nested : Bool) (slot : ManagedSlot) :
    ManagedSlot.decode nested slot.toJson = some slot := by
  have hrecord : Record.ofJson? ["offset", "value"] slot.toJson =
      some ⟨false, [("offset", .ofNat slot.offset.toNat), ("value", slot.value.toJson)]⟩ :=
    Record.ofJson?_object (by decide) (List.Sublist.refl _)
  rw [ManagedSlot.decode, hrecord]
  simp [Record.required, Record.get?, List.lookup_cons, Json.asUInt64?_ofNat,
    ManagedValue.decode_toJson]

theorem Instance.bytesOfJson?_hexOfBytes (bytes : List UInt8) :
    Instance.bytesOfJson? (.string (String.ofList (Text.hexOfBytes bytes))) = some bytes := by
  show Text.bytesOfHex? (Text.trim (String.ofList (Text.hexOfBytes bytes)).toList) = _
  rw [String.toList_ofList, Text.trim_hexOfBytes, Text.bytesOfHex?_hexOfBytes]

/-- The members of an instance; without managed values there is only one. -/
def Instance.members (memory : Instance) : List (String × Json) :=
  ("bytes", .string (String.ofList (Text.hexOfBytes memory.bytes))) ::
    if memory.managed.isEmpty then []
    else [("managed", .array (memory.managed.map ManagedSlot.toJson))]

theorem Instance.decode_toJson (nested : Bool) (memory : Instance) :
    Instance.decode nested memory.toJson = some memory := by
  have hkeys : (memory.members.map Prod.fst).Sublist ["bytes", "managed"] := by
    rw [Instance.members]
    split <;> simp
  have hbytes : Record.required ⟨false, memory.members⟩ "bytes" Instance.bytesOfJson? =
      some memory.bytes :=
    Record.required_eq_some rfl (Instance.bytesOfJson?_hexOfBytes memory.bytes)
  have hmanaged : Record.withDefault ⟨false, memory.members⟩ "managed" []
      (Json.asList? (ManagedSlot.decode nested)) = some memory.managed := by
    have hslots : Json.asList? (ManagedSlot.decode nested)
        (.array (memory.managed.map ManagedSlot.toJson)) = some memory.managed :=
      Json.asList?_array fun slot _ => ManagedSlot.decode_toJson nested slot
    cases hempty : memory.managed with
    | nil => simp [Instance.members, hempty, Record.withDefault, Record.get?, List.lookup_cons]
    | cons slot slots =>
        rw [← hempty]
        apply Record.withDefault_eq_some _ hslots
        simp [Instance.members, hempty, List.lookup_cons]
  rw [Instance.decode, show memory.toJson = .object memory.members from rfl,
    Record.ofJson?_object (by decide) hkeys]
  simp [hbytes, hmanaged]

theorem Instance.toJson_ne_null (memory : Instance) : memory.toJson ≠ .null := by
  simp [Instance.toJson]

/-! ## Fields -/

theorem ObjectReference.ofJson?_tag (reference : ObjectReference) :
    ObjectReference.ofJson? (.string reference.tag) = some reference := by
  cases reference <;> rfl

theorem ClassReference.ofJson?_tag (reference : ClassReference) :
    ClassReference.ofJson? (.string reference.tag) = some reference := by
  cases reference <;> rfl

/-- The members of a field are those that a field may have. -/
theorem Slot.keys_members (slot : Slot) (type : Json) :
    ((slot.members ++ [("type", type)]).map Prod.fst).Sublist Slot.memberNames := by
  have hnotify := Json.keys_optionalMember "rep_notify" Json.string slot.repNotify
  rw [List.map_append, Slot.members, List.map_append, List.append_assoc]
  exact (List.Sublist.refl ["name", "flags", "array_dim", "offset"]).append
    (hnotify.append (List.Sublist.refl ["type"]))

theorem Slot.ofRecord?_members (slot : Slot) (type : Json) :
    Slot.ofRecord? ⟨false, slot.members ++ [("type", type)]⟩ = some slot := by
  have hname : Record.required ⟨false, slot.members ++ [("type", type)]⟩ "name" Json.asText? =
      some slot.name := Record.required_eq_some rfl rfl
  have hflags : Record.withDefault ⟨false, slot.members ++ [("type", type)]⟩ "flags" .none
      Flags.ofJson? = some slot.flags :=
    Record.withDefault_eq_some rfl (Flags.ofJson?_toJson slot.flags)
  have hdim : Record.withDefault ⟨false, slot.members ++ [("type", type)]⟩ "array_dim" 1
      Json.asUInt32? = some slot.arrayDim :=
    Record.withDefault_eq_some rfl (Json.asUInt32?_ofNat slot.arrayDim)
  have hoffset : Record.withDefault ⟨false, slot.members ++ [("type", type)]⟩ "offset" 0
      Json.asUInt64? = some slot.offset :=
    Record.withDefault_eq_some rfl (Json.asUInt64?_ofNat slot.offset)
  have hnotify : Record.optional ⟨false, slot.members ++ [("type", type)]⟩ "rep_notify"
      Json.asText? = some slot.repNotify := by
    refine Record.optional_eq_some slot.repNotify
      (show _ = slot.repNotify.map Json.string from ?_) (fun _ => rfl) (by simp)
    simp [Slot.members, List.lookup_cons]
  simp [Slot.ofRecord?, hname, hflags, hdim, hoffset, hnotify]

/-- The type of a field stands behind its other members. -/
theorem FieldKind.lookup_decodeMembers (nested : Bool) (slot : Slot) (type : Json) :
    (FieldKind.decodeMembers nested (slot.members ++ [("type", type)])).lookup "type" =
      some (FieldKind.decode nested type) := by
  cases hnotify : slot.repNotify <;>
    simp [Slot.members, hnotify, Json.optionalMember, FieldKind.decodeMembers, List.lookup_cons]

/-- A field is decoded once its type is. -/
theorem Field.decode_slot {nested : Bool} (slot : Slot) {kind : FieldKind}
    (hkind : FieldKind.decode nested kind.toJson = some kind) :
    Field.decode nested (slot.toJson kind.toJson) = some ⟨slot, kind⟩ := by
  have hrecord := Record.ofJson?_object (by decide) (slot.keys_members kind.toJson)
  rw [Slot.toJson, Field.decode, hrecord, FieldKind.lookup_decodeMembers, hkind]
  simp [Slot.ofRecord?_members]

/-- What decoding a type comes down to when its members are those that its tag allows. -/
theorem FieldKind.decode_tagged (nested : Bool) {tag : String} {members : List (String × Json)}
    (htag : tag ∈ FieldKind.tags)
    (hkeys : (members.map Prod.fst).Sublist (FieldKind.memberNames tag)) :
    FieldKind.decode nested (.object (("kind", .string tag) :: members)) =
      FieldKind.ofRecord? tag ⟨false, members⟩ fun name =>
        ((Field.decodeMembers (("kind", .string tag) :: members)).lookup name).join := by
  have hnames : ∀ tag ∈ FieldKind.tags,
      (FieldKind.memberNames tag).Nodup ∧ "kind" ∉ FieldKind.memberNames tag := by decide
  have hkind : "kind" ∉ members.map Prod.fst := fun h => (hnames tag htag).2 (hkeys.subset h)
  have hvariant : Json.variantName? nested FieldKind.tags (.string tag) = some tag := by
    simp [Json.variantName?, htag]
  rw [FieldKind.decode, Tagged.ofJson?_cons hkind]
  simp only [Option.bind_eq_bind, Option.bind_some, hvariant]
  rw [Record.ofJson?_object (hnames tag htag).1 hkeys]
  rfl

theorem FieldKind.decode_toJson (nested : Bool) (kind : FieldKind) :
    FieldKind.decode nested kind.toJson = some kind := by
  induction kind generalizing nested with
  | byte enumType =>
      rw [FieldKind.toJson, FieldKind.decode_tagged nested (by decide)
        (Json.keys_optionalMember "enum_type" ObjectId.toJson enumType)]
      show (Record.optional _ "enum_type" ObjectId.ofJson?).map FieldKind.byte = _
      rw [Record.optional_eq_some enumType (by simp) ObjectId.ofJson?_toJson
        ObjectId.toJson_ne_null]
      rfl
  | enum enumType slot underlying ih =>
      have hpart := Field.decode_slot slot (ih true)
      rw [FieldKind.toJson, FieldKind.decode_tagged nested (by decide) (List.Sublist.refl _)]
      show (Record.nullable _ "enum_type" ObjectId.ofJson?).bind (fun enumType =>
        (Field.decode true (slot.toJson underlying.toJson)).bind fun part =>
          some (FieldKind.enum enumType part.toSlot part.kind)) = _
      rw [Record.nullable_eq_some enumType rfl ObjectId.ofJson?_toJson
        ObjectId.toJson_ne_null, hpart]
      rfl
  | bool byteOffset mask =>
      rw [FieldKind.toJson, FieldKind.decode_tagged nested (by decide) (List.Sublist.refl _)]
      show (Json.asUInt64? (.ofNat byteOffset.toNat)).bind (fun byteOffset =>
        (Json.asUInt8? (.ofNat mask.toNat)).bind fun mask =>
          some (FieldKind.bool byteOffset mask)) = _
      rw [Json.asUInt64?_ofNat, Json.asUInt8?_ofNat]
      rfl
  | object reference target =>
      have hkeys : ((("reference", Json.string reference.tag) ::
          Json.optionalMember "class" ObjectId.toJson target).map Prod.fst).Sublist
            (FieldKind.memberNames "object") :=
        (Json.keys_optionalMember "class" ObjectId.toJson target).cons_cons "reference"
      rw [FieldKind.toJson, FieldKind.decode_tagged nested (by decide) hkeys]
      show (ObjectReference.ofJson? (.string reference.tag)).bind (fun reference =>
        (Record.optional _ "class" ObjectId.ofJson?).bind fun target =>
          some (FieldKind.object reference target)) = _
      rw [ObjectReference.ofJson?_tag, Record.optional_eq_some target
        (by simp [List.lookup_cons]) ObjectId.ofJson?_toJson ObjectId.toJson_ne_null]
      rfl
  | classRef reference metaClass =>
      have hkeys : ((("reference", Json.string reference.tag) ::
          Json.optionalMember "meta_class" ObjectId.toJson metaClass).map Prod.fst).Sublist
            (FieldKind.memberNames "class") :=
        (Json.keys_optionalMember "meta_class" ObjectId.toJson metaClass).cons_cons "reference"
      rw [FieldKind.toJson, FieldKind.decode_tagged nested (by decide) hkeys]
      show (ClassReference.ofJson? (.string reference.tag)).bind (fun reference =>
        (Record.optional _ "meta_class" ObjectId.ofJson?).bind fun metaClass =>
          some (FieldKind.classRef reference metaClass)) = _
      rw [ClassReference.ofJson?_tag, Record.optional_eq_some metaClass
        (by simp [List.lookup_cons]) ObjectId.ofJson?_toJson ObjectId.toJson_ne_null]
      rfl
  | interface target =>
      rw [FieldKind.toJson, FieldKind.decode_tagged nested (by decide)
        (Json.keys_optionalMember "interface" ObjectId.toJson target)]
      show (Record.optional _ "interface" ObjectId.ofJson?).map FieldKind.interface = _
      rw [Record.optional_eq_some target (by simp) ObjectId.ofJson?_toJson
        ObjectId.toJson_ne_null]
      rfl
  | struct structType =>
      rw [FieldKind.toJson, FieldKind.decode_tagged nested (by decide) (List.Sublist.refl _)]
      show (Record.nullable _ "struct_type" ObjectId.ofJson?).map FieldKind.struct = _
      rw [Record.nullable_eq_some structType rfl ObjectId.ofJson?_toJson
        ObjectId.toJson_ne_null]
      rfl
  | delegate signature multicast =>
      rw [FieldKind.toJson, FieldKind.decode_tagged nested (by decide) (List.Sublist.refl _)]
      show (Record.nullable _ "signature" ObjectId.ofJson?).bind (fun signature =>
        some (FieldKind.delegate signature multicast)) = _
      rw [Record.nullable_eq_some signature rfl ObjectId.ofJson?_toJson
        ObjectId.toJson_ne_null]
      rfl
  | fieldPath fieldClass => exact FieldKind.decode_tagged nested (by decide) (List.Sublist.refl _)
  | array slot inner ih =>
      have hpart := Field.decode_slot slot (ih true)
      rw [FieldKind.toJson, FieldKind.decode_tagged nested (by decide) (List.Sublist.refl _)]
      show (Field.decode true (slot.toJson inner.toJson)).map
        (fun part => FieldKind.array part.toSlot part.kind) = _
      rw [hpart]
      rfl
  | set slot element ih =>
      have hpart := Field.decode_slot slot (ih true)
      rw [FieldKind.toJson, FieldKind.decode_tagged nested (by decide) (List.Sublist.refl _)]
      show (Field.decode true (slot.toJson element.toJson)).map
        (fun part => FieldKind.set part.toSlot part.kind) = _
      rw [hpart]
      rfl
  | map keySlot key valueSlot value ihkey ihvalue =>
      have hkey := Field.decode_slot keySlot (ihkey true)
      have hvalue := Field.decode_slot valueSlot (ihvalue true)
      rw [FieldKind.toJson, FieldKind.decode_tagged nested (by decide) (List.Sublist.refl _)]
      show (Field.decode true (keySlot.toJson key.toJson)).bind (fun key =>
        (Field.decode true (valueSlot.toJson value.toJson)).bind fun value =>
          some (FieldKind.map key.toSlot key.kind value.toSlot value.kind)) = _
      rw [hkey, hvalue]
      rfl
  | unsupported className => exact FieldKind.decode_tagged nested (by decide) (List.Sublist.refl _)
  | _ => exact FieldKind.decode_tagged nested (by decide) (List.Sublist.refl _)

theorem Field.decode_toJson (nested : Bool) (field : Field) :
    Field.decode nested field.toJson = some field :=
  Field.decode_slot field.toSlot (FieldKind.decode_toJson nested field.kind)

end HeaderSynth
