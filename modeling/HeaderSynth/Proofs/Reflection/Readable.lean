import HeaderSynth.Proofs.Reflection.Records

/-!
# Encoded payloads are readable

Nothing that an object is encoded to has a number beyond 64 bits or a string that denotes
no text.  So the payload of an object can be read as soon as it does not nest too deeply.
-/

namespace HeaderSynth

open Json (IsExact)

/-- Members whose values are all exact. -/
def ExactMembers (members : List (String × Json)) : Prop :=
  ∀ member ∈ members, IsExact member.2

theorem ExactMembers.isExact {members : List (String × Json)} (hmembers : ExactMembers members) :
    IsExact (.object members) :=
  .object hmembers

@[simp]
theorem exactMembers_nil : ExactMembers [] := by
  simp [ExactMembers]

@[simp]
theorem exactMembers_cons (key : String) (value : Json) (members : List (String × Json)) :
    ExactMembers ((key, value) :: members) ↔ IsExact value ∧ ExactMembers members := by
  simp [ExactMembers]

@[simp]
theorem exactMembers_append (first second : List (String × Json)) :
    ExactMembers (first ++ second) ↔ ExactMembers first ∧ ExactMembers second := by
  simp [ExactMembers, or_imp, forall_and]

theorem exactMembers_optionalMember {α : Type} {encode : α → Json}
    (hencode : ∀ content, IsExact (encode content)) (key : String) (value : Option α) :
    ExactMembers (Json.optionalMember key encode value) := by
  cases value with
  | none => exact exactMembers_nil
  | some content => exact (exactMembers_cons _ _ _).mpr ⟨hencode content, exactMembers_nil⟩

theorem isExact_ofOption {α : Type} {encode : α → Json}
    (hencode : ∀ content, IsExact (encode content)) (value : Option α) :
    IsExact (.ofOption encode value) := by
  cases value with
  | none => exact .null
  | some content => exact hencode content

theorem isExact_array {α : Type} {encode : α → Json} (hencode : ∀ item, IsExact (encode item))
    (items : List α) : IsExact (.array (items.map encode)) := by
  apply IsExact.array
  intro item hitem
  obtain ⟨content, -, rfl⟩ := List.mem_map.mp hitem
  exact hencode content

theorem isExact_uint64 (n : UInt64) : IsExact (.ofNat n.toNat) :=
  .ofNat n.toNat_lt_size

theorem isExact_uint32 (n : UInt32) : IsExact (.ofNat n.toNat) :=
  .ofNat (Nat.lt_trans n.toNat_lt_size (by decide))

theorem isExact_uint8 (n : UInt8) : IsExact (.ofNat n.toNat) :=
  .ofNat (Nat.lt_trans n.toNat_lt_size (by decide))

theorem isExact_int64 (n : Int64) : IsExact (.integer n.toInt) := by
  have hlow := n.minValue_le_toInt
  have hhigh := n.toInt_le
  apply IsExact.integer
  have hmin : Int64.minValue.toInt = -9223372036854775808 := by decide
  have hmax : Int64.maxValue.toInt = 9223372036854775807 := by decide
  have hsize : UInt64.size = 18446744073709551616 := by decide
  omega

theorem ManagedValue.isExact (value : ManagedValue) : IsExact value.toJson := by
  cases value with
  | object target =>
      apply ExactMembers.isExact
      simp [isExact_ofOption ObjectId.isExact, IsExact.string]
  | string text =>
      apply ExactMembers.isExact
      simp [IsExact.string]
  | count size =>
      apply ExactMembers.isExact
      simp [isExact_uint64, IsExact.string]

theorem ManagedSlot.isExact (slot : ManagedSlot) : IsExact slot.toJson := by
  apply ExactMembers.isExact
  simp [isExact_uint64, ManagedValue.isExact]

theorem Instance.isExact (memory : Instance) : IsExact memory.toJson := by
  apply ExactMembers.isExact
  split <;> simp [IsExact.string, isExact_array ManagedSlot.isExact]

theorem Slot.exactMembers (slot : Slot) : ExactMembers slot.members := by
  simp [Slot.members, IsExact.string, Flags.isExact, isExact_uint32, isExact_uint64,
    exactMembers_optionalMember IsExact.string]

theorem Slot.isExact (slot : Slot) {type : Json} (htype : IsExact type) :
    IsExact (slot.toJson type) := by
  apply ExactMembers.isExact
  simp [slot.exactMembers, htype]

theorem FieldKind.isExact (kind : FieldKind) : IsExact kind.toJson := by
  have hid := exactMembers_optionalMember ObjectId.isExact
  have hnullable := isExact_ofOption ObjectId.isExact
  induction kind with
  | enum enumType slot underlying ih =>
      apply ExactMembers.isExact
      simp [IsExact.string, hnullable, slot.isExact ih]
  | array slot inner ih =>
      apply ExactMembers.isExact
      simp [IsExact.string, slot.isExact ih]
  | set slot element ih =>
      apply ExactMembers.isExact
      simp [IsExact.string, slot.isExact ih]
  | map keySlot key valueSlot value ihkey ihvalue =>
      apply ExactMembers.isExact
      simp [IsExact.string, keySlot.isExact ihkey, valueSlot.isExact ihvalue]
  | _ =>
      apply ExactMembers.isExact
      simp [IsExact.string, IsExact.bool, hid, hnullable, isExact_uint64, isExact_uint8]

theorem Field.isExact (field : Field) : IsExact field.toJson :=
  field.toSlot.isExact field.kind.isExact

theorem EnumEntry.isExact (entry : EnumEntry) : IsExact entry.toJson := by
  apply ExactMembers.isExact
  simp [IsExact.string, isExact_int64]

theorem ClassInfo.exactMembers (info : ClassInfo) : ExactMembers info.members := by
  simp [ClassInfo.members, IsExact.string, Flags.isExact, isExact_array ObjectId.isExact,
    isExact_array Field.isExact, exactMembers_optionalMember ObjectId.isExact,
    exactMembers_optionalMember Instance.isExact]

theorem StructInfo.exactMembers (info : StructInfo) : ExactMembers info.members := by
  simp [StructInfo.members, Flags.isExact, isExact_array Field.isExact, isExact_uint64,
    exactMembers_optionalMember ObjectId.isExact, exactMembers_optionalMember Instance.isExact]

theorem EnumInfo.exactMembers (info : EnumInfo) : ExactMembers info.members := by
  simp [EnumInfo.members, IsExact.string, Flags.isExact, isExact_array EnumEntry.isExact]

theorem MethodInfo.exactMembers (info : MethodInfo) : ExactMembers info.members := by
  simp [MethodInfo.members, IsExact.bool, Flags.isExact, isExact_array Field.isExact]

theorem ObjectKind.isExact (kind : ObjectKind) : IsExact kind.toJson := by
  apply ExactMembers.isExact
  rw [exactMembers_cons]
  refine ⟨.string _, ?_⟩
  cases kind with
  | classType info => exact info.exactMembers
  | interfaceType info => exact info.exactMembers
  | structType info => exact info.exactMembers
  | enumType info => exact info.exactMembers
  | function info => exact info.exactMembers
  | instanceOf type => simp [isExact_ofOption ObjectId.isExact]

end HeaderSynth
