import HeaderSynth.Proofs.Declaration.StoredEnums
import HeaderSynth.Proofs.Declaration.TypeUses
import HeaderSynth.Proofs.Json.Literals

/-!
# Fixed arrays of integers

The elements of a fixed array stand in memory one behind the other, and a constructor assigns
each of them.  The value is read once, at the place of the first element, so an array is restored
exactly where all its elements keep the same value.
-/

namespace HeaderSynth

/-! ## Integers in memory -/

/-- The bytes at `offset` keep a value of an integral type. -/
structure Instance.Keeps (memory : Instance) (type : IntegerType) (offset : Nat) (value : Int) :
    Prop where
  represents : type.Represents value
  bytes : (memory.bytes.drop offset).take type.width = type.encode value

/-- Every place inside the memory keeps a value. -/
theorem Instance.exists_keeps {memory : Instance} {type : IntegerType} {offset : Nat}
    (h : offset + type.width ≤ memory.size) : ∃ value, memory.Keeps type offset value := by
  have hlength : ((memory.bytes.drop offset).take type.width).length = type.width := by
    rw [size] at h
    rw [List.length_take, List.length_drop]
    omega
  obtain ⟨value, hrepresents, hbytes⟩ := IntegerType.exists_encode_eq hlength
  exact ⟨value, hrepresents, hbytes⟩

/-- A field of an integral type has the value that the bytes at its offset keep. -/
theorem storedValue?_of_keeps {memory : Instance} {field : Field} {type : IntegerType}
    {value : Int} (hkind : field.kind.integerType? = some type)
    (hplain : field.kind.enumType? = none)
    (h : memory.Keeps type field.offset.toNat value) (graph : Graph) (owner : String) :
    storedValue? graph owner memory field = pure (some (toString value)) := by
  have hwidth := (FieldKind.integerWidth_of_integerType? hkind).2
  have hsigned : type.signed = true →
      memory.readSigned field.offset.toNat type.width = .ok value := by
    intro hsign
    have hlow := IntegerType.lt_words_of_signed h.represents hsign
    rw [Instance.readSigned_encode hwidth h.represents h.bytes,
      (type.signedReading_eq_self_iff value).mpr hlow]
  have hunsigned : type.signed = false →
      memory.readUnsigned field.offset.toNat type.width = .ok value.toNat :=
    fun hsign => Instance.readUnsigned_encode hwidth h.represents hsign h.bytes
  have htext : type.signed = false → toString value.toNat = toString value := by
    intro hsign
    have hrange := h.represents
    rw [IntegerType.Represents, hsign, if_neg Bool.false_ne_true] at hrange
    obtain ⟨n, rfl⟩ := Int.eq_ofNat_of_zero_le hrange.1
    rfl
  have hdone : ∀ {α : Type} (result : α), readMemory (.ok result) = (pure result : Emit α) :=
    fun _ => rfl
  rw [FieldKind.integerType?.eq_def] at hkind
  split at hkind
  all_goals cases hkind
  all_goals rename_i heq
  case h_5 =>
    rw [heq] at hplain
    cases hplain
    have hbyte : memory.readByte field.offset.toNat = .ok value.toNat := hunsigned rfl
    simp only [storedValue?, heq, hbyte, hdone, htext rfl, pure_bind]
  all_goals first
    | simp only [storedValue?, heq, hsigned rfl, hdone, pure_bind]
    | simp only [storedValue?, heq, hunsigned rfl, htext rfl, hdone, pure_bind]

/-! ## Assignments of elements -/

/-- The statement that assigns an element; a field that is no array has one without an index. -/
def Field.elementAssignment (field : Field) (index : Nat) (value : Int) : String :=
  if field.arrayDim = 1 then s!"this->{field.name} = {value};"
  else s!"this->{field.name}[{index}] = {value};"

/-- The statements that assign `values` to the elements in turn. -/
def Field.elementAssignments (field : Field) (values : Nat → Int) : List String :=
  (List.range field.arrayDim.toNat).map fun index => field.elementAssignment index (values index)

theorem assignments_eq_elementAssignments (field : Field) (value : Int) :
    assignments field (toString value) = field.elementAssignments fun _ => value := by
  rw [assignments, Field.elementAssignments]
  by_cases hsingle : field.arrayDim = 1
  · rw [if_pos hsingle, hsingle]
    show _ = [field.elementAssignment 0 value]
    rw [Field.elementAssignment, if_pos hsingle]
    rfl
  · rw [if_neg hsingle]
    apply List.map_congr_left
    intro index _
    rw [Field.elementAssignment, if_neg hsingle]
    rfl

theorem toString_int_injective : Function.Injective (toString : Int → String) := by
  intro left right heq
  have hread := congrArg (fun text : String => Json.number? text.toList) heq
  simpa only [toString, Json.number?_repr, Option.some.injEq, Json.integer.injEq] using hread

/-- The statement of an element tells its value. -/
theorem Field.elementAssignment_injective (field : Field) (index : Nat) :
    Function.Injective (field.elementAssignment index) := by
  intro left right heq
  apply toString_int_injective
  rw [elementAssignment, elementAssignment] at heq
  split_ifs at heq
  · exact assignment_inj heq
  · simpa [toString] using heq

theorem Field.elementAssignments_eq_iff (field : Field) (left right : Nat → Int) :
    field.elementAssignments left = field.elementAssignments right ↔
      ∀ index < field.arrayDim.toNat, left index = right index := by
  rw [elementAssignments, elementAssignments, List.map_inj_left]
  constructor
  · intro h index hindex
    exact field.elementAssignment_injective index (h index (List.mem_range.mpr hindex))
  · intro h index hindex
    rw [h index (List.mem_range.mp hindex)]

/-! ## Restoring an array -/

/-- A field of an integral type, perhaps a fixed array, all of whose elements lie in memory. -/
structure Field.IsIntegerArray (memory : Instance) (field : Field) (type : IntegerType) : Prop where
  kind : field.kind.integerType? = some type
  plain : field.kind.enumType? = none
  nonempty : 1 ≤ field.arrayDim.toNat
  fits : field.offset.toNat + field.arrayDim.toNat * type.width ≤ memory.size

/-- The elements of a fixed array keep the given values. -/
def Field.KeepsElements (memory : Instance) (field : Field) (type : IntegerType)
    (values : Nat → Int) : Prop :=
  ∀ index < field.arrayDim.toNat,
    memory.Keeps type (field.offset.toNat + index * type.width) (values index)

/-- The computation writes the given lines and nothing else. -/
def Emit.WritesLines (computation : Emit Unit) (lines : List String) : Prop :=
  computation = ⟨lines.map .line, .ok ()⟩

variable {memory : Instance} {field : Field} {type : IntegerType}

/-- Every element keeps a value. -/
theorem Field.IsIntegerArray.exists_keepsElements (h : field.IsIntegerArray memory type) :
    ∃ values, field.KeepsElements memory type values := by
  have hplace : ∀ index, ∃ value, index < field.arrayDim.toNat →
      memory.Keeps type (field.offset.toNat + index * type.width) value := by
    intro index
    by_cases hindex : index < field.arrayDim.toNat
    · have hnext : (index + 1) * type.width ≤ field.arrayDim.toNat * type.width :=
        Nat.mul_le_mul_right type.width hindex
      have hend : field.offset.toNat + index * type.width + type.width ≤ memory.size := by
        have hfits := h.fits
        rw [Nat.add_one_mul] at hnext
        omega
      obtain ⟨value, hvalue⟩ := Instance.exists_keeps hend
      exact ⟨value, fun _ => hvalue⟩
    · exact ⟨0, fun hlt => absurd hlt hindex⟩
  choose values hvalues using hplace
  exact ⟨values, hvalues⟩

theorem Emit.WritesLines.unique {computation : Emit Unit} {lines others : List String}
    (h : computation.WritesLines lines) (hothers : computation.WritesLines others) :
    lines = others := by
  have hlog := congrArg Logged.log (h.symm.trans hothers)
  have hinjective : Function.Injective Emission.line := by
    intro left right heq
    exact Emission.line.inj heq
  exact List.map_injective_iff.mpr hinjective hlog

theorem writesLines_forM_line (lines : List String) :
    Emit.WritesLines (lines.forM Emit.line) lines := by
  induction lines with
  | nil => rfl
  | cons text rest ih =>
      have hfirst : (Emit.line text).result = .ok () := rfl
      show (Emit.line text >>= fun _ => rest.forM Emit.line) = _
      rw [Logged.bind_ok hfirst, ih]
      rfl

/-- The value of the first element is assigned to all of them. -/
theorem writesLines_restoreField {value : Int} (hkind : field.kind.integerType? = some type)
    (hplain : field.kind.enumType? = none)
    (h : memory.Keeps type field.offset.toNat value) (graph : Graph) (owner : String) :
    (restoreField graph owner memory field).WritesLines
      (field.elementAssignments fun _ => value) := by
  have hstored := storedValue?_of_keeps hkind hplain h graph owner
  have hrestore : restoreField graph owner memory field =
      (assignments field (toString value)).forM Emit.line := by
    rw [FieldKind.integerType?.eq_def] at hkind
    split at hkind
    all_goals cases hkind
    all_goals rename_i heq
    all_goals simp only [restoreField, heq, hstored, pure_bind]
  rw [hrestore, assignments_eq_elementAssignments]
  exact writesLines_forM_line _

/-- An array of integers is restored element by element exactly where all its elements keep the
value of the first.  That value, in decimal, is what every statement assigns, one for each
element; so a field that is no array is always restored. -/
theorem restoreField_elements_iff (h : field.IsIntegerArray memory type) (graph : Graph)
    (owner : String) :
    (∃ values, field.KeepsElements memory type values) ∧
      ∀ values, field.KeepsElements memory type values →
        (restoreField graph owner memory field).WritesLines
          (field.elementAssignments fun _ => values 0) ∧
        ((restoreField graph owner memory field).WritesLines (field.elementAssignments values) ↔
          ∀ index < field.arrayDim.toNat, values index = values 0) := by
  refine ⟨h.exists_keepsElements, ?_⟩
  intro values hvalues
  have hfirst : memory.Keeps type field.offset.toNat (values 0) := by
    have hzero := hvalues 0 h.nonempty
    rwa [Nat.zero_mul, Nat.add_zero] at hzero
  have hwrites := writesLines_restoreField h.kind h.plain hfirst graph owner
  have hequal := field.elementAssignments_eq_iff values fun _ => values 0
  refine ⟨hwrites, ?_⟩
  rw [← hequal]
  constructor
  · intro helements
    exact helements.unique hwrites
  · intro hlines
    rw [hlines]
    exact hwrites

/-- A fixed array of two integers. -/
def slots (kind : FieldKind) : Field :=
  ⟨⟨"Slots", .none, 2, 1, none⟩, kind⟩

theorem restoreField_elements_iff_slots :
    (slots .int16).IsIntegerArray ⟨[7, 0xFE, 0xFF, 0xFE, 0xFF], []⟩ ⟨true, 2⟩ ∧
      (slots .int16).KeepsElements ⟨[7, 0xFE, 0xFF, 0xFE, 0xFF], []⟩ ⟨true, 2⟩ (fun _ => -2) ∧
      (restoreField .empty "Thing" ⟨[7, 0xFE, 0xFF, 0xFE, 0xFF], []⟩ (slots .int16)).WritesLines
        ["this->Slots[0] = -2;", "this->Slots[1] = -2;"] := by
  have harray : (slots .int16).IsIntegerArray ⟨[7, 0xFE, 0xFF, 0xFE, 0xFF], []⟩ ⟨true, 2⟩ :=
    ⟨rfl, rfl, by decide, by decide⟩
  have hkeeps : (slots .int16).KeepsElements ⟨[7, 0xFE, 0xFF, 0xFE, 0xFF], []⟩ ⟨true, 2⟩
      (fun _ => -2) := by
    intro index hindex
    have hcases : index = 0 ∨ index = 1 := by
      change index < 2 at hindex
      omega
    rcases hcases with rfl | rfl
    · exact ⟨by decide, by decide⟩
    · exact ⟨by decide, by decide⟩
  have helements := (restoreField_elements_iff harray .empty "Thing").2 _ hkeeps
  exact ⟨harray, hkeeps, helements.2.mpr fun _ _ => rfl⟩

/-- The second element of an array gets the value of the first. -/
theorem restoreField_repeats_first_slot :
    (slots .int8).IsIntegerArray ⟨[7, 1, 0xFF], []⟩ ⟨true, 1⟩ ∧
      (slots .int8).KeepsElements ⟨[7, 1, 0xFF], []⟩ ⟨true, 1⟩ (fun index => 1 - 2 * index) ∧
      (slots .int8).elementAssignments (fun index => 1 - 2 * index) =
        ["this->Slots[0] = 1;", "this->Slots[1] = -1;"] ∧
      (restoreField .empty "Thing" ⟨[7, 1, 0xFF], []⟩ (slots .int8)).WritesLines
        ["this->Slots[0] = 1;", "this->Slots[1] = 1;"] ∧
      ¬(restoreField .empty "Thing" ⟨[7, 1, 0xFF], []⟩ (slots .int8)).WritesLines
        ["this->Slots[0] = 1;", "this->Slots[1] = -1;"] := by
  have hwrites : (restoreField .empty "Thing" ⟨[7, 1, 0xFF], []⟩ (slots .int8)).WritesLines
      ["this->Slots[0] = 1;", "this->Slots[1] = 1;"] := rfl
  refine ⟨⟨rfl, rfl, by decide, by decide⟩, ?_, rfl, hwrites, ?_⟩
  · intro index hindex
    have hcases : index = 0 ∨ index = 1 := by
      change index < 2 at hindex
      omega
    rcases hcases with rfl | rfl
    · exact ⟨by decide, by decide⟩
    · exact ⟨by decide, by decide⟩
  · intro helements
    have hlines := hwrites.unique helements
    exact absurd hlines (by decide)

end HeaderSynth
