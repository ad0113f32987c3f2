import HeaderSynth.Proofs.Declaration.ObjectUses

/-!
# Definitions after declarations

A definition writes again what the declaration has written, and it restores the fields from
the memory of a default instance.  So after a declaration that has succeeded nothing is left
that can fail but a read past the end of that memory.  The memory of an aggregate without a
default instance is made to measure, and no read goes past its end as long as the places in it
do not wrap around.
-/

namespace HeaderSynth

open Emit.Repeats
open Logged (Requires)

/-! ## Memory -/

/-- The bytes that restoring a field reads: the place of the first, and their number. -/
def Field.storage? (field : Field) : Option (Nat × Nat) :=
  let offset := field.offset.toNat
  match field.kind with
  | .byte _ => some (offset, 1)
  | .enum _ _ underlying => some (offset, underlying.integerWidth)
  | .bool byteOffset _ => some ((field.offset + byteOffset).toNat, 1)
  | .int8 => some (offset, 1)
  | .int16 => some (offset, 2)
  | .int32 => some (offset, 4)
  | .int64 => some (offset, 8)
  | .uint16 => some (offset, 2)
  | .uint32 => some (offset, 4)
  | .uint64 => some (offset, 8)
  | .float => some (offset, 4)
  | .double => some (offset, 8)
  | _ => none

/-- The memory holds all the bytes that restoring a field reads. -/
def Field.IsStoredIn (memory : Instance) (field : Field) : Prop :=
  ∀ start width, field.storage? = some (start, width) → start + width ≤ memory.size

variable {graph : Graph} {uses : List TypeUse} {E : GenerateError → Prop}

namespace Instance

variable {memory : Instance} {offset width : Nat}

theorem exists_readByte (h : offset + 1 ≤ memory.size) :
    ∃ value, memory.readByte offset = .ok value := by
  rw [readByte, read, if_pos h]
  exact ⟨_, rfl⟩

theorem exists_readUnsigned (h : offset + width ≤ memory.size) :
    ∃ value, memory.readUnsigned offset width = .ok value := by
  have hbound : offset + min width 8 ≤ memory.size :=
    Nat.le_trans (Nat.add_le_add_left (Nat.min_le_left ..) offset) h
  rw [readUnsigned, read, if_pos hbound]
  exact ⟨_, rfl⟩

theorem exists_readSigned (h : offset + width ≤ memory.size) :
    ∃ value, memory.readSigned offset width = .ok value := by
  obtain ⟨word, hword⟩ := exists_readUnsigned h
  rw [readSigned, hword]
  exact ⟨_, rfl⟩

end Instance

theorem repeats_readMemory {α : Type} {P : Prop} {result : Except OutOfBounds α}
    (hread : P → ∃ value, result = .ok value) (hE : ¬P → ∀ failure, E (.outOfBounds failure)) :
    (readMemory result).Repeats uses E := by
  apply Logged.Within.ofExcept
  intro error herror
  cases hresult : result with
  | ok value =>
      rw [hresult] at herror
      cases herror
  | error failure =>
      rw [hresult] at herror
      cases herror
      apply hE
      intro hP
      obtain ⟨value, hvalue⟩ := hread hP
      rw [hresult] at hvalue
      cases hvalue

theorem repeats_fixedValue? (owner member ending : String) (value : Text.FloatValue) :
    (fixedValue? owner member ending value).Repeats uses E := by
  rw [fixedValue?]
  split
  · exact .pure _
  · exact (diagnose _ _ _).bind fun _ _ => .pure _

theorem repeats_objectValue? (owner member : String) (target : Option ObjectId) :
    (objectValue? graph owner member target).Repeats uses E := by
  cases target with
  | none => exact .pure _
  | some target =>
      rw [objectValue?]
      split
      · exact (diagnose _ _ _).bind fun _ _ => .pure _
      · dsimp only
        split
        · exact (depend _ _).bind fun _ _ => .pure _
        · exact (depend _ _).bind fun _ _ => .pure _
        · exact (diagnose _ _ _).bind fun _ _ => .pure _

theorem repeats_classValue? (owner member : String) (target : Option ObjectId) :
    (classValue? graph owner member target).Repeats uses E := by
  cases target with
  | none => exact .pure _
  | some target =>
      unfold classValue?
      generalize (graph.object? target).bind (·.classInfo?) = found
      dsimp only
      split_ifs
      · exact (depend _ _).bind fun _ _ => .pure _
      · exact (diagnose _ _ _).bind fun _ _ => .pure _

/-- A type that can be declared can be restored, unless the memory ends too early. -/
theorem repeats_storedValue? {field : Field} {memory : Instance}
    (hwritable : field.kind.IsWritable)
    (hE : ¬field.IsStoredIn memory → ∀ failure, E (.outOfBounds failure)) (owner : String) :
    (storedValue? graph owner memory field).Repeats uses E := by
  have hstorage : ∀ {start width}, field.storage? = some (start, width) →
      ¬start + width ≤ memory.size → ∀ failure, E (.outOfBounds failure) :=
    fun hstorage hbound => hE fun hstored => hbound (hstored _ _ hstorage)
  obtain ⟨slot, kind⟩ := field
  have hsigned : ∀ width, Field.storage? ⟨slot, kind⟩ = some (slot.offset.toNat, width) →
      Emit.Repeats uses E (do
        return some (toString (← readMemory (memory.readSigned slot.offset.toNat width)))) :=
    fun width h => (repeats_readMemory Instance.exists_readSigned (hstorage h)).bind
      fun _ _ => .pure _
  have hunsigned : ∀ width, Field.storage? ⟨slot, kind⟩ = some (slot.offset.toNat, width) →
      Emit.Repeats uses E (do
        return some (toString (← readMemory (memory.readUnsigned slot.offset.toNat width)))) :=
    fun width h => (repeats_readMemory Instance.exists_readUnsigned (hstorage h)).bind
      fun _ _ => .pure _
  cases kind with
  | byte enumType =>
      cases enumType with
      | none =>
          refine (repeats_readMemory Instance.exists_readByte (hstorage rfl)).bind fun _ _ => ?_
          exact .pure _
      | some id =>
          refine (repeats_readMemory Instance.exists_readByte (hstorage rfl)).bind fun _ _ => ?_
          exact (repeats_enumLiteral ..).bind fun _ _ => .pure _
  | enum enumType inner underlying =>
      cases enumType with
      | none => exact hwritable.elim
      | some id =>
          refine (depend _ _).bind fun _ _ => ?_
          refine (repeats_readMemory Instance.exists_readSigned (hstorage rfl)).bind fun _ _ => ?_
          exact (repeats_enumLiteral ..).bind fun _ _ => .pure _
  | bool byteOffset mask =>
      exact (repeats_readMemory Instance.exists_readByte (hstorage rfl)).bind fun _ _ => .pure _
  | int8 => exact hsigned 1 rfl
  | int16 => exact hsigned 2 rfl
  | int32 => exact hsigned 4 rfl
  | int64 => exact hsigned 8 rfl
  | uint16 => exact hunsigned 2 rfl
  | uint32 => exact hunsigned 4 rfl
  | uint64 => exact hunsigned 8 rfl
  | float =>
      exact (repeats_readMemory Instance.exists_readUnsigned (hstorage rfl)).bind
        fun _ _ => repeats_fixedValue? ..
  | double =>
      exact (repeats_readMemory Instance.exists_readUnsigned (hstorage rfl)).bind
        fun _ _ => repeats_fixedValue? ..
  | object reference target =>
      cases reference with
      | raw => exact repeats_objectValue? ..
      | ptr => exact repeats_objectValue? ..
      | _ => exact .pure _
  | classRef reference metaClass =>
      cases reference with
      | raw => exact repeats_classValue? ..
      | ptr => exact repeats_classValue? ..
      | soft => exact .pure _
  | unsupported className => exact hwritable.elim
  | _ => exact .pure _

theorem repeats_restoreField {field : Field} {memory : Instance}
    (hwritable : field.kind.IsWritable)
    (hE : ¬field.IsStoredIn memory → ∀ failure, E (.outOfBounds failure)) (owner : String) :
    (restoreField graph owner memory field).Repeats uses E := by
  have hreserve : ∀ method, (reserve method memory field).Repeats uses E := by
    intro method
    rw [reserve]
    split
    · exact .pure _
    · exact line _
  rw [restoreField]
  split
  · exact hreserve _
  · exact hreserve _
  · exact hreserve _
  · refine (repeats_storedValue? hwritable hE owner).bind fun value _ => ?_
    cases value with
    | none => exact .pure _
    | some text => exact lines _

/-! ## Bodies of methods -/

theorem repeats_typeText {field : Field} (hwritable : field.kind.IsWritable)
    (huse : field.use ∈ uses) (owner : String) :
    (field.typeText graph owner).Repeats uses E := by
  apply (uses_typeText owner field).repeats
  · exact (succeeds_typeText_iff owner false field.toSlot field.kind).mpr hwritable
  · exact List.cons_subset.mpr ⟨huse, List.nil_subset _⟩

theorem repeats_zeroValue {field : Field} (hwritable : field.kind.IsWritable)
    (huse : field.use ∈ uses) (owner : String) :
    (zeroValue graph owner field).Repeats uses E := by
  have htype : Emit.Repeats uses E (do return (← field.typeText graph owner) ++ "()") :=
    (repeats_typeText hwritable huse owner).bind fun _ _ => .pure _
  rw [zeroValue]
  cases hkind : field.kind with
  | byte enumType =>
      cases enumType with
      | none => exact .pure _
      | some id => exact repeats_enumLiteral ..
  | enum enumType slot underlying =>
      cases enumType with
      | none =>
          rw [hkind] at hwritable
          exact hwritable.elim
      | some id => exact repeats_enumLiteral ..
  | struct structType =>
      cases structType with
      | none =>
          rw [hkind] at hwritable
          exact hwritable.elim
      | some id => exact .pure _
  | delegate signature multicast => exact htype
  | array slot inner => exact htype
  | set slot element => exact htype
  | map keySlot key valueSlot value => exact htype
  | unsupported className =>
      rw [hkind] at hwritable
      exact hwritable.elim
  | _ => exact .pure _

/-- A method all of whose slots can be written. -/
def Object.IsWritableMethod (object : Object) : Prop :=
  ∃ method, object.methodInfo? = some method ∧ ∀ slot ∈ method.slots, slot.kind.IsWritable

theorem repeats_defineMethod {object : Object} (h : object.IsWritableMethod)
    (huses : object.signatureUses ⊆ uses) (owner className : String) (reserved : ReservedNames) :
    (defineMethod graph owner className reserved object).Repeats uses E := by
  obtain ⟨method, hmethod, hwritable⟩ := h
  have huse : ∀ slot ∈ method.slots, slot.use ∈ uses := by
    intro slot hslot
    apply huses
    rw [Object.signatureUses, Object.slots, hmethod]
    exact List.mem_map_of_mem hslot
  have hreturn : ∀ slot, method.returnParam? = some slot → slot ∈ method.slots :=
    fun slot hslot => List.mem_append_right _ (Option.mem_toList.mpr hslot)
  have hparams : (parameterList graph owner .definition reserved method).Repeats uses E := by
    refine Logged.Within.bind (.mapM fun param hparam => ?_) fun _ _ => .pure _
    have hslot : param ∈ method.slots := List.mem_append_left _ hparam
    refine Logged.Within.bind (.pure _) fun _ _ => ?_
    exact (repeats_typeText (hwritable param hslot) (huse param hslot) owner).bind
      fun _ _ => .pure _
  have htype : (returnType graph owner method).Repeats uses E := by
    rw [returnType]
    split
    · rename_i slot hslot
      exact repeats_typeText (hwritable slot (hreturn slot hslot)) (huse slot (hreturn slot hslot))
        owner
    · exact .pure _
  have hbody : (zeroBody graph owner method).Repeats uses E := by
    rw [zeroBody]
    split
    · rename_i slot hslot
      exact (repeats_zeroValue (hwritable slot (hreturn slot hslot))
        (huse slot (hreturn slot hslot)) owner).bind fun _ _ => line _
    · exact .pure _
  have hvalidation : ∀ params name, (defineValidation className params name).Repeats uses E := by
    intro params name
    cases name with
    | none => exact .pure _
    | some name => exact (line _).bind fun _ _ => (indented (line _)).bind fun _ _ => line _
  rw [defineMethod, methodOf, hmethod]
  refine Logged.Within.bind (.pure method) fun _ hsame => ?_
  cases hsame
  split
  · exact .pure _
  · rename_i stubs _
    refine hparams.bind fun params _ => htype.bind fun _ _ => (line _).bind fun _ _ => ?_
    refine (indented hbody).bind fun _ _ => (line _).bind fun _ _ => ?_
    exact (hvalidation params _).bind fun _ _ => blank

/-! ## What a declaration has settled -/

/-- Sections are written only if each of them is. -/
theorem requires_writeSections {sections : List Section} {part : Section}
    (h : part ∈ sections) (current : Option AccessLevel) :
    (writeSections current sections).Requires part.body.Succeeds := by
  induction sections generalizing current with
  | nil => cases h
  | cons first rest ih =>
      obtain ⟨level, body⟩ := first
      have hparts : ∀ current, (do
          body
          writeSections current rest).Requires part.body.Succeeds := by
        intro current
        rcases List.mem_cons.mp h with rfl | hrest
        · exact Requires.bind_left id _
        · exact .bind_right _ fun _ => ih hrest current
      cases level with
      | none => exact hparts current
      | some level => exact .bind_right _ fun _ => hparts (some level)

theorem Emit.log_indented {body : Emit Unit} (h : body.Succeeds) :
    (Emit.indented body).log = .indent :: (body.log ++ [.outdent]) := by
  obtain ⟨_, hbody⟩ := h
  rw [Emit.indented, Logged.bind_ok rfl, Logged.bind_ok hbody]
  rfl

theorem requires_indented {body : Emit Unit} {P : Prop} (h : body.Requires P) :
    (Emit.indented body).Requires P :=
  .bind_right _ fun _ => h.bind_left _

/-- A method is declared only if its signature can be written. -/
theorem requires_declareMethod (options : GeneratorOptions) (owner : String) (place : MethodPlace)
    (reserved : ReservedNames) (object : Object) :
    (declareMethod graph options owner place reserved object).Requires
      object.IsWritableMethod := by
  intro hsucceeds
  obtain ⟨method, hmethod⟩ : (methodOf object).Succeeds := Requires.bind_left id _ hsucceeds
  have hinfo := methodInfo?_of_methodOf hmethod
  refine ⟨method, hinfo, fun slot hslot => ?_⟩
  apply (uses_declareMethod owner place reserved object).writable hsucceeds slot.use
  rw [Object.signatureUses, Object.slots, hinfo]
  exact List.mem_map_of_mem hslot

theorem requires_methodSection (options : GeneratorOptions) (owner : String) (place : MethodPlace)
    (reserved : ReservedNames) (object : Object) :
    (methodSection graph options owner place reserved object).body.Requires
      object.IsWritableMethod := by
  have hdeclare : (declareMethod graph options owner place reserved object).Requires
      object.IsWritableMethod := requires_declareMethod options owner place reserved object
  rw [methodSection]
  cases FunctionFlags.access? object.methodFlags with
  | none => exact .bind_right _ fun _ => hdeclare
  | some level => exact hdeclare

theorem requires_declareClass (options : GeneratorOptions) (module : String) (id : ObjectId)
    (object : Object) (info : ClassInfo) :
    (declareClass graph options module id object info).Requires
      (∀ method ∈ graph.methods info.functions, method.IsWritableMethod) := by
  intro hsucceeds method hmethod
  have hwritten : (declareClass graph options module id object info).Requires
      (methodSection graph options object.name .member (graph.reservedNames id true)
        method).body.Succeeds := by
    refine .bind_right _ fun _ => .bind_right _ fun _ => .bind_right _ fun _ => ?_
    refine .bind_right _ fun _ => .bind_right _ fun _ => .bind_right _ fun _ => ?_
    refine Requires.bind_left (requires_indented ?_) _
    refine .bind_right _ fun _ => requires_writeSections ?_ none
    simp only [List.mem_append, List.mem_map]
    exact .inl (.inr ⟨method, hmethod, rfl⟩)
  exact requires_methodSection options object.name .member _ method (hwritten hsucceeds)

/-! ## Definitions -/

theorem repeats_defineClass {info : ClassInfo}
    (hmethods : ∀ method ∈ graph.methods info.functions, method.IsWritableMethod)
    (huses : ∀ method ∈ graph.methods info.functions, method.signatureUses ⊆ uses)
    (hfields : ∀ field ∈ info.fields, field.kind.IsWritable)
    (hE : ∀ memory ∈ info.defaultObject, ∀ field ∈ info.fields, ¬field.IsStoredIn memory →
      ∀ failure, E (.outOfBounds failure)) (id : ObjectId) (object : Object) :
    (defineClass graph id object info).Repeats uses E := by
  have hreplication : ∀ name, (defineReplication name info).Repeats uses E := by
    intro name
    rw [defineReplication]
    split
    · exact .pure _
    · refine (includeHeader _).bind fun _ _ => (line _).bind fun _ _ => ?_
      refine (indented ?_).bind fun _ _ => (line _).bind fun _ _ => blank
      refine (line _).bind fun _ _ => blank.bind fun _ _ => ?_
      exact .forM fun field _ => line _
  refine Logged.Within.bind (.forM fun method hmethod => ?_) fun _ _ => ?_
  · exact repeats_defineMethod (hmethods method hmethod) (huses method hmethod) ..
  refine (hreplication _).bind fun _ _ => (line _).bind fun _ _ => ?_
  refine (indented ?_).bind fun _ _ => line _
  split
  · rename_i memory hmemory
    exact .forM fun field hfield =>
      repeats_restoreField (hfields field hfield) (hE memory hmemory field hfield) object.name
  · exact line _

theorem repeats_defineStruct {info : StructInfo}
    (hfields : ∀ field ∈ info.fields, field.kind.IsWritable)
    (hE : ∀ memory ∈ info.memory?, ∀ field ∈ info.fields, ¬field.IsStoredIn memory →
      ∀ failure, E (.outOfBounds failure)) (id : ObjectId) (object : Object) :
    (defineStruct graph id object info).Repeats uses E := by
  refine (line _).bind fun _ _ => (indented ?_).bind fun _ _ => line _
  split
  · rename_i memory hmemory
    exact .forM fun field hfield =>
      repeats_restoreField (hfields field hfield) (hE memory hmemory field hfield) object.name
  · exact .pure _

/-- The memory from which the definition of an object restores its fields. -/
def Object.defaultMemory? (object : Object) : Option Instance :=
  match object.kind with
  | .classType info => info.defaultObject
  | .structType info => info.memory?
  | _ => none

/-- Once an object is declared, its definition leaves no new marks behind, and it fails only
over fields that its memory does not hold. -/
theorem Object.repeats_define {options : GeneratorOptions} {module : String} {usage : TypeUsage}
    {id : ObjectId} {object : Object} {writing : Writing} {emission : Emit Unit}
    (h : object.writing graph options module usage id = .ok writing)
    (hdeclare : writing.declare.Succeeds) (hdefine : writing.define = some emission)
    (hE : ∀ memory ∈ object.defaultMemory?, ∀ field ∈ object.declaredFields,
      ¬field.IsStoredIn memory → ∀ failure, E (.outOfBounds failure)) :
    emission.Repeats (graph.typeUses object) E := by
  have hmember : ∀ field ∈ object.declaredFields, field.memberUse ∈ graph.typeUses object :=
    fun field hfield => List.mem_append_left _ (List.mem_map_of_mem hfield)
  rw [defaultMemory?, declaredFields] at hE
  rw [declaredFields] at hmember
  rw [Object.writing] at h
  cases hkind : object.kind with
  | classType info =>
      rw [hkind] at h hE hmember
      cases h
      cases hdefine
      apply repeats_defineClass
      · exact requires_declareClass options module id object info hdeclare
      · intro method hmethod use huse
        have hlisted := (Graph.mem_functionUses info.functions use).mpr
          (.inr (List.mem_flatMap.mpr ⟨method, hmethod, huse⟩))
        rw [Graph.typeUses, Graph.declaredFunctions, hkind, List.flatMap_append]
        exact List.mem_append_right _ (List.mem_append_left _ hlisted)
      · intro field hfield
        exact (uses_declareClass module id hkind).writable hdeclare _ (hmember field hfield)
      · exact hE
  | structType info =>
      rw [hkind] at h hE hmember
      cases h
      cases hdefine
      apply repeats_defineStruct
      · intro field hfield
        exact (uses_declareStruct module usage id hkind).writable hdeclare _ (hmember field hfield)
      · exact hE
  | interfaceType info =>
      rw [hkind] at h
      cases h
      cases hdefine
  | enumType info =>
      rw [hkind] at h
      cases h
      cases hdefine
  | function info =>
      rw [hkind] at h
      dsimp only at h
      split_ifs at h
      cases h
      cases hdefine
  | instanceOf type =>
      rw [hkind] at h
      cases h

theorem SourceFile.succeeds_of_write {file declaration : SourceFile} {emission : Emit Unit}
    {run after : Run} (h : file.write emission run = (after, .ok declaration)) :
    emission.Succeeds := by
  obtain ⟨value, hvalue, -⟩ := Outcome.map_eq_ok.mp (congrArg Prod.snd h)
  exact ⟨value, hvalue⟩

end HeaderSynth
