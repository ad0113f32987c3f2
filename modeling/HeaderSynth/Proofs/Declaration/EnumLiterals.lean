import HeaderSynth.Proofs.Declaration.FixedArrays
import HeaderSynth.Proofs.Declaration.Signatures
import HeaderSynth.Proofs.Declaration.TypeFaults

/-!
# Literals of enumerations

The values of an enumeration are written by the names of its entries, and a value that no entry
has is written as a cast.  The cast names the enumeration.  That is also its type, unless the
entries stand in a namespace, which is called by that name and has the type inside it.  There a
value without a name is cast to something that is no type, both where a field is restored and
where a stub returns the first value of an empty table.
-/

namespace HeaderSynth

/-! ## Fields -/

/-- A field of an enumeration of the graph: a byte of it, or a number of any width. -/
structure Field.IsOfEnum (graph : Graph) (field : Field) (id : ObjectId) (object : Object)
    (info : EnumInfo) : Prop where
  kind : field.kind.enumType? = some id
  found : graph.object? id = some object
  table : object.enumInfo? = some info

/-- The type of such a field, given the type of the values. -/
def FieldKind.enumText (kind : FieldKind) (type : String) : String :=
  match kind with
  | .byte _ => "TEnumAsByte<" ++ type ++ ">"
  | _ => type

/-- The number that memory keeps in such a field: a byte without a sign, or a signed number of
the width under the enumeration. -/
def Field.storedNumber (memory : Instance) (field : Field) : Except OutOfBounds Int :=
  match field.kind with
  | .enum _ _ underlying => memory.readSigned field.offset.toNat underlying.integerWidth
  | _ => (memory.readByte field.offset.toNat).map Nat.cast

variable {graph : Graph} {field : Field} {id : ObjectId} {object : Object} {info : EnumInfo}

theorem FieldKind.cases_of_enumType? {kind : FieldKind} (h : kind.enumType? = some id) :
    kind = .byte (some id) ∨ ∃ slot underlying, kind = .enum (some id) slot underlying := by
  rw [enumType?.eq_def] at h
  split at h
  · exact .inl (congrArg _ h)
  · rename_i enumType slot underlying
    exact .inr ⟨slot, underlying, by rw [h]⟩
  · cases h

/-- Wherever the type of the field can be written, it is that of the values, which a byte wraps. -/
theorem Field.IsOfEnum.typeText_eq (h : field.IsOfEnum graph id object info)
    (context : TypeContext) {text : String}
    (htext : (context.write graph field).result = .ok text) :
    text = field.kind.enumText (graph.enumTypeName id) := by
  rw [context.write_eq] at htext
  replace htext : (HeaderSynth.typeText graph context.owner context.isMember field.toSlot
      field.kind).result = .ok text := htext
  rw [result_typeText] at htext
  split at htext
  · cases htext
  · cases htext
    rcases FieldKind.cases_of_enumType? h.kind with hkind | ⟨slot, underlying, hkind⟩
    · rw [hkind]
      rfl
    · rw [hkind]
      rfl

/-! ## Literals -/

/-- A value as the declaration of its enumeration asks for it: the name of the entry, or a cast
to the type of the values. -/
def enumConstant (graph : Graph) (id : ObjectId) (value : Int) : String :=
  (enumValueName? graph id value).getD s!"({graph.enumTypeName id}){value}"

/-- What is written for a value: the name of its entry, or else a cast to the name of the
enumeration, which is the constant unless the enumeration is a namespace. -/
structure IsLiteralOf (graph : Graph) (id : ObjectId) (object : Object) (info : EnumInfo)
    (value : Int) (literal : String) : Prop where
  named : info.HasValue value → enumValueName? graph id value = some literal
  unnamed : ¬info.HasValue value → literal = s!"({object.name}){value}"
  eq_enumConstant_iff :
    literal = enumConstant graph id value ↔ info.HasValue value ∨ info.form ≠ .namespaced

/-- The type of the values has the name of the enumeration, unless this is a namespace. -/
theorem Field.IsOfEnum.enumTypeName_eq (h : field.IsOfEnum graph id object info) :
    graph.enumTypeName id =
      if info.form = .namespaced then object.name ++ "::Type" else object.name := by
  simp only [Graph.enumTypeName, h.found, h.table]

theorem Field.IsOfEnum.castValue_eq (h : field.IsOfEnum graph id object info) (value : Int) :
    castValue graph id value = s!"({object.name}){value}" := by
  simp only [castValue, Graph.enumName, h.found, Option.map_some, Option.getD_some]

/-- Casts to different types differ. -/
theorem cast_inj {type other number : String} (h : s!"({type}){number}" = s!"({other}){number}") :
    type = other := by
  simpa [toString] using h

/-- A literal is found for every value. -/
theorem Field.IsOfEnum.exists_literal (h : field.IsOfEnum graph id object info)
    (owner member : String) (value : Int) :
    ∃ literal, (enumLiteral graph owner member id value).result = .ok literal ∧
      IsLiteralOf graph id object info value literal := by
  have hvalue := isSome_enumValueName?_iff h.found h.table value
  rw [enumLiteral]
  cases hname : enumValueName? graph id value with
  | some name =>
      rw [hname] at hvalue
      have hentry : info.HasValue value := hvalue.mp rfl
      refine ⟨name, rfl, fun _ => hname, fun hmissing => absurd hentry hmissing, ?_⟩
      rw [enumConstant, hname]
      exact iff_of_true rfl (.inl hentry)
  | none =>
      rw [hname] at hvalue
      have hmissing : ¬info.HasValue value := fun hentry => Bool.false_ne_true (hvalue.mpr hentry)
      refine ⟨castValue graph id value, rfl, fun hentry => absurd hentry hmissing,
        fun _ => h.castValue_eq value, ?_⟩
      rw [h.castValue_eq, enumConstant, hname, Option.getD_none, h.enumTypeName_eq,
        or_iff_right hmissing]
      by_cases hform : info.form = .namespaced
      · rw [if_pos hform]
        refine iff_of_false (fun heq => ?_) (not_not_intro hform)
        have hlength := congrArg String.length (cast_inj heq)
        simp at hlength
      · rw [if_neg hform]
        exact iff_of_true rfl hform

/-! ## Values of fields -/

/-- Restoring the field reads its number, finds a literal for it and assigns that. -/
theorem Field.IsOfEnum.restoreField_eq (h : field.IsOfEnum graph id object info) (owner : String)
    (memory : Instance) :
    ∃ first : Emit Unit, first.Silent ∧ first.result = .ok () ∧
      restoreField graph owner memory field =
        first >>= fun _ => readMemory (field.storedNumber memory) >>= fun value =>
          enumLiteral graph owner field.name id value >>= fun literal =>
            (assignments field literal).forM Emit.line := by
  rcases FieldKind.cases_of_enumType? h.kind with hkind | ⟨slot, underlying, hkind⟩
  · refine ⟨pure (), .pure (), rfl, ?_⟩
    simp only [restoreField, storedValue?, storedNumber, hkind, bind_assoc, pure_bind]
    cases memory.readByte field.offset.toNat <;> rfl
  · refine ⟨Emit.depend id .full, .write rfl, rfl, ?_⟩
    simp only [restoreField, storedValue?, storedNumber, hkind, bind_assoc, pure_bind]

/-- Both where a stub returns the first value of an enumeration and where a constructor restores
a field of one, the literal agrees with the declaration and the type exactly if the value has an
entry or the enumeration is no namespace. -/
theorem enumLiterals_agree_iff (h : field.IsOfEnum graph id object info) (owner : String) :
    (∀ (context : TypeContext) (text : String), (context.write graph field).result = .ok text →
      text = field.kind.enumText (graph.enumTypeName id)) ∧
    (∃ literal, (zeroValue graph owner field).result = .ok literal ∧
      IsLiteralOf graph id object info ((info.entries.head?.map (·.value.toInt)).getD 0)
        literal) ∧
    (∀ (memory : Instance) (failure : OutOfBounds), field.storedNumber memory = .error failure →
      (restoreField graph owner memory field).result = .error (.outOfBounds failure)) ∧
    ∀ (memory : Instance) (value : Int), field.storedNumber memory = .ok value →
      ∃ literal, IsLiteralOf graph id object info value literal ∧
        (restoreField graph owner memory field).result = .ok () ∧
        (restoreField graph owner memory field).text = (assignments field literal).map .line := by
  refine ⟨fun context text htext => h.typeText_eq context htext, ?_, ?_, ?_⟩
  · have hzero : zeroValue graph owner field =
        enumLiteral graph owner field.name id
          ((info.entries.head?.map (·.value.toInt)).getD 0) := by
      rcases FieldKind.cases_of_enumType? h.kind with hkind | ⟨slot, underlying, hkind⟩
      all_goals
        simp only [zeroValue, hkind, firstEnumValue, h.found, h.table, Option.bind_some]
    rw [hzero]
    exact h.exists_literal owner field.name _
  · intro memory failure hfailure
    obtain ⟨first, -, hfirst, heq⟩ := h.restoreField_eq owner memory
    rw [heq, hfailure, Logged.bind_ok hfirst]
    rfl
  · intro memory value hvalue
    obtain ⟨first, hsilent, hfirst, heq⟩ := h.restoreField_eq owner memory
    obtain ⟨literal, hliteral, hspec⟩ := h.exists_literal owner field.name value
    have hread : readMemory (.ok value) = (pure value : Emit Int) := rfl
    have hlines : (assignments field literal).forM Emit.line =
        ⟨(assignments field literal).map .line, .ok ()⟩ :=
      writesLines_forM_line (assignments field literal)
    rw [heq, hvalue, hread, pure_bind]
    refine ⟨literal, hspec, ?_, ?_⟩
    · rw [Logged.bind_ok hfirst, Logged.bind_ok hliteral, hlines]
    · rw [hsilent.text_bind hfirst, (silent_enumLiteral ..).text_bind hliteral, hlines]
      exact List.filter_eq_self.mpr (List.forall_mem_map.mpr fun _ _ => rfl)

/-- The table of an enumeration in a namespace. -/
def flow : EnumInfo :=
  ⟨.namespaced, .none, [⟨"EFlow::Off", 0⟩, ⟨"EFlow::Full", 255⟩]⟩

def flowObject : Object :=
  ⟨"EFlow", "/Script/Game", none, .none, .enumType flow⟩

/-- A byte of the enumeration. -/
def valve : Field :=
  ⟨⟨"Flow", .none, 1, 0, none⟩, .byte (some ⟨0⟩)⟩

theorem valve_isOfEnum : valve.IsOfEnum ⟨#[flowObject]⟩ ⟨0⟩ flowObject flow :=
  ⟨rfl, rfl, rfl⟩

/-- An entry is restored by its name. -/
theorem enumLiterals_agree_iff_valve :
    valve.IsOfEnum ⟨#[flowObject]⟩ ⟨0⟩ flowObject flow ∧ flow.HasValue 255 ∧
      (restoreField ⟨#[flowObject]⟩ "Pump" ⟨[255], []⟩ valve).text =
        [.line "this->Flow = EFlow::Full;"] := by
  have hfull : flow.HasValue 255 := ⟨⟨"EFlow::Full", 255⟩, by decide, by decide⟩
  obtain ⟨-, -, -, hstored⟩ := enumLiterals_agree_iff valve_isOfEnum "Pump"
  obtain ⟨literal, hliteral, -, htext⟩ := hstored ⟨[255], []⟩ 255 (by decide)
  have hname : enumValueName? ⟨#[flowObject]⟩ ⟨0⟩ 255 = some "EFlow::Full" := by decide +kernel
  have hsame : some "EFlow::Full" = some literal := hname.symm.trans (hliteral.named hfull)
  cases hsame
  exact ⟨valve_isOfEnum, hfull, htext⟩

/-- A byte that no entry has is cast to the namespace and not to the type in it. -/
theorem valve_casts_to_namespace :
    valve.IsOfEnum ⟨#[flowObject]⟩ ⟨0⟩ flowObject flow ∧
      (valve.memberTypeText ⟨#[flowObject]⟩ "Pump").result = .ok "TEnumAsByte<EFlow::Type>" ∧
      valve.storedNumber ⟨[7], []⟩ = .ok 7 ∧ ¬flow.HasValue 7 ∧
      enumConstant ⟨#[flowObject]⟩ ⟨0⟩ 7 = "(EFlow::Type)7" ∧
      (restoreField ⟨#[flowObject]⟩ "Pump" ⟨[7], []⟩ valve).text =
        [.line "this->Flow = (EFlow)7;"] := by
  have hmissing : ¬flow.HasValue 7 := by
    rintro ⟨entry, hentry, hvalue⟩
    revert entry
    decide
  refine ⟨valve_isOfEnum, ?_, by decide, hmissing, by decide +kernel, by decide +kernel⟩
  decide +kernel

end HeaderSynth
