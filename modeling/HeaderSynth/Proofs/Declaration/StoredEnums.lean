import HeaderSynth.Declaration.DefaultValue
import HeaderSynth.Proofs.Reflection.Memory
import Mathlib.Tactic.SplitIfs

/-!
# Stored values of enumerations

A constructor restores a field of an enumeration from the bytes of the integral type under it.
The bytes are read as a signed number whatever that type is, so a value is restored by its name
where the signed reading has the same name.  This holds of all values of signed types, of the
lower half of the others, and of 64 bits, whose upper half no table holds.
-/

namespace HeaderSynth

/-! ## One line -/

/-- A computation appends one line to each file, leaves its indentation and reports
`diagnostics`. -/
structure Emit.AppendsLine (computation : Emit Unit) (text : String)
    (diagnostics : List Diagnostic) : Prop where
  result : computation.result = .ok ()
  body : ∀ file : SourceFile, (file.applyAll computation.log).body = (file.appendLine text).body
  indent : ∀ file : SourceFile, (file.applyAll computation.log).indent = file.indent
  diagnostics : ∀ run : Run,
    (run.applyAll computation.log).diagnostics = run.diagnostics ++ diagnostics

namespace Emit.AppendsLine

variable {computation : Emit Unit} {text other : String} {diagnostics others : List Diagnostic}

/-- The line and the diagnostics are determined. -/
theorem unique (h : computation.AppendsLine text diagnostics)
    (hother : computation.AppendsLine other others) : text = other ∧ diagnostics = others := by
  constructor
  · let file : SourceFile := ⟨⟨0⟩, "", "", .declaration, "", 0, .empty, .empty⟩
    have hbody : (file.appendLine text).body = (file.appendLine other).body :=
      (h.body file).symm.trans (hother.body file)
    simpa [file, SourceFile.appendLine, indentation] using hbody
  · have hreports := (h.diagnostics .empty).symm.trans (hother.diagnostics .empty)
    simpa [Run.empty] using hreports

end Emit.AppendsLine

/-! ## The type under an enumeration -/

theorem FieldKind.integerWidth_of_integerType? {kind : FieldKind} {type : IntegerType}
    (h : kind.integerType? = some type) :
    kind.integerWidth = type.width ∧ 0 < type.width ∧ type.width ≤ 8 := by
  rw [integerType?.eq_def] at h
  split at h
  all_goals cases h
  all_goals simp [integerWidth]

/-! ## Restoring a field -/

/-- A field of an enumeration keeps, in the bytes of an integral type, a value that the table of
the enumeration has. -/
structure Field.KeepsEntry (graph : Graph) (memory : Instance) (field : Field) (id : ObjectId)
    (type : IntegerType) (value : Int) : Prop where
  single : field.arrayDim = 1
  kind : ∃ slot underlying, field.kind = .enum (some id) slot underlying ∧
    underlying.integerType? = some type
  entry : ∃ object info, graph.object? id = some object ∧ object.enumInfo? = some info ∧
    ∃ entry ∈ info.entries, entry.value.toInt = value
  represents : type.Represents value
  bytes : (memory.bytes.drop field.offset.toNat).take type.width = type.encode value

variable {graph : Graph} {memory : Instance} {field : Field} {id : ObjectId} {type : IntegerType}
  {value : Int}

/-- The table of an enumeration has a value. -/
def EnumInfo.HasValue (info : EnumInfo) (value : Int) : Prop :=
  ∃ entry ∈ info.entries, entry.value.toInt = value

/-- The values with a name are those of the table. -/
theorem isSome_enumValueName?_iff {object : Object} {info : EnumInfo}
    (hobject : graph.object? id = some object) (hinfo : object.enumInfo? = some info)
    (value : Int) : (enumValueName? graph id value).isSome ↔ info.HasValue value := by
  have hname : (enumValueName? graph id value).isSome = (info.nameOf? value).isSome := by
    simp only [enumValueName?, hobject, hinfo, Option.bind_eq_bind, Option.bind_some]
    cases info.nameOf? value <;> rfl
  rw [hname, EnumInfo.nameOf?, Option.isSome_map, List.find?_isSome]
  simp only [decide_eq_true_eq, EnumInfo.HasValue]

/-- A value of the table has a name. -/
theorem Field.KeepsEntry.exists_name (h : field.KeepsEntry graph memory id type value) :
    ∃ name, enumValueName? graph id value = some name := by
  obtain ⟨object, info, hobject, hinfo, hentry⟩ := h.entry
  rw [← Option.isSome_iff_exists, isSome_enumValueName?_iff hobject hinfo]
  exact hentry

/-- Tables hold words of 64 bits, so the upper half of these has no entries. -/
theorem Field.KeepsEntry.lt_words (h : field.KeepsEntry graph memory id type value)
    (hwidth : type.width = 8) : 2 * value < type.words := by
  obtain ⟨_, info, _, _, entry, _, hvalue⟩ := h.entry
  have hbound := entry.value.toInt_lt
  rw [IntegerType.words, hwidth]
  omega

/-- The statement of a field assigns the name of the signed reading of its bytes. -/
theorem restoreField_of_keepsEntry (h : field.KeepsEntry graph memory id type value)
    (owner : String) :
    restoreField graph owner memory field =
      (Emit.depend id .full >>= fun _ =>
        enumLiteral graph owner field.name id (type.signedReading value) >>= fun text =>
          Emit.line s!"this->{field.name} = {text};") := by
  obtain ⟨slot, underlying, hkind, htype⟩ := h.kind
  obtain ⟨hwidth, hbounds⟩ := FieldKind.integerWidth_of_integerType? htype
  have hread := Instance.readSigned_encode hbounds h.represents h.bytes
  rw [← hwidth] at hread
  have hpure : readMemory (.ok (type.signedReading value)) =
      (pure (type.signedReading value) : Emit Int) := rfl
  have hassignment : ∀ text, (assignments field text).forM Emit.line =
      Emit.line s!"this->{field.name} = {text};" := by
    intro text
    rw [assignments, if_pos h.single]
    rfl
  simp only [restoreField, storedValue?, hkind, hread, hpure, bind_assoc, pure_bind, hassignment]

/-- A reading with a name is assigned by it. -/
theorem Field.KeepsEntry.appendsLine_name (h : field.KeepsEntry graph memory id type value)
    {name : String} (hname : enumValueName? graph id (type.signedReading value) = some name)
    (owner : String) :
    (restoreField graph owner memory field).AppendsLine s!"this->{field.name} = {name};" [] := by
  rw [restoreField_of_keepsEntry h, enumLiteral, hname]
  exact ⟨rfl, fun _ => rfl, fun _ => rfl, fun run => (List.append_nil run.diagnostics).symm⟩

/-- A number as a value of an enumeration. -/
def castValue (graph : Graph) (id : ObjectId) (value : Int) : String :=
  s!"({graph.enumName id}){value}"

/-- The report of a value without a name. -/
def unnamedValue (graph : Graph) (owner member : String) (id : ObjectId) (value : Int) :
    Diagnostic where
  object := owner
  member := some member
  message := s!"value {value} has no name in enum '{graph.enumName id}', casting instead"

/-- A reading without a name is assigned by a cast, and reported. -/
theorem Field.KeepsEntry.appendsLine_cast (h : field.KeepsEntry graph memory id type value)
    (hname : enumValueName? graph id (type.signedReading value) = none) (owner : String) :
    (restoreField graph owner memory field).AppendsLine
      s!"this->{field.name} = {castValue graph id (type.signedReading value)};"
      [unnamedValue graph owner field.name id (type.signedReading value)] := by
  rw [restoreField_of_keepsEntry h, enumLiteral, hname]
  exact ⟨rfl, fun _ => rfl, fun _ => rfl, fun _ => rfl⟩

/-- Assignments of different texts differ. -/
theorem assignment_inj {member text other : String}
    (h : s!"this->{member} = {text};" = s!"this->{member} = {other};") : text = other := by
  simpa [toString] using h

/-- A value of the table is restored by its name exactly where its signed reading has that name:
in particular if the type is signed or has 64 bits, or the value lies in the lower half.  A
reading that no entry has becomes a cast and a report. -/
theorem restoreField_by_name_iff (h : field.KeepsEntry graph memory id type value)
    (owner : String) :
    ∃ name, enumValueName? graph id value = some name ∧
      ((restoreField graph owner memory field).AppendsLine s!"this->{field.name} = {name};" [] ↔
        enumValueName? graph id (type.signedReading value) = some name) ∧
      (type.signed ∨ type.width = 8 ∨ 2 * value < type.words →
        (restoreField graph owner memory field).AppendsLine
          s!"this->{field.name} = {name};" []) ∧
      (enumValueName? graph id (type.signedReading value) = none →
        (restoreField graph owner memory field).AppendsLine
          s!"this->{field.name} = {castValue graph id (type.signedReading value)};"
          [unnamedValue graph owner field.name id (type.signedReading value)]) := by
  obtain ⟨name, hname⟩ := h.exists_name
  refine ⟨name, hname, ⟨?_, ?_⟩, ?_, fun hcast => h.appendsLine_cast hcast owner⟩
  · intro hline
    cases hreading : enumValueName? graph id (type.signedReading value) with
    | none =>
        have hreport := (hline.unique (h.appendsLine_cast hreading owner)).2
        cases hreport
    | some other =>
        have htext := (hline.unique (h.appendsLine_name hreading owner)).1
        rw [assignment_inj htext]
  · intro hreading
    exact h.appendsLine_name hreading owner
  · intro hlower
    have hhalf : 2 * value < type.words := by
      rcases hlower with hsigned | hwidth | hhalf
      · exact IntegerType.lt_words_of_signed h.represents hsigned
      · exact h.lt_words hwidth
      · exact hhalf
    have hreading : type.signedReading value = value :=
      (type.signedReading_eq_self_iff value).mpr hhalf
    exact h.appendsLine_name (hreading.symm ▸ hname) owner

/-- An enumeration with a negative value and one that a signed byte has not. -/
def modeGraph : Graph :=
  ⟨#[⟨"EMode", "/Script/Game", none, .none,
    .enumType ⟨.enumClass, .none, [⟨"EMode::Lost", -2⟩, ⟨"EMode::Off", 0⟩, ⟨"EMode::High", 200⟩]⟩⟩]⟩

/-- A field of the enumeration, over a given type. -/
def modeField (underlying : FieldKind) : Field :=
  ⟨⟨"Mode", .none, 1, 1, none⟩, .enum (some ⟨0⟩) ⟨"Underlying", .none, 1, 0, none⟩ underlying⟩

theorem modeField_keepsEntry_lost :
    (modeField .int16).KeepsEntry modeGraph ⟨[7, 0xFE, 0xFF], []⟩ ⟨0⟩ ⟨true, 2⟩ (-2) where
  single := rfl
  kind := ⟨_, _, rfl, rfl⟩
  entry := ⟨_, _, rfl, rfl, ⟨"EMode::Lost", -2⟩, by decide, by decide⟩
  represents := by decide
  bytes := by decide

theorem restoreField_by_name_iff_lost :
    (modeField .int16).KeepsEntry modeGraph ⟨[7, 0xFE, 0xFF], []⟩ ⟨0⟩ ⟨true, 2⟩ (-2) ∧
      (restoreField modeGraph "Engine" ⟨[7, 0xFE, 0xFF], []⟩ (modeField .int16)).AppendsLine
        "this->Mode = EMode::Lost;" [] := by
  refine ⟨modeField_keepsEntry_lost, ?_⟩
  have hlost : enumValueName? modeGraph ⟨0⟩ (-2) = some "EMode::Lost" := by decide +kernel
  obtain ⟨name, hname, _, hline, _⟩ := restoreField_by_name_iff modeField_keepsEntry_lost "Engine"
  rw [hlost] at hname
  cases hname
  exact hline (.inl rfl)

theorem modeField_keepsEntry_high :
    (modeField (.byte none)).KeepsEntry modeGraph ⟨[7, 200], []⟩ ⟨0⟩ ⟨false, 1⟩ 200 where
  single := rfl
  kind := ⟨_, _, rfl, rfl⟩
  entry := ⟨_, _, rfl, rfl, ⟨"EMode::High", 200⟩, by decide, by decide⟩
  represents := by decide
  bytes := by decide

/-- The upper half of the bytes is not restored by name. -/
theorem restoreField_casts_upper_half :
    (modeField (.byte none)).KeepsEntry modeGraph ⟨[7, 200], []⟩ ⟨0⟩ ⟨false, 1⟩ 200 ∧
      enumValueName? modeGraph ⟨0⟩ 200 = some "EMode::High" ∧
      ¬(restoreField modeGraph "Engine" ⟨[7, 200], []⟩ (modeField (.byte none))).AppendsLine
        "this->Mode = EMode::High;" [] ∧
      (restoreField modeGraph "Engine" ⟨[7, 200], []⟩ (modeField (.byte none))).AppendsLine
        "this->Mode = (EMode)-56;"
        [⟨"Engine", some "Mode", "value -56 has no name in enum 'EMode', casting instead"⟩] := by
  have hunnamed : enumValueName? modeGraph ⟨0⟩ (-56) = none := by decide +kernel
  have hcast := modeField_keepsEntry_high.appendsLine_cast hunnamed "Engine"
  refine ⟨modeField_keepsEntry_high, by decide +kernel, ?_, ?_⟩
  · intro hname
    cases (hname.unique hcast).2
  · exact hcast

end HeaderSynth
