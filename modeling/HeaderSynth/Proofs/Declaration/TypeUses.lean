import HeaderSynth.Declaration.ObjectFiles
import HeaderSynth.Proofs.Declaration.TypeSteps

/-!
# What types leave behind

Writing the text of a type marks other types for later: the enumerations that scripts see
through it, the aggregates that it is made of, and the aggregate that is the key of a map.
A type can be written unless a part of it names nothing, and then the marks are exactly those
of its parts, at any depth.
-/

namespace HeaderSynth

/-- A type all of whose parts can be written. -/
def FieldKind.IsWritable : FieldKind → Prop
  | .enum none _ _ => False
  | .enum (some _) _ underlying => underlying.IsWritable
  | .struct none => False
  | .delegate none _ => False
  | .array _ inner => inner.IsWritable
  | .set _ element => element.IsWritable
  | .map _ key _ value => key.IsWritable ∧ value.IsWritable
  | .unsupported _ => False
  | _ => True

/-! ## Marks -/

/-- A demand that marks a type for the annotations and hashes to come. -/
def Demand.IsMark : Demand → Prop
  | .visibleEnum _ => True
  | .usedStruct _ => True
  | .hashedKey _ => True
  | .depend .. => False
  | .includeHeader _ => False
  | .underlying .. => False

/-- The place of a type in a declaration: that of a direct member, or of a parameter or
result. -/
structure TypeUse where
  isMember : Bool
  field : Field

/-- What the type of a field marks. -/
def TypeUse.Marks (use : TypeUse) : Demand → Prop
  | .visibleEnum id => ∃ part ∈ use.field.parts,
      part.flags.contains PropertyFlags.blueprintVisible = true ∧ part.kind.enumType? = some id
  | .usedStruct id => ∃ part ∈ use.field.parts, part.kind = .struct (some id)
  | .hashedKey id => use.isMember = true ∧ ∃ keySlot valueSlot value,
      use.field.kind = .map keySlot (.struct (some id)) valueSlot value
  | _ => False

/-! ## Texts of types -/

variable {graph : Graph}

theorem FieldKind.isWritable_iff (owner : String) (slot : Slot) (kind : FieldKind) :
    kind.IsWritable ↔ ∀ part ∈ kind.nodes slot, part.fault? owner = none := by
  induction kind generalizing slot with
  | enum enumType inner underlying ih =>
      cases enumType <;> simp [IsWritable, nodes, Field.fault?, ih inner]
  | struct structType => cases structType <;> simp [IsWritable, nodes, Field.fault?]
  | delegate signature => cases signature <;> simp [IsWritable, nodes, Field.fault?]
  | array inner element ih => simp [IsWritable, nodes, Field.fault?, ih inner]
  | set inner element ih => simp [IsWritable, nodes, Field.fault?, ih inner]
  | map keySlot key valueSlot value ihKey ihValue =>
      simp [IsWritable, nodes, Field.fault?, ihKey keySlot, ihValue valueSlot, or_imp,
        forall_and]
  | _ => simp [IsWritable, nodes, Field.fault?]

/-- A type can be written unless one of its parts cannot. -/
theorem succeeds_typeText_iff (owner : String) (member : Bool) (slot : Slot) (kind : FieldKind) :
    (typeText graph owner member slot kind).Succeeds ↔ kind.IsWritable :=
  succeeds_typeText.trans (kind.isWritable_iff owner slot).symm

/-- Writing a type leaves exactly the marks of its parts behind. -/
theorem exactly_typeText (owner : String) (member : Bool) (slot : Slot) (kind : FieldKind) :
    (typeText graph owner member slot kind).Exactly Demand.IsMark
      (TypeUse.Marks ⟨member, slot, kind⟩) := by
  intro text htext demand hmark
  -- What a part demands of the file is no mark, and neither is the record of a numeric type.
  have hfile : ∀ part : Field, demand ∉ part.kind.fileDemands graph := by
    intro part hmem
    rcases FieldKind.cases_of_mem_fileDemands hmem with ⟨id, -, level, rfl⟩ | rfl
    · exact hmark
    · exact hmark
  have hrecord : ∀ id type, demand ≠ .underlying id type := by
    rintro id type rfl
    exact hmark
  rw [log_typeText ⟨text, htext⟩, List.mem_append, FieldKind.mem_memberDemands_iff,
    FieldKind.mem_demands_iff]
  cases demand with
  | visibleEnum id => simp [hfile, hrecord, Field.mem_ownMarks_iff, TypeUse.Marks, Field.parts]
  | usedStruct id => simp [hfile, hrecord, Field.mem_ownMarks_iff, TypeUse.Marks, Field.parts]
  | hashedKey id => simp [hfile, hrecord, Field.mem_ownMarks_iff, TypeUse.Marks]
  | _ => exact hmark.elim

end HeaderSynth
