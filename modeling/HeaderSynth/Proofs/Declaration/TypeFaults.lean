import HeaderSynth.Proofs.Declaration.TypeUses

/-!
# Faults of types

A type has no text where a part of it names nothing, or is of a class that nobody knows.  The
parts are visited from the outside in and from the first to the last, and the first one with a
fault decides how the whole type fails.  Neither this nor the text hangs on the place where the
type is written, except that a truth value can share its byte where it is a member.
-/

namespace HeaderSynth

/-! ## Places -/

/-- The place of a type: the declaration around it, the file and the record that take down what
it demands, and whether it is the type of a direct member. -/
structure TypeContext where
  owner : String
  file : Option SourceFile
  run : Run
  isMember : Bool

/-- Writes the type of a field. -/
def TypeContext.write (graph : Graph) (context : TypeContext) (field : Field) : Emit String :=
  if context.isMember then field.memberTypeText graph context.owner
  else field.typeText graph context.owner

theorem TypeContext.write_eq (graph : Graph) (context : TypeContext) (field : Field) :
    context.write graph field =
      Emit.ofDemands (typeText graph context.owner context.isMember field.toSlot field.kind) := by
  rw [write]
  cases context.isMember <;> rfl

/-! ## Faults -/

/-- Wherever a type is written, it fails exactly if a part of it has a fault, and then with that
of the first such part.  Otherwise it has one text, whatever the file is, what the file holds and
what has been recorded; only a bit field has one text as a member and another elsewhere. -/
theorem text_or_firstFault (graph : Graph) (kind : FieldKind) :
    ∃ text, ∀ (context : TypeContext) (slot : Slot),
      (context.write graph ⟨slot, kind⟩).result =
        match Field.firstFault? context.owner ⟨slot, kind⟩ with
        | some fault => .error fault
        | none => .ok <|
          if kind.isBitfield then (if context.isMember then "uint8" else "bool") else text := by
  refine ⟨kind.spelling graph, ?_⟩
  intro context slot
  have hwrite : (context.write graph ⟨slot, kind⟩).result =
      (typeText graph context.owner context.isMember slot kind).result := by
    rw [TypeContext.write_eq]
    rfl
  rw [hwrite, result_typeText]
  cases Field.firstFault? context.owner ⟨slot, kind⟩ with
  | some fault => rfl
  | none =>
      apply congrArg Except.ok
      rw [FieldKind.spellingAs]
      -- Only a truth value is a bit field.
      cases kind with
      | bool byteOffset mask =>
          rw [FieldKind.isBitfield]
          cases decide (mask ≠ wholeByte) <;> cases context.isMember <;> rfl
      | _ => rfl

example : Field.firstFault? "UThing" ⟨{ name := "Lookup" },
    .mapOf (.arrayOf (.struct none)) (.unsupported "OddProperty")⟩ =
      some (.nullStructType "UThing" "Inner") := rfl

end HeaderSynth
