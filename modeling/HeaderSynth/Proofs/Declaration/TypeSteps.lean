import HeaderSynth.Declaration.TypeText
import HeaderSynth.Proofs.Logged
import HeaderSynth.Proofs.Reflection.References

/-!
# Steps of types

Writing a type visits its parts from the outside in and from the first to the last.  A part with
a fault is the end of it; any other makes its demands, and what stands under an enumeration is
recorded once it has been visited.  So the list of these steps and the text of the type say
everything about writing it.
-/

namespace HeaderSynth

/-! ## Parts of types -/

/-- The field with the given type, and the fields inside the type at any depth. -/
def FieldKind.nodes (slot : Slot) : FieldKind → List Field
  | .enum enumType inner underlying =>
    ⟨slot, .enum enumType inner underlying⟩ :: underlying.nodes inner
  | .array inner element => ⟨slot, .array inner element⟩ :: element.nodes inner
  | .set inner element => ⟨slot, .set inner element⟩ :: element.nodes inner
  | .map keySlot key valueSlot value =>
    ⟨slot, .map keySlot key valueSlot value⟩ :: (key.nodes keySlot ++ value.nodes valueSlot)
  | kind => [⟨slot, kind⟩]

/-- A field and the fields inside its type, at any depth. -/
def Field.parts (field : Field) : List Field :=
  field.kind.nodes field.toSlot

/-- The enumeration whose entries are the values of a type. -/
def FieldKind.enumType? : FieldKind → Option ObjectId
  | .byte enumType => enumType
  | .enum enumType _ _ => enumType
  | _ => none

/-- The aggregate that needs a hash if the type is that of a member. -/
def FieldKind.hashedKey? : FieldKind → Option ObjectId
  | .map _ (.struct structType) _ _ => structType
  | _ => none

/-- What keeps a part of a type from being written, whatever is inside it. -/
def Field.fault? (owner : String) (part : Field) : Option GenerateError :=
  match part.kind with
  | .enum none _ _ => some (.nullEnumType owner part.name)
  | .struct none => some (.nullStructType owner part.name)
  | .delegate none _ =>
    some (.unsupportedFieldKind owner part.name "delegate without signature")
  | .unsupported className => some (.unsupportedFieldKind owner part.name className)
  | _ => none

/-- The fault of the first part that has one. -/
def Field.firstFault? (owner : String) (field : Field) : Option GenerateError :=
  field.parts.findSome? (·.fault? owner)

/-- What a part of a type demands of the file by itself.  References to the root class and the
root interface need nothing, for their texts name no class. -/
def FieldKind.fileDemands (graph : Graph) : FieldKind → List Demand
  | .byte (some id) => [.depend id .full]
  | .enum (some id) _ _ => [.depend id .full]
  | .struct (some id) => [.depend id .full]
  | .delegate (some id) _ => [.depend id .full]
  | .object _ (some id) => [.depend id .forward]
  | .classRef .raw (some id) =>
    if graph.isRootObject id then []
    else [.depend id .forward, .includeHeader subclassOfHeader]
  | .classRef .soft (some id) => [.depend id .forward]
  | .interface (some id) => if graph.isRootInterface id then [] else [.depend id .forward]
  | _ => []

/-- A part depends on what it names, and perhaps on the header for references to subclasses. -/
theorem FieldKind.cases_of_mem_fileDemands {graph : Graph} {kind : FieldKind} {demand : Demand}
    (h : demand ∈ kind.fileDemands graph) :
    (∃ id ∈ kind.targets, ∃ level, demand = .depend id level) ∨
      demand = .includeHeader subclassOfHeader := by
  have hone : ∀ {kind : FieldKind} {id level}, id ∈ kind.targets →
      demand ∈ [Demand.depend id level] →
      (∃ id ∈ kind.targets, ∃ level, demand = .depend id level) ∨
        demand = .includeHeader subclassOfHeader :=
    fun hid hmem => .inl ⟨_, hid, _, List.mem_singleton.mp hmem⟩
  revert h
  fun_cases fileDemands graph kind
  -- References to subclasses are the only ones with two demands.
  case case7 =>
    intro h
    rcases List.mem_cons.mp h with rfl | h
    · exact .inl ⟨_, by simp [targets], _, rfl⟩
    · exact .inr (List.mem_singleton.mp h)
  case case6 | case9 | case11 =>
    intro h
    cases h
  all_goals exact hone (by simp [targets])

/-- What a part of a type marks for later by itself. -/
def Field.ownMarks (part : Field) : List Demand :=
  match part.kind.enumType?, part.kind with
  | some id, _ =>
    if part.flags.contains PropertyFlags.blueprintVisible then [.visibleEnum id] else []
  | none, .struct (some id) => [.usedStruct id]
  | none, _ => []

/-- The text of a type that can be written, where it is no bit field. -/
def FieldKind.spelling (graph : Graph) : FieldKind → String
  | .int8 => "int8"
  | .int16 => "int16"
  | .int32 => "int32"
  | .int64 => "int64"
  | .uint16 => "uint16"
  | .uint32 => "uint32"
  | .uint64 => "uint64"
  | .float => "float"
  | .double => "double"
  | .byte none => "uint8"
  | .byte (some id) => "TEnumAsByte<" ++ graph.enumTypeName id ++ ">"
  | .enum none _ _ => ""
  | .enum (some id) _ _ => graph.enumTypeName id
  | .bool .. => "bool"
  | .object reference none => reference.wrap "UObject"
  | .object reference (some id) => reference.wrap (graph.className id)
  | .classRef .ptr _ => "TObjectPtr<UClass>"
  | .classRef .raw none => "UClass*"
  | .classRef .raw (some id) =>
    if graph.isRootObject id then "UClass*" else "TSubclassOf<" ++ graph.className id ++ ">"
  | .classRef .soft none => "TSoftClassPtr<UObject>"
  | .classRef .soft (some id) => "TSoftClassPtr<" ++ graph.className id ++ ">"
  | .interface none => "FScriptInterface"
  | .interface (some id) =>
    if graph.isRootInterface id then "FScriptInterface"
    else "TScriptInterface<" ++ graph.contractName id ++ ">"
  | .struct none => ""
  | .struct (some id) => graph.structName id
  | .delegate none _ => ""
  | .delegate (some id) _ => graph.delegateName id
  | .fieldPath fieldClass => "TFieldPath<F" ++ fieldClass ++ ">"
  | .name => "FName"
  | .str => "FString"
  | .text => "FText"
  | .array _ inner => "TArray<" ++ inner.spelling graph ++ ">"
  | .set _ element => "TSet<" ++ element.spelling graph ++ ">"
  | .map _ key _ value => "TMap<" ++ key.spelling graph ++ ", " ++ value.spelling graph ++ ">"
  | .unsupported _ => ""

theorem Field.mem_ownMarks_iff {part : Field} {demand : Demand} :
    demand ∈ part.ownMarks ↔
      (∃ id, demand = .visibleEnum id ∧
        part.flags.contains PropertyFlags.blueprintVisible = true ∧
          part.kind.enumType? = some id) ∨
      ∃ id, demand = .usedStruct id ∧ part.kind = .struct (some id) := by
  obtain ⟨slot, kind⟩ := part
  rw [ownMarks]
  cases kind with
  | byte enumType => cases enumType <;> simp [FieldKind.enumType?, and_comm]
  | enum enumType inner underlying => cases enumType <;> simp [FieldKind.enumType?, and_comm]
  | struct structType => cases structType <;> simp [FieldKind.enumType?]
  | _ => simp [FieldKind.enumType?]

/-! ## Steps -/

/-- A step of writing a type. -/
inductive TypeStep where
  | part (field : Field)
  /-- The record of the numeric type under an enumeration. -/
  | underlying (id : ObjectId) (kind : FieldKind)

def TypeStep.part? : TypeStep → Option Field
  | .part field => some field
  | .underlying .. => none

/-- The steps of writing a type, in order. -/
def FieldKind.steps (slot : Slot) : FieldKind → List TypeStep
  | .enum enumType inner underlying =>
    .part ⟨slot, .enum enumType inner underlying⟩ ::
      (underlying.steps inner ++ enumType.toList.map (.underlying · underlying))
  | .array inner element => .part ⟨slot, .array inner element⟩ :: element.steps inner
  | .set inner element => .part ⟨slot, .set inner element⟩ :: element.steps inner
  | .map keySlot key valueSlot value =>
    .part ⟨slot, .map keySlot key valueSlot value⟩ :: (key.steps keySlot ++ value.steps valueSlot)
  | kind => [.part ⟨slot, kind⟩]

def TypeStep.fault? (owner : String) (step : TypeStep) : Option GenerateError :=
  step.part?.bind (·.fault? owner)

/-- What a step demands, unless it has a fault. -/
def TypeStep.demands (graph : Graph) : TypeStep → List Demand
  | .part field => field.kind.fileDemands graph ++ field.ownMarks
  | .underlying id kind => [.underlying id (kind.spelling graph)]

/-- What comes of a step: its demands, or its fault. -/
def TypeStep.outcomes (graph : Graph) (owner : String) (step : TypeStep) :
    List (Except GenerateError Demand) :=
  match step.fault? owner with
  | some fault => [.error fault]
  | none => (step.demands graph).map .ok

/-- What comes of the steps of a type. -/
def FieldKind.outcomes (graph : Graph) (owner : String) (slot : Slot) (kind : FieldKind) :
    List (Except GenerateError Demand) :=
  (kind.steps slot).flatMap (TypeStep.outcomes graph owner)

/-- What a type demands only where it is that of a member: a hash for the key of a map. -/
def FieldKind.memberDemands (member : Bool) (kind : FieldKind) : List Demand :=
  if member then kind.hashedKey?.toList.map .hashedKey else []

/-- The text of a type; as a member a truth value can share its byte with others. -/
def FieldKind.spellingAs (graph : Graph) (member : Bool) (kind : FieldKind) : String :=
  if kind.isBitfield && member then "uint8" else kind.spelling graph

/-- The parts come in the order of the steps. -/
theorem FieldKind.filterMap_steps (slot : Slot) (kind : FieldKind) :
    (kind.steps slot).filterMap TypeStep.part? = kind.nodes slot := by
  induction kind generalizing slot with
  | enum enumType inner underlying ih =>
      cases enumType <;> simp [steps, nodes, TypeStep.part?, ih]
  | array inner element ih => simp [steps, nodes, TypeStep.part?, ih]
  | set inner element ih => simp [steps, nodes, TypeStep.part?, ih]
  | map keySlot key valueSlot value ihKey ihValue =>
      simp [steps, nodes, TypeStep.part?, ihKey, ihValue]
  | _ => rfl

variable {graph : Graph}

/-- The values of an enumeration demand its definition, and a mark where scripts see them. -/
theorem demandEnum_eq {part : Field} {id : ObjectId} (h : part.kind.enumType? = some id) :
    demandEnum part.toSlot id = Logged.replay () ((.depend id .full :: part.ownMarks).map .ok) := by
  rw [demandEnum, Field.ownMarks, h]
  dsimp only
  split <;> rfl

theorem FieldKind.outcomes_cons {owner : String} {slot : Slot} {kind : FieldKind} {part : Field}
    {rest : List TypeStep} (hsteps : kind.steps slot = .part part :: rest)
    (hfault : part.fault? owner = none) :
    kind.outcomes graph owner slot =
      (part.kind.fileDemands graph ++ part.ownMarks).map .ok ++
        rest.flatMap (TypeStep.outcomes graph owner) := by
  have hstep : (TypeStep.part part).fault? owner = none := hfault
  rw [outcomes, hsteps, List.flatMap_cons, TypeStep.outcomes, hstep, TypeStep.demands]

/-- Writing a part of a type replays its steps. -/
theorem typeText_part (owner : String) (slot : Slot) (kind : FieldKind) :
    typeText graph owner false slot kind =
      Logged.replay (kind.spelling graph) (kind.outcomes graph owner slot) := by
  -- An inner type has a slot of its own, so that varies along the induction.
  induction kind generalizing slot with
  | byte enumType =>
      cases enumType with
      | none => rfl
      | some id =>
          have hdemands : demandEnum slot id = _ :=
            @demandEnum_eq ⟨slot, .byte (some id)⟩ id rfl
          rw [typeText, hdemands, FieldKind.outcomes_cons rfl rfl, List.flatMap_nil,
            List.append_nil]
          exact Logged.replay_bind_done rfl
  | enum enumType inner underlying ih =>
      cases enumType with
      | none => rfl
      | some id =>
          have hdemands : demandEnum slot id = _ :=
            @demandEnum_eq ⟨slot, .enum (some id) inner underlying⟩ id rfl
          rw [typeText, hdemands, FieldKind.outcomes_cons rfl rfl, List.flatMap_append]
          apply Logged.replay_bind
          rw [ih]
          exact Logged.replay_bind rfl
  | object reference target => cases target <;> rfl
  | classRef reference metaClass =>
      cases reference with
      | ptr => rfl
      | soft => cases metaClass <;> rfl
      | raw =>
          cases metaClass with
          | none => rfl
          | some id =>
              rw [typeText, FieldKind.outcomes_cons rfl rfl, FieldKind.spelling,
                FieldKind.fileDemands]
              split <;> rfl
  | interface target =>
      cases target with
      | none => rfl
      | some id =>
          rw [typeText, FieldKind.outcomes_cons rfl rfl, FieldKind.spelling,
            FieldKind.fileDemands]
          split <;> rfl
  | struct structType => cases structType <;> rfl
  | delegate signature multicast => cases signature <;> rfl
  | array inner element ih =>
      rw [typeText, ih]
      exact Logged.replay_bind_done rfl
  | set inner element ih =>
      rw [typeText, ih]
      exact Logged.replay_bind_done rfl
  | map keySlot key valueSlot value ihKey ihValue =>
      rw [typeText.eq_def, FieldKind.outcomes_cons rfl rfl, List.flatMap_append]
      dsimp only
      rw [ihKey, ihValue]
      apply Logged.replay_bind
      exact Logged.replay_bind_done rfl
  | _ => rfl

/-- Writing a type replays its steps; a member that is a map asks for a hash before, and a bit
field has another text. -/
theorem typeText_eq (owner : String) (member : Bool) (slot : Slot) (kind : FieldKind) :
    typeText graph owner member slot kind = Logged.replay (kind.spellingAs graph member)
      ((kind.memberDemands member).map .ok ++ kind.outcomes graph owner slot) := by
  have hpart := @typeText_part graph owner slot kind
  cases member with
  | false =>
      rw [hpart, FieldKind.spellingAs, Bool.and_false]
      rfl
  | true =>
      cases kind with
      | bool byteOffset mask =>
          rw [typeText, FieldKind.spellingAs, FieldKind.isBitfield, Bool.and_comm]
          rfl
      | map keySlot key valueSlot value =>
          cases key with
          | struct structType =>
              cases structType with
              | none => exact hpart
              | some id => exact congrArg (Logged.write (.hashedKey id) >>= fun _ => ·) hpart
          | _ => exact hpart
      | byte enumType => cases enumType <;> exact hpart
      | enum enumType inner underlying => cases enumType <;> exact hpart
      | object reference target => cases target <;> exact hpart
      | classRef reference metaClass => cases reference <;> cases metaClass <;> exact hpart
      | interface target => cases target <;> exact hpart
      | struct structType => cases structType <;> exact hpart
      | delegate signature multicast => cases signature <;> exact hpart
      | _ => exact hpart

/-! ## What follows from the steps -/

theorem TypeStep.outcomes_of_fault?_eq_none {owner : String} {step : TypeStep}
    (h : step.fault? owner = none) :
    step.outcomes graph owner = (step.demands graph).map .ok := by
  rw [outcomes, h]

/-- The faults among the outcomes are those of the parts, in order. -/
theorem FieldKind.filterMap_failure?_outcomes (owner : String) (slot : Slot) (kind : FieldKind) :
    (kind.outcomes graph owner slot).filterMap Logged.failure? =
      (kind.nodes slot).filterMap (·.fault? owner) := by
  have hstep : ∀ step : TypeStep, (step.outcomes graph owner).filterMap Logged.failure? =
      (step.fault? owner).toList := by
    intro step
    cases hfault : step.fault? owner with
    | some fault =>
        rw [TypeStep.outcomes, hfault]
        rfl
    | none => rw [TypeStep.outcomes_of_fault?_eq_none hfault, Logged.filterMap_failure?_ok]; rfl
  rw [outcomes, List.filterMap_flatMap]
  simp only [hstep]
  rw [← List.filterMap_eq_flatMap_toList, ← filterMap_steps, List.filterMap_filterMap]
  rfl

/-- What the steps of a type demand. -/
def FieldKind.demands (graph : Graph) (slot : Slot) (kind : FieldKind) : List Demand :=
  (kind.steps slot).flatMap (TypeStep.demands graph)

theorem FieldKind.part_mem_steps_iff {slot : Slot} {kind : FieldKind} {part : Field} :
    .part part ∈ kind.steps slot ↔ part ∈ kind.nodes slot := by
  rw [← filterMap_steps, List.mem_filterMap]
  constructor
  · intro h
    exact ⟨.part part, h, rfl⟩
  · rintro ⟨step, hstep, hpart⟩
    cases step with
    | part field =>
        cases hpart
        exact hstep
    | underlying id kind => cases hpart

theorem FieldKind.mem_memberDemands_iff {member : Bool} {kind : FieldKind} {demand : Demand} :
    demand ∈ kind.memberDemands member ↔
      member = true ∧ ∃ id, demand = .hashedKey id ∧ ∃ keySlot valueSlot value,
        kind = .map keySlot (.struct (some id)) valueSlot value := by
  have hkey : ∀ id, kind.hashedKey? = some id ↔ ∃ keySlot valueSlot value,
      kind = .map keySlot (.struct (some id)) valueSlot value := by
    intro id
    cases kind with
    | map keySlot key valueSlot value => cases key <;> simp [hashedKey?]
    | _ => simp [hashedKey?]
  cases member with
  | false => simp [memberDemands]
  | true => simp [memberDemands, hkey, eq_comm, and_comm]

theorem FieldKind.mem_demands_iff {slot : Slot} {kind : FieldKind} {demand : Demand} :
    demand ∈ kind.demands graph slot ↔
      (∃ part ∈ kind.nodes slot, demand ∈ part.kind.fileDemands graph ∨ demand ∈ part.ownMarks) ∨
      ∃ id underlying, .underlying id underlying ∈ kind.steps slot ∧
        demand = .underlying id (underlying.spelling graph) := by
  rw [demands, List.mem_flatMap]
  constructor
  · rintro ⟨step, hstep, hdemand⟩
    cases step with
    | part field =>
        exact .inl ⟨field, part_mem_steps_iff.mp hstep, List.mem_append.mp hdemand⟩
    | underlying id underlying => exact .inr ⟨id, underlying, hstep, List.mem_singleton.mp hdemand⟩
  · rintro (⟨part, hpart, hdemand⟩ | ⟨id, underlying, hstep, rfl⟩)
    · exact ⟨.part part, part_mem_steps_iff.mpr hpart, List.mem_append.mpr hdemand⟩
    · exact ⟨.underlying id underlying, hstep, List.mem_singleton_self _⟩

section

variable {owner : String} {member : Bool} {slot : Slot} {kind : FieldKind}

/-- The first part with a fault decides how a type fails; without a fault it has its text. -/
theorem result_typeText : (typeText graph owner member slot kind).result =
    match Field.firstFault? owner ⟨slot, kind⟩ with
    | some fault => .error fault
    | none => .ok (kind.spellingAs graph member) := by
  have hfaults : ((kind.memberDemands member).map Except.ok ++
      kind.outcomes graph owner slot).findSome? Logged.failure? =
        Field.firstFault? owner ⟨slot, kind⟩ := by
    rw [Field.firstFault?, ← List.head?_filterMap, ← List.head?_filterMap, List.filterMap_append,
      Logged.filterMap_failure?_ok, FieldKind.filterMap_failure?_outcomes]
    rfl
  rw [typeText_eq, Logged.result_replay, hfaults]
  cases Field.firstFault? owner ⟨slot, kind⟩ <;> rfl

theorem succeeds_typeText :
    (typeText graph owner member slot kind).Succeeds ↔
      ∀ part ∈ kind.nodes slot, part.fault? owner = none := by
  rw [← List.findSome?_eq_none_iff, Logged.Succeeds, result_typeText]
  show _ ↔ Field.firstFault? owner ⟨slot, kind⟩ = none
  cases Field.firstFault? owner ⟨slot, kind⟩ <;> simp

/-- A type that can be written makes the demands of its steps. -/
theorem log_typeText (h : (typeText graph owner member slot kind).Succeeds) :
    (typeText graph owner member slot kind).log =
      kind.memberDemands member ++ kind.demands graph slot := by
  have hfault : ∀ step ∈ kind.steps slot, step.fault? owner = none := by
    intro step hstep
    cases step with
    | part field =>
        exact succeeds_typeText.mp h field (FieldKind.part_mem_steps_iff.mp hstep)
    | underlying id kind => rfl
  have houtcomes : (kind.outcomes graph owner slot).filterMap Except.toOption =
      kind.demands graph slot := by
    rw [FieldKind.outcomes, List.filterMap_flatMap, FieldKind.demands]
    apply List.flatMap_congr
    intro step hstep
    rw [TypeStep.outcomes_of_fault?_eq_none (hfault step hstep), Logged.filterMap_toOption_ok]
  rw [typeText_eq] at h ⊢
  rw [Logged.log_replay h, List.filterMap_append, Logged.filterMap_toOption_ok, houtcomes]

/-- Bounds on the demands of a type and on the faults of its parts are bounds on writing it. -/
theorem within_typeText {Q : Demand → Prop} {E : GenerateError → Prop}
    (hmember : ∀ demand ∈ kind.memberDemands member, Q demand)
    (hdemands : ∀ demand ∈ kind.demands graph slot, Q demand)
    (hfault : ∀ part ∈ kind.nodes slot, ∀ fault ∈ part.fault? owner, E fault) :
    (typeText graph owner member slot kind).Within Q E := by
  have hok : ∀ demand, .ok demand ∈ kind.outcomes graph owner slot → Q demand := by
    intro demand hdemand
    obtain ⟨step, hstep, houtcome⟩ := List.mem_flatMap.mp hdemand
    apply hdemands
    refine List.mem_flatMap.mpr ⟨step, hstep, ?_⟩
    cases hnone : step.fault? owner with
    | some fault => simp [TypeStep.outcomes, hnone] at houtcome
    | none => simpa [TypeStep.outcomes, hnone] using houtcome
  have herror : ∀ fault, .error fault ∈ kind.outcomes graph owner slot → E fault := by
    intro fault hmem
    have hfaults : fault ∈ (kind.outcomes graph owner slot).filterMap Logged.failure? :=
      List.mem_filterMap.mpr ⟨.error fault, hmem, rfl⟩
    rw [FieldKind.filterMap_failure?_outcomes] at hfaults
    obtain ⟨part, hpart, hfound⟩ := List.mem_filterMap.mp hfaults
    exact hfault part hpart fault hfound
  rw [typeText_eq]
  apply Logged.Within.replay
  · intro demand hdemand
    rcases List.mem_append.mp hdemand with hdemand | hdemand
    · exact hmember demand (by simpa using hdemand)
    · exact hok demand hdemand
  · intro fault hmem
    rcases List.mem_append.mp hmem with hmem | hmem
    · simp at hmem
    · exact herror fault hmem

end

end HeaderSynth
