import HeaderSynth.Declaration.ObjectFiles
import HeaderSynth.Proofs.Declaration.TypeSteps

/-!
# What types and values refer to

In a graph without loose ties, writing a declaration never fails for want of an object, and
it demands only what the graph mentions: objects, and ids in the types of members.  This
module says so of type texts, signatures and default values, one lemma for each function.
-/

namespace HeaderSynth

/-- An object is unknown only if the graph mentions it and has no object for it. -/
def GenerateError.StaysIn (graph : Graph) : GenerateError → Prop
  | .unknownObject id => graph.object? id = none ∧ graph.Mentions id
  | _ => True

def Demand.StaysIn (graph : Graph) : Demand → Prop
  | .depend id _ => graph.Mentions id
  | _ => True

def Emission.StaysIn (graph : Graph) : Emission → Prop
  | .demand needed => needed.StaysIn graph
  | _ => True

/-- A declaration depends only on what the graph mentions. -/
abbrev Emit.StaysIn {α : Type} (graph : Graph) (emission : Emit α) : Prop :=
  Logged.Within (Emission.StaysIn graph) (GenerateError.StaysIn graph) emission

/-- A type depends only on what the graph mentions. -/
abbrev Demand.AllStayIn {α : Type} (graph : Graph)
    (computation : Logged Demand GenerateError α) : Prop :=
  Logged.Within (Demand.StaysIn graph) (GenerateError.StaysIn graph) computation

/-- The type of a member names only what the graph mentions. -/
def Field.StaysIn (graph : Graph) (field : Field) : Prop :=
  ∀ id ∈ field.kind.targets, graph.Mentions id

variable {graph : Graph}

theorem Graph.staysIn_of_get {id : ObjectId} (h : graph.Mentions id) (error : GenerateError)
    (herror : graph.get id = .error error) : error.StaysIn graph := by
  rw [Graph.get] at herror
  split at herror
  · cases herror
  · rename_i hnone
    cases herror
    exact ⟨hnone, h⟩

namespace Emit.StaysIn

theorem line (text : String) : (Emit.line text).StaysIn graph := .write trivial

theorem flush (text : String) : (Emit.flush text).StaysIn graph := .write trivial

theorem blank : Emit.blank.StaysIn graph := flush ""

theorem includeHeader (header : String) : (Emit.includeHeader header).StaysIn graph :=
  .write trivial

theorem diagnose (object member message : String) :
    (Emit.diagnose object member message).StaysIn graph :=
  .write trivial

theorem depend {id : ObjectId} (h : graph.Mentions id) (level : Level) :
    (Emit.depend id level).StaysIn graph :=
  .write h

theorem indented {body : Emit Unit} (h : body.StaysIn graph) :
    (Emit.indented body).StaysIn graph := by
  rw [Emit.indented]
  refine Logged.Within.bind (.write trivial) fun _ _ => ?_
  exact h.bind fun _ _ => .write trivial

theorem get {id : ObjectId} (h : graph.Mentions id) :
    Emit.StaysIn graph (Logged.ofExcept (graph.get id)) :=
  .ofExcept (Graph.staysIn_of_get h)

end Emit.StaysIn

open Emit.StaysIn

/-! ## Types -/

theorem FieldKind.targets_subset_of_mem_nodes {slot : Slot} {kind : FieldKind} {part : Field}
    (h : part ∈ kind.nodes slot) : part.kind.targets ⊆ kind.targets := by
  induction kind generalizing slot with
  | enum enumType inner underlying ih =>
      rcases List.mem_cons.mp h with rfl | h
      · exact List.Subset.refl _
      · exact List.Subset.trans (ih h) (List.subset_append_right ..)
  | array inner element ih =>
      rcases List.mem_cons.mp h with rfl | h
      · exact List.Subset.refl _
      · exact ih h
  | set inner element ih =>
      rcases List.mem_cons.mp h with rfl | h
      · exact List.Subset.refl _
      · exact ih h
  | map keySlot key valueSlot value ihKey ihValue =>
      rcases List.mem_cons.mp h with rfl | h
      · exact List.Subset.refl _
      · rcases List.mem_append.mp h with h | h
        · exact List.Subset.trans (ihKey h) (List.subset_append_left ..)
        · exact List.Subset.trans (ihValue h) (List.subset_append_right ..)
  | _ =>
      rw [List.mem_singleton.mp h]
      exact List.Subset.refl _

theorem Field.staysIn_of_fault? {owner : String} {part : Field} {fault : GenerateError}
    (h : fault ∈ part.fault? owner) : fault.StaysIn graph := by
  rw [fault?] at h
  split at h <;> cases h <;> trivial

theorem allStayIn_typeText {kind : FieldKind} (h : ∀ id ∈ kind.targets, graph.Mentions id)
    (owner : String) (member : Bool) (slot : Slot) :
    Demand.AllStayIn graph (typeText graph owner member slot kind) := by
  refine within_typeText ?_ ?_ fun part _ fault hfault => Field.staysIn_of_fault? hfault
  · intro demand hdemand
    obtain ⟨-, id, rfl, -⟩ := FieldKind.mem_memberDemands_iff.mp hdemand
    trivial
  · intro demand hdemand
    obtain ⟨part, hpart, hdemand | hdemand⟩ | ⟨id, type, -, rfl⟩ :=
      FieldKind.mem_demands_iff.mp hdemand
    · rcases FieldKind.cases_of_mem_fileDemands hdemand with ⟨id, hid, level, rfl⟩ | rfl
      · exact h id (FieldKind.targets_subset_of_mem_nodes hpart hid)
      · trivial
    · rcases Field.mem_ownMarks_iff.mp hdemand with ⟨id, rfl, -⟩ | ⟨id, rfl, -⟩ <;> trivial
    · trivial

theorem Field.StaysIn.typeText {field : Field} (h : field.StaysIn graph) (owner : String) :
    (field.typeText graph owner).StaysIn graph :=
  (allStayIn_typeText h owner false field.toSlot).mapLog fun _ hdemand => hdemand

theorem Field.StaysIn.memberTypeText {field : Field} (h : field.StaysIn graph) (owner : String) :
    (field.memberTypeText graph owner).StaysIn graph :=
  (allStayIn_typeText h owner true field.toSlot).mapLog fun _ hdemand => hdemand

/-! ## Annotations and signatures -/

theorem staysIn_collect {arguments : List Argument} {before : Arguments} {error : GenerateError}
    (h : (Arguments.collect arguments before).2 = .error error) : error.StaysIn graph := by
  induction arguments generalizing before with
  | nil => cases h
  | cons argument rest ih =>
      rw [Arguments.collect] at h
      split at h
      · exact ih h
      · rename_i fault hfault
        cases h
        rw [Arguments.add.eq_def] at hfault
        split at hfault
        · cases hfault
        · split at hfault
          · cases hfault
            trivial
          · cases hfault

theorem staysIn_annotationText (arguments : List Argument) :
    (annotationText arguments).StaysIn graph := by
  refine .ofExcept fun error herror => ?_
  rw [Arguments.textOf] at herror
  split at herror
  · cases herror
  · rename_i hcollect
    cases herror
    exact staysIn_collect (congrArg Prod.snd hcollect)

theorem staysIn_parameterText {param : Field} (h : param.StaysIn graph) (owner : String)
    (role : FileRole) (separator : String) (reserved : ReservedNames) :
    (parameterText graph owner role separator reserved param).StaysIn graph := by
  have hannotation : Emit.StaysIn graph <| parameterAnnotation role param := by
    cases role with
    | declaration => exact (staysIn_annotationText _).bind fun _ _ => .pure _
    | definition => exact .pure _
  exact hannotation.bind fun _ _ => (h.typeText owner).bind fun _ _ => .pure _

/-- The parameters of a method, and its result, stay in the graph. -/
def MethodInfo.StaysIn (graph : Graph) (method : MethodInfo) : Prop :=
  ∀ param ∈ method.params, param.StaysIn graph

namespace MethodInfo.StaysIn

variable {method : MethodInfo} (h : method.StaysIn graph)

include h

theorem returnParam {field : Field} (hfield : method.returnParam? = some field) :
    field.StaysIn graph :=
  h field (List.mem_of_find?_eq_some hfield)

theorem parameterTexts (owner : String) (role : FileRole) (separator : String)
    (reserved : ReservedNames) :
    (parameterTexts graph owner role separator reserved method).StaysIn graph := by
  refine .mapM fun param hparam => ?_
  have hmem : param ∈ method.params := (List.mem_filter.mp hparam).1
  exact staysIn_parameterText (h param hmem) owner role separator reserved

theorem parameterList (owner : String) (role : FileRole) (reserved : ReservedNames) :
    (parameterList graph owner role reserved method).StaysIn graph :=
  (h.parameterTexts owner role " " reserved).bind fun _ _ => .pure _

theorem returnType (owner : String) : (returnType graph owner method).StaysIn graph := by
  rw [HeaderSynth.returnType]
  split
  · rename_i field hfield
    exact (h.returnParam hfield).typeText owner
  · exact .pure _

end MethodInfo.StaysIn

/-! ## Default values -/

theorem staysIn_enumLiteral (owner member : String) (id : ObjectId) (value : Int) :
    (enumLiteral graph owner member id value).StaysIn graph := by
  rw [enumLiteral]
  split
  · exact .pure _
  · exact (diagnose _ _ _).bind fun _ _ => .pure _

theorem staysIn_zeroValue {field : Field} (h : field.StaysIn graph) (owner : String) :
    (zeroValue graph owner field).StaysIn graph := by
  have htype : Emit.StaysIn graph (do return (← field.typeText graph owner) ++ "()") :=
    (h.typeText owner).bind fun _ _ => .pure _
  rw [zeroValue]
  cases field.kind with
  | byte enumType =>
      cases enumType with
      | none => exact .pure _
      | some id => exact staysIn_enumLiteral ..
  | enum enumType slot underlying =>
      cases enumType with
      | none => exact .fail trivial
      | some id => exact staysIn_enumLiteral ..
  | struct structType =>
      cases structType with
      | none => exact .fail trivial
      | some id => exact .pure _
  | delegate signature multicast => exact htype
  | array slot inner => exact htype
  | set slot element => exact htype
  | map keySlot key valueSlot value => exact htype
  | unsupported className => exact .fail trivial
  | _ => exact .pure _

theorem staysIn_readMemory {α : Type} (result : Except OutOfBounds α) :
    (readMemory result).StaysIn graph := by
  refine .ofExcept fun error herror => ?_
  cases result with
  | ok value => cases herror
  | error failure =>
      cases herror
      trivial

theorem staysIn_fixedValue? (owner member ending : String) (value : Text.FloatValue) :
    (fixedValue? owner member ending value).StaysIn graph := by
  rw [fixedValue?]
  split
  · exact .pure _
  · exact (diagnose _ _ _).bind fun _ _ => .pure _

theorem staysIn_objectValue? (h : graph.IsTied) (owner member : String)
    (target : Option ObjectId) : (objectValue? graph owner member target).StaysIn graph := by
  cases target with
  | none => exact .pure _
  | some target =>
      rw [objectValue?]
      split
      · exact (diagnose _ _ _).bind fun _ _ => .pure _
      · rename_i object hobject
        dsimp only
        split
        -- A subobject needs its class, which is a tie of the object and not of the field.
        · rename_i type _ hkind
          have htied : object.IsTiedTo type := by simp [Object.IsTiedTo, hkind]
          have htype := h.mentions (Graph.mem_objects_of_object? hobject) htied
          exact (depend htype .full).bind fun _ _ => .pure _
        · have htarget : graph.Mentions target := .inl (by rw [hobject]; rfl)
          exact (depend htarget .full).bind fun _ _ => .pure _
        · exact (diagnose _ _ _).bind fun _ _ => .pure _

theorem staysIn_classValue? (owner member : String) (target : Option ObjectId) :
    (classValue? graph owner member target).StaysIn graph := by
  cases target with
  | none => exact .pure _
  | some target =>
      have hskipped : ∀ message : String, Emit.StaysIn graph (do
          Emit.diagnose owner member message
          return (none : Option String)) :=
        fun message => (diagnose owner member message).bind fun _ _ => .pure _
      rw [classValue?]
      cases hobject : graph.object? target with
      | none => exact hskipped _
      | some object =>
          have htarget : graph.Mentions target := .inl (by rw [hobject]; rfl)
          rw [Option.bind_some]
          cases object.classInfo? with
          | none => exact hskipped _
          | some info =>
              show Emit.StaysIn graph (if info.flags.contains ClassFlags.native then _ else _)
              split
              · exact (depend htarget .full).bind fun _ _ => .pure _
              · exact hskipped _

theorem staysIn_storedValue? (h : graph.IsTied) {field : Field} (hfield : field.StaysIn graph)
    (owner : String) (memory : Instance) :
    (storedValue? graph owner memory field).StaysIn graph := by
  have hsigned : ∀ width, Emit.StaysIn graph (do
      return some (toString (← readMemory (memory.readSigned field.offset.toNat width)))) :=
    fun width => (staysIn_readMemory _).bind fun _ _ => .pure _
  have hunsigned : ∀ width, Emit.StaysIn graph (do
      return some (toString (← readMemory (memory.readUnsigned field.offset.toNat width)))) :=
    fun width => (staysIn_readMemory _).bind fun _ _ => .pure _
  rw [Field.StaysIn] at hfield
  rw [storedValue?]
  dsimp only
  cases hkind : field.kind with
  | byte enumType =>
      cases enumType with
      | none => exact (staysIn_readMemory _).bind fun _ _ => .pure _
      | some id =>
          refine (staysIn_readMemory _).bind fun _ _ => ?_
          exact (staysIn_enumLiteral ..).bind fun _ _ => .pure _
  | enum enumType slot underlying =>
      cases enumType with
      | none => exact .fail trivial
      | some id =>
          have hid := hfield id (by simp [hkind, FieldKind.targets])
          refine (depend hid .full).bind fun _ _ => (staysIn_readMemory _).bind fun _ _ => ?_
          exact (staysIn_enumLiteral ..).bind fun _ _ => .pure _
  | bool byteOffset mask => exact (staysIn_readMemory _).bind fun _ _ => .pure _
  | int8 => exact hsigned 1
  | int16 => exact hsigned 2
  | int32 => exact hsigned 4
  | int64 => exact hsigned 8
  | uint16 => exact hunsigned 2
  | uint32 => exact hunsigned 4
  | uint64 => exact hunsigned 8
  | float => exact (staysIn_readMemory _).bind fun _ _ => staysIn_fixedValue? ..
  | double => exact (staysIn_readMemory _).bind fun _ _ => staysIn_fixedValue? ..
  | object reference target =>
      cases reference with
      | raw => exact staysIn_objectValue? h ..
      | ptr => exact staysIn_objectValue? h ..
      | _ => exact .pure _
  | classRef reference metaClass =>
      cases reference with
      | raw => exact staysIn_classValue? ..
      | ptr => exact staysIn_classValue? ..
      | soft => exact .pure _
  | unsupported className => exact .fail trivial
  | _ => exact .pure _

theorem staysIn_lines (texts : List String) : (texts.forM Emit.line).StaysIn graph :=
  .forM fun text _ => line text

theorem staysIn_restoreField (h : graph.IsTied) {field : Field} (hfield : field.StaysIn graph)
    (owner : String) (memory : Instance) :
    (restoreField graph owner memory field).StaysIn graph := by
  have hreserve : ∀ method, (reserve method memory field).StaysIn graph := by
    intro method
    rw [reserve]
    split
    · exact .pure _
    · exact line _
  rw [restoreField]
  split
  · exact hreserve _
  · exact hreserve _
  · exact hreserve _
  · refine (staysIn_storedValue? h hfield owner memory).bind fun value _ => ?_
    cases value with
    | none => exact .pure _
    | some text => exact staysIn_lines _

end HeaderSynth
