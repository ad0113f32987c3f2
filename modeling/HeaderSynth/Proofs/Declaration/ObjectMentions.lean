import HeaderSynth.Proofs.Declaration.TypeMentions
import HeaderSynth.Proofs.Outcome

/-!
# What declarations refer to

The members of an object are written from type texts, signatures and default values, and its
payload adds ids that tie it to other objects.  So in a graph without loose ties everything
that is written for an object refers to what the graph mentions.
-/

namespace HeaderSynth

open Emit.StaysIn

variable {graph : Graph}

/-! ## Members -/

theorem staysIn_writeSections {sections : List Section}
    (h : ∀ part ∈ sections, part.body.StaysIn graph) (current : Option AccessLevel) :
    (writeSections current sections).StaysIn graph := by
  induction sections generalizing current with
  | nil => exact .pure _
  | cons part rest ih =>
      obtain ⟨level, body⟩ := part
      have hbody : body.StaysIn graph := h ⟨level, body⟩ List.mem_cons_self
      have hrest := ih fun other hother => h other (List.mem_cons_of_mem _ hother)
      cases level with
      | none => exact hbody.bind fun _ _ => hrest current
      | some level =>
          have hlevel : (enterLevel current level).StaysIn graph := by
            rw [enterLevel]
            split
            · exact flush _
            · exact .pure _
          exact hlevel.bind fun _ _ => hbody.bind fun _ _ => hrest _

theorem staysIn_memberSection {body : Emit Unit} (h : body.StaysIn graph)
    (owner member : String) (level : Option AccessLevel) :
    (memberSection owner member level body).body.StaysIn graph := by
  cases level with
  | none => exact (diagnose _ _ _).bind fun _ _ => h
  | some level => exact h

theorem staysIn_fieldSection {field : Field} (h : field.StaysIn graph)
    (options : GeneratorOptions) (owner : String) :
    (fieldSection graph options owner field).body.StaysIn graph := by
  apply staysIn_memberSection
  rw [declareField]
  refine (staysIn_annotationText _).bind fun _ _ => (h.memberTypeText owner).bind fun _ _ => ?_
  exact (line _).bind fun _ _ => (line _).bind fun _ _ => blank

/-- The members of an object stay in the graph. -/
def Object.MembersStayIn (graph : Graph) (object : Object) : Prop :=
  ∀ member ∈ object.memberFields, member.StaysIn graph

theorem Object.membersStayIn_of_mem {object : Object} (h : object ∈ graph.objects) :
    object.MembersStayIn graph :=
  fun _ hmember _ hid => Graph.mentions_of_mem_memberFields h hmember hid

theorem Object.MembersStayIn.methodInfo {object : Object} (h : object.MembersStayIn graph)
    {method : MethodInfo} (hmethod : object.methodInfo? = some method) :
    method.StaysIn graph := by
  intro param hparam
  apply h
  rw [Object.methodInfo?] at hmethod
  split at hmethod
  · rename_i hkind
    cases hmethod
    simpa [Object.memberFields, hkind] using hparam
  · cases hmethod

theorem staysIn_methodOf (object : Object) : (methodOf object).StaysIn graph := by
  rw [methodOf]
  split
  · exact .pure _
  · exact .fail trivial

theorem methodInfo?_of_methodOf {object : Object} {method : MethodInfo}
    (h : (methodOf object).result = .ok method) : object.methodInfo? = some method := by
  rw [methodOf] at h
  split at h
  · rename_i hmethod
    cases h
    exact hmethod
  · cases h

theorem MethodInfo.StaysIn.zeroBody {method : MethodInfo} (h : method.StaysIn graph)
    (owner : String) : (zeroBody graph owner method).StaysIn graph := by
  rw [HeaderSynth.zeroBody]
  split
  · rename_i field hfield
    exact (staysIn_zeroValue (h.returnParam hfield) owner).bind fun _ _ => line _
  · exact .pure _

theorem MethodInfo.StaysIn.returnStatement {method : MethodInfo} (h : method.StaysIn graph)
    (owner : String) : (returnStatement graph owner method).StaysIn graph := by
  rw [HeaderSynth.returnStatement]
  split
  · rename_i field hfield
    exact (staysIn_zeroValue (h.returnParam hfield) owner).bind fun _ _ => .pure _
  · exact .pure _

theorem staysIn_declareMethod {object : Object} (h : object.MembersStayIn graph)
    (options : GeneratorOptions) (owner : String) (place : MethodPlace)
    (reserved : ReservedNames) :
    (declareMethod graph options owner place reserved object).StaysIn graph := by
  refine (staysIn_methodOf object).bind fun method hmethod => ?_
  have hmethod := h.methodInfo (methodInfo?_of_methodOf hmethod)
  have hending : (pureVirtualEnding graph owner place object method).StaysIn graph := by
    rw [pureVirtualEnding]
    split
    · exact (hmethod.returnStatement owner).bind fun _ _ => .pure _
    · exact .pure _
  refine (hmethod.returnType owner).bind fun _ _ => hending.bind fun _ _ => ?_
  refine (hmethod.parameterList owner .declaration reserved).bind fun _ _ => ?_
  refine (staysIn_annotationText _).bind fun _ _ => ?_
  exact (line _).bind fun _ _ => (line _).bind fun _ _ => blank

theorem staysIn_methodSection {object : Object} (h : object ∈ graph.objects)
    (options : GeneratorOptions) (owner : String) (place : MethodPlace)
    (reserved : ReservedNames) :
    (methodSection graph options owner place reserved object).body.StaysIn graph :=
  staysIn_memberSection
    (staysIn_declareMethod (Object.membersStayIn_of_mem h) options owner place reserved) ..

theorem staysIn_defineMethod {object : Object} (h : object ∈ graph.objects)
    (owner className : String) (reserved : ReservedNames) :
    (defineMethod graph owner className reserved object).StaysIn graph := by
  refine (staysIn_methodOf object).bind fun method hmethod => ?_
  have hmethod := (Object.membersStayIn_of_mem h).methodInfo (methodInfo?_of_methodOf hmethod)
  split
  · exact .pure _
  · rename_i stubs _
    have hvalidation : ∀ params name,
        (defineValidation className params name).StaysIn graph := by
      intro params name
      cases name with
      | none => exact .pure _
      | some name => exact (line _).bind fun _ _ => (indented (line _)).bind fun _ _ => line _
    refine (hmethod.parameterList owner .definition reserved).bind fun params _ => ?_
    refine (hmethod.returnType owner).bind fun _ _ => (line _).bind fun _ _ => ?_
    refine (indented (hmethod.zeroBody owner)).bind fun _ _ => (line _).bind fun _ _ => ?_
    exact (hvalidation params _).bind fun _ _ => blank

theorem Graph.mem_objects_of_mem_methods {ids : List ObjectId} {object : Object}
    (h : object ∈ graph.methods ids) : object ∈ graph.objects := by
  obtain ⟨id, -, hobject⟩ := List.mem_filterMap.mp (List.mem_filter.mp h).1
  exact Graph.mem_objects_of_object? hobject

/-! ## Delegates -/

theorem staysIn_delegateInfo (object : Object) :
    Emit.StaysIn graph (Logged.ofExcept (delegateInfo object)) := by
  refine .ofExcept fun error herror => ?_
  rw [delegateInfo] at herror
  split at herror
  · cases herror
    trivial
  · split at herror
    · cases herror
      trivial
    · split at herror
      · cases herror
        trivial
      · cases herror

theorem methodInfo?_of_delegateInfo {object : Object} {method : MethodInfo}
    (h : delegateInfo object = .ok method) : object.methodInfo? = some method := by
  rw [delegateInfo] at h
  split at h
  · cases h
  · rename_i hmethod
    split at h
    · cases h
    · split at h
      · cases h
      · cases h
        exact hmethod

theorem staysIn_declareDelegate {id : ObjectId} (h : (graph.object? id).isSome)
    (options : GeneratorOptions) (topLevel : Bool) :
    (declareDelegate graph options topLevel id).StaysIn graph := by
  refine (get (.inl h)).bind fun object hobject => ?_
  refine (staysIn_delegateInfo object).bind fun method hmethod => ?_
  have hmem := Graph.mem_objects_of_object? (Graph.get_eq_ok.mp hobject)
  have hmethod := (Object.membersStayIn_of_mem hmem).methodInfo
    (methodInfo?_of_delegateInfo hmethod)
  have hannotation : Emit.StaysIn graph <|
      delegateAnnotation graph options topLevel object method := by
    unfold delegateAnnotation
    split
    · exact (staysIn_annotationText _).bind fun _ _ => .pure _
    · exact .pure _
  have hresult : ∀ name, (resultTypes graph name method).StaysIn graph := by
    intro name
    rw [resultTypes]
    split
    · rename_i field hfield
      exact ((hmethod.returnParam hfield).typeText name).bind fun _ _ => .pure _
    · exact .pure _
  have harguments : ∀ name, (delegateArguments graph name method).StaysIn graph := by
    intro name
    refine (hmethod.parameterTexts name .declaration ", " .empty).bind fun _ _ => ?_
    exact (hresult name).bind fun _ _ => .pure _
  exact hannotation.bind fun _ _ => (harguments _).bind fun _ _ => line _

theorem staysIn_declareSignatures {ids : List ObjectId}
    (h : ∀ id ∈ ids, (graph.object? id).isSome) (options : GeneratorOptions) :
    (declareSignatures graph options ids).StaysIn graph := by
  induction ids with
  | nil => exact .pure _
  | cons id rest ih =>
      have hid := h id List.mem_cons_self
      have hrest := ih fun other hother => h other (List.mem_cons_of_mem id hother)
      refine (get (.inl hid)).bind fun object _ => ?_
      split
      · refine (staysIn_declareDelegate hid options false).bind fun _ _ => ?_
        exact hrest.bind fun _ _ => .pure _
      · exact hrest

theorem staysIn_declareNestedDelegates {ids : List ObjectId}
    (h : ∀ id ∈ ids, (graph.object? id).isSome) (options : GeneratorOptions) :
    (declareNestedDelegates graph options ids).StaysIn graph := by
  refine (staysIn_declareSignatures h options).bind fun count _ => ?_
  split
  · exact .pure _
  · exact blank

/-! ## Classes and interfaces -/

theorem staysIn_overrideSections (options : GeneratorOptions) (owner : String)
    (reserved : ReservedNames) (info : ClassInfo) :
    ∀ part ∈ overrideSections graph options owner reserved info, part.body.StaysIn graph := by
  intro part hpart
  rw [overrideSections] at hpart
  split at hpart
  · cases hpart
  · rcases List.mem_cons.mp hpart with rfl | hpart
    · exact blank.bind fun _ _ => line _
    · obtain ⟨object, hobject, rfl⟩ := List.mem_map.mp hpart
      obtain ⟨interface, -, hobject⟩ := List.mem_flatMap.mp hobject
      rw [Graph.missingMethods] at hobject
      split at hobject
      · cases hobject
      · have hmem := Graph.mem_objects_of_mem_methods (List.mem_filter.mp hobject).1
        exact staysIn_methodSection hmem options owner .override reserved

/-- The payload of a class refers to objects and to types that the graph mentions. -/
structure ClassInfo.StaysIn (graph : Graph) (info : ClassInfo) : Prop where
  superClass : ∀ id ∈ info.superClass, graph.Mentions id
  within : ∀ id ∈ info.within, graph.Mentions id
  interfaces : ∀ id ∈ info.interfaces, graph.Mentions id
  functions : ∀ id ∈ info.functions, (graph.object? id).isSome
  fields : ∀ field ∈ info.fields, field.StaysIn graph

theorem Graph.IsTied.classInfo (h : graph.IsTied) {object : Object}
    (hobject : object ∈ graph.objects) {info : ClassInfo}
    (hinfo : object.classInfo? = some info) : info.StaysIn graph := by
  have hkind : object.kind = .classType info ∨ object.kind = .interfaceType info := by
    rw [Object.classInfo?] at hinfo
    split at hinfo <;> simp_all
  have hties : ∀ id, info.superClass = some id ∨ info.within = some id ∨
      id ∈ info.interfaces ∨ id ∈ info.functions → (graph.object? id).isSome := by
    intro id hid
    apply h object hobject id
    rcases hkind with hkind | hkind
    · simpa [Object.IsTiedTo, hkind] using .inr hid
    · simpa [Object.IsTiedTo, hkind] using .inr hid
  have hmembers : object.memberFields = info.fields := by
    rcases hkind with hkind | hkind
    · rw [Object.memberFields, hkind]
    · rw [Object.memberFields, hkind]
  exact {
    superClass := fun id hid => .inl (hties id (.inl hid))
    within := fun id hid => .inl (hties id (.inr (.inl hid)))
    interfaces := fun id hid => .inl (hties id (.inr (.inr (.inl hid))))
    functions := fun id hid => hties id (.inr (.inr (.inr hid)))
    fields := fun field hfield =>
      Object.membersStayIn_of_mem hobject field (hmembers ▸ hfield) }

namespace ClassInfo.StaysIn

variable {info : ClassInfo} (h : info.StaysIn graph)

include h

theorem classArguments (options : GeneratorOptions) (id : ObjectId) (error : GenerateError)
    (herror : graph.classArguments options id info = .error error) : error.StaysIn graph := by
  rcases Outcome.bind_eq_error.mp herror with herror | ⟨arguments, -, herror⟩
  · rw [Graph.withinArguments] at herror
    split at herror
    · cases herror
    · rename_i within hwithin
      split at herror
      · cases herror
      · rcases Outcome.bind_eq_error.mp herror with herror | ⟨object, -, herror⟩
        · exact Graph.staysIn_of_get (h.within within hwithin) error herror
        · cases herror
  · cases herror

theorem dependSuper : (info.superClass.toList.forM (Emit.depend · .full)).StaysIn graph :=
  .forM fun id hid => depend (h.superClass id (Option.mem_toList.mp hid)) .full

theorem declareClass (options : GeneratorOptions) (module : String) (id : ObjectId)
    (object : Object) : (declareClass graph options module id object info).StaysIn graph := by
  refine Logged.Within.bind (.ofExcept (h.classArguments options id)) fun _ _ => ?_
  refine (staysIn_annotationText _).bind fun _ _ => h.dependSuper.bind fun _ _ => ?_
  refine Logged.Within.bind (.forM fun id hid => depend (h.interfaces id hid) .full)
    fun _ _ => ?_
  refine (line _).bind fun _ _ => (line _).bind fun _ _ => (indented ?_).bind fun _ _ => line _
  refine (line _).bind fun _ _ => staysIn_writeSections ?_ none
  have hconstructor : (declareConstructor (graph.className id) info).StaysIn graph := by
    refine (line _).bind fun _ _ => ?_
    split
    · exact .pure _
    · exact (line _).bind fun _ _ => blank
  -- In order: the nested delegates, the fields, the constructor, the methods and what the
  -- interfaces leave to be overridden.
  simp only [List.forall_mem_cons, List.forall_mem_append, List.forall_mem_map]
  refine ⟨⟨⟨⟨staysIn_declareNestedDelegates h.functions options, ?_⟩, hconstructor, ?_⟩, ?_⟩, ?_⟩
  · intro field hfield
    exact staysIn_fieldSection (h.fields field hfield) options object.name
  · simp
  · intro method hmethod
    exact staysIn_methodSection (Graph.mem_objects_of_mem_methods hmethod) options object.name
      .member _
  · exact staysIn_overrideSections options object.name _ info

theorem declareInterface (options : GeneratorOptions) (module : String) (id : ObjectId)
    (object : Object) :
    (declareInterface graph options module id object info).StaysIn graph := by
  rw [HeaderSynth.declareInterface]
  refine (staysIn_annotationText _).bind fun _ _ => ?_
  rcases hsuper : info.superClass with _ | parent
  on_goal 2 => refine (depend (h.superClass parent hsuper) .full).bind fun _ _ => ?_
  all_goals
    refine Logged.Within.bind (.pure _) fun bases _ => ?_
    refine (line _).bind fun _ _ => (line _).bind fun _ _ => ?_
    refine (indented (line _)).bind fun _ _ => (line _).bind fun _ _ => blank.bind fun _ _ => ?_
    refine (line _).bind fun _ _ => (indented ?_).bind fun _ _ => line _
    refine (line _).bind fun _ _ => staysIn_writeSections ?_ none
    simp only [List.forall_mem_cons, List.forall_mem_map]
    refine ⟨staysIn_declareNestedDelegates h.functions options, fun method hmethod => ?_⟩
    exact staysIn_methodSection (Graph.mem_objects_of_mem_methods hmethod) options object.name
      .contract _

theorem defineClass (hties : graph.IsTied) (id : ObjectId) (object : Object) :
    (defineClass graph id object info).StaysIn graph := by
  have hreplication : ∀ name, (defineReplication name info).StaysIn graph := by
    intro name
    rw [defineReplication]
    split
    · exact .pure _
    · refine (includeHeader _).bind fun _ _ => (line _).bind fun _ _ => ?_
      refine (indented ?_).bind fun _ _ => (line _).bind fun _ _ => blank
      refine (line _).bind fun _ _ => blank.bind fun _ _ => ?_
      exact .forM fun field _ => line _
  refine Logged.Within.bind (.forM fun method hmethod => ?_) fun _ _ => ?_
  · exact staysIn_defineMethod (Graph.mem_objects_of_mem_methods hmethod) object.name _ _
  refine (hreplication _).bind fun _ _ => (line _).bind fun _ _ => ?_
  refine (indented ?_).bind fun _ _ => line _
  split
  · rename_i memory _
    exact .forM fun field hfield =>
      staysIn_restoreField hties (h.fields field hfield) object.name memory
  · exact line _

end ClassInfo.StaysIn

/-! ## Aggregates and enumerations -/

/-- The payload of an aggregate refers to types that the graph mentions. -/
structure StructInfo.StaysIn (graph : Graph) (info : StructInfo) : Prop where
  superStruct : ∀ id ∈ info.superStruct, graph.Mentions id
  fields : ∀ field ∈ info.fields, field.StaysIn graph

theorem Graph.IsTied.structInfo (h : graph.IsTied) {object : Object}
    (hobject : object ∈ graph.objects) {info : StructInfo}
    (hkind : object.kind = .structType info) : info.StaysIn graph where
  superStruct id hid := by
    apply h.mentions hobject
    simpa [Object.IsTiedTo, hkind] using .inr hid
  fields field hfield := by
    apply Object.membersStayIn_of_mem hobject
    simpa [Object.memberFields, hkind] using hfield

namespace StructInfo.StaysIn

variable {info : StructInfo} (h : info.StaysIn graph)

include h

theorem declareStruct (options : GeneratorOptions) (module : String) (usage : TypeUsage)
    (id : ObjectId) (object : Object) :
    (declareStruct graph options module usage id object info).StaysIn graph := by
  rw [HeaderSynth.declareStruct]
  refine (staysIn_annotationText _).bind fun _ _ => ?_
  rcases hsuper : info.superStruct with _ | parent
  on_goal 2 => refine (depend (h.superStruct parent hsuper) .full).bind fun _ _ => ?_
  all_goals
    refine Logged.Within.bind (.pure _) fun base _ => ?_
    refine (line _).bind fun _ _ => (line _).bind fun _ _ => (indented ?_).bind fun _ _ => line _
    refine (line _).bind fun _ _ => staysIn_writeSections ?_ none
    simp only [List.forall_mem_cons, List.forall_mem_append, List.forall_mem_map]
    refine ⟨⟨.pure _, fun field hfield => ?_⟩, line _, by simp⟩
    exact staysIn_fieldSection (h.fields field hfield) options object.name

theorem defineStruct (hties : graph.IsTied) (id : ObjectId) (object : Object) :
    (defineStruct graph id object info).StaysIn graph := by
  refine (line _).bind fun _ _ => (indented ?_).bind fun _ _ => line _
  split
  · rename_i memory _
    exact .forM fun field hfield =>
      staysIn_restoreField hties (h.fields field hfield) object.name memory
  · exact .pure _

end StructInfo.StaysIn

theorem staysIn_declareEnum (options : GeneratorOptions) (usage : TypeUsage) (id : ObjectId)
    (object : Object) (info : EnumInfo) :
    (declareEnum options usage id object info).StaysIn graph := by
  have hentries : Emit.StaysIn graph (do
      Emit.indented ((entryLines object.name 0 info.entries).forM Emit.line)
      Emit.line "\x7d;") :=
    (indented (staysIn_lines _)).bind fun _ _ => line _
  refine (staysIn_annotationText _).bind fun _ _ => (line _).bind fun _ _ => ?_
  split
  · refine (line _).bind fun _ _ => (indented ?_).bind fun _ _ => line _
    exact (line _).bind fun _ _ => hentries
  · exact (line _).bind fun _ _ => hentries
  · exact (line _).bind fun _ _ => hentries

/-! ## Objects -/

/-- What is written for an object in a graph without loose ties. -/
theorem Object.staysIn_writing (h : graph.IsTied) {id : ObjectId} {object : Object}
    (hobject : graph.object? id = some object) (options : GeneratorOptions) (module : String)
    (usage : TypeUsage) :
    Outcome.Meets (GenerateError.StaysIn graph)
      (fun writing => writing.declare.StaysIn graph ∧
        ∀ emission ∈ writing.define, emission.StaysIn graph)
      (object.writing graph options module usage id) := by
  have hmem := Graph.mem_objects_of_object? hobject
  rw [Object.writing]
  cases hkind : object.kind with
  | classType info =>
      have hclass : object.classInfo? = some info := by rw [Object.classInfo?, hkind]
      have hinfo := h.classInfo hmem hclass
      refine ⟨hinfo.declareClass options module id object, ?_⟩
      rintro _ ⟨⟩
      exact hinfo.defineClass h id object
  | interfaceType info =>
      have hclass : object.classInfo? = some info := by rw [Object.classInfo?, hkind]
      have hinfo := h.classInfo hmem hclass
      exact ⟨hinfo.declareInterface options module id object, by simp⟩
  | structType info =>
      have hinfo := h.structInfo hmem hkind
      refine ⟨hinfo.declareStruct options module usage id object, ?_⟩
      rintro _ ⟨⟩
      exact hinfo.defineStruct h id object
  | enumType info => exact ⟨staysIn_declareEnum options usage id object info, by simp⟩
  | function info =>
      have hsome : (graph.object? id).isSome := by rw [hobject]; rfl
      dsimp only
      split_ifs
      · exact ⟨staysIn_declareDelegate hsome options true, by simp⟩
      · trivial
      · trivial
      · trivial
  | instanceOf type => trivial

end HeaderSynth
