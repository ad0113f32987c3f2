import HeaderSynth.Proofs.Declaration.ObjectMentions
import HeaderSynth.Proofs.Declaration.TypeUses

/-!
# The types that declarations use

A declaration writes the types of its members and those of the parameters and results of its
functions, each of them at least once.  So it can only succeed if all of them can be written,
and then the marks that it leaves behind are exactly theirs.  There is one lemma for each
function that writes a declaration, and one for the declaration of an object as a whole.
-/

namespace HeaderSynth

open Logged (Exactly)

/-! ## Computations that use types -/

def Emission.IsMark : Emission → Prop
  | .demand needed => needed.IsMark
  | _ => False

/-- A mark that one of the types leaves behind. -/
def Emission.IsMarkOf (uses : List TypeUse) : Emission → Prop
  | .demand needed => ∃ use ∈ uses, use.Marks needed
  | _ => False

/-- A computation that leaves only marks of `uses` behind, and that fails only as `E` says. -/
abbrev Emit.Repeats {α : Type} (uses : List TypeUse) (E : GenerateError → Prop)
    (emission : Emit α) : Prop :=
  emission.Within (fun entry => entry.IsMark → entry.IsMarkOf uses) E

/-- A computation that leaves no marks behind. -/
abbrev Emit.Quiet {α : Type} (emission : Emit α) : Prop :=
  emission.Repeats [] fun _ => True

/-- A computation that writes the types of `uses`, perhaps more than once, and no others. -/
structure Emit.Uses {α : Type} (uses : List TypeUse) (emission : Emit α) : Prop where
  writable : emission.Requires (∀ use ∈ uses, use.field.kind.IsWritable)
  marks : emission.Exactly Emission.IsMark (Emission.IsMarkOf uses)

namespace Emit.Repeats

variable {uses : List TypeUse} {E : GenerateError → Prop}

theorem line (text : String) : (Emit.line text).Repeats uses E := .write False.elim

theorem flush (text : String) : (Emit.flush text).Repeats uses E := .write False.elim

theorem blank : Emit.blank.Repeats uses E := flush ""

theorem depend (id : ObjectId) (level : Level) : (Emit.depend id level).Repeats uses E :=
  .write False.elim

theorem includeHeader (header : String) : (Emit.includeHeader header).Repeats uses E :=
  .write False.elim

theorem diagnose (object member message : String) :
    (Emit.diagnose object member message).Repeats uses E :=
  .write False.elim

theorem lines (texts : List String) : (texts.forM Emit.line).Repeats uses E :=
  .forM fun text _ => line text

theorem indented {body : Emit Unit} (h : body.Repeats uses E) :
    (Emit.indented body).Repeats uses E :=
  Logged.Within.bind (.write False.elim) fun _ _ => h.bind fun _ _ => .write False.elim

end Emit.Repeats

theorem Emit.Quiet.ofExcept {α : Type} (result : Except GenerateError α) :
    Emit.Quiet (Logged.ofExcept result) :=
  Logged.Within.ofExcept fun _ _ => trivial

open Emit.Repeats (line flush blank depend includeHeader diagnose lines indented)
open Emit.Quiet (ofExcept)

namespace Emit.Uses

variable {α β : Type} {uses later : List TypeUse}

theorem congr {emission : Emit α} (h : emission.Uses uses)
    (hsame : ∀ use, use ∈ uses ↔ use ∈ later) : emission.Uses later where
  writable hsucceeds use huse := h.writable hsucceeds use ((hsame use).mpr huse)
  marks := by
    apply h.marks.congr
    intro entry _
    cases entry with
    | demand demand => simp only [Emission.IsMarkOf, hsame]
    | _ => rfl

theorem of_quiet {emission : Emit α} (h : emission.Quiet) : emission.Uses [] where
  writable _ _ huse := by cases huse
  marks := by
    intro value _ entry hentry
    have hnone : ¬entry.IsMarkOf [] := by
      cases entry <;> simp [Emission.IsMarkOf]
    exact iff_of_false (fun hmem => hnone (h.log entry hmem hentry)) hnone

theorem pure (value : α) : Uses [] (Pure.pure value : Emit α) := of_quiet (.pure value)

theorem bind {first : Emit α} {next : α → Emit β} (h : first.Uses uses)
    (hnext : ∀ value, first.result = .ok value → (next value).Uses later) :
    (first >>= next).Uses (uses ++ later) where
  writable := by
    rintro ⟨value, hvalue⟩ use huse
    obtain ⟨middle, hfirst, hrest⟩ := Logged.result_bind_eq_ok.mp hvalue
    rcases List.mem_append.mp huse with huse | huse
    · exact h.writable ⟨middle, hfirst⟩ use huse
    · exact (hnext middle hfirst).writable ⟨value, hrest⟩ use huse
  marks := by
    apply (h.marks.bind fun value hvalue => (hnext value hvalue).marks).congr
    intro entry _
    cases entry with
    | demand demand => simp [Emission.IsMarkOf, or_and_right, exists_or]
    | _ => simp [Emission.IsMarkOf]

theorem quiet_bind {first : Emit α} {next : α → Emit β} (h : first.Quiet)
    (hnext : ∀ value, first.result = .ok value → (next value).Uses uses) :
    (first >>= next).Uses uses :=
  (of_quiet h).bind hnext

theorem bind_quiet {first : Emit α} {next : α → Emit β} (h : first.Uses uses)
    (hnext : ∀ value, (next value).Quiet) : (first >>= next).Uses uses := by
  have hboth := h.bind fun value _ => of_quiet (hnext value)
  rwa [List.append_nil] at hboth

theorem indented {body : Emit Unit} (h : body.Uses uses) : (Emit.indented body).Uses uses :=
  quiet_bind (.write False.elim) fun _ _ => h.bind_quiet fun _ => .write False.elim

theorem mapM {f : α → Emit β} {usesOf : α → List TypeUse} (h : ∀ item, (f item).Uses (usesOf item))
    (items : List α) : (items.mapM f).Uses (items.flatMap usesOf) := by
  induction items with
  | nil => exact pure []
  | cons item rest ih =>
      rw [List.mapM_cons]
      exact (h item).bind fun _ _ => ih.bind_quiet fun _ => .pure _

theorem ofDemands {computation : Logged Demand GenerateError α} {use : TypeUse}
    (hwritable : computation.Requires use.field.kind.IsWritable)
    (hmarks : computation.Exactly Demand.IsMark use.Marks) :
    (Emit.ofDemands computation).Uses [use] where
  writable hsucceeds other hother := by
    rw [List.mem_singleton.mp hother]
    exact hwritable hsucceeds
  marks := by
    intro value hvalue entry hentry
    cases entry with
    | demand demand =>
        have hmem : Emission.demand demand ∈ (Emit.ofDemands computation).log ↔
            demand ∈ computation.log := by
          simp [Emit.ofDemands, Logged.mapLog]
        rw [hmem, hmarks value hvalue demand hentry]
        simp [Emission.IsMarkOf]
    | _ => exact hentry.elim

/-- What succeeds in writing types leaves only their marks behind. -/
theorem repeats {emission : Emit α} {E : GenerateError → Prop} (h : emission.Uses uses)
    (hsucceeds : emission.Succeeds) (hsubset : uses ⊆ later) : emission.Repeats later E := by
  obtain ⟨value, hvalue⟩ := hsucceeds
  constructor
  · intro entry hmem hentry
    have hmark := (h.marks value hvalue entry hentry).mp hmem
    cases entry with
    | demand demand =>
        obtain ⟨use, huse, hmarks⟩ := hmark
        exact ⟨use, hsubset huse, hmarks⟩
    | _ => exact hmark
  · intro error herror
    rw [hvalue] at herror
    cases herror

end Emit.Uses

open Emit.Uses (quiet_bind)

/-! ## Types, signatures and zero values -/

variable {graph : Graph} {options : GeneratorOptions}

/-- A type that is not that of a direct member. -/
def Field.use (field : Field) : TypeUse := ⟨false, field⟩

/-- The type of a direct member. -/
def Field.memberUse (field : Field) : TypeUse := ⟨true, field⟩

theorem uses_typeText (owner : String) (field : Field) :
    (field.typeText graph owner).Uses [field.use] :=
  .ofDemands (succeeds_typeText_iff owner false field.toSlot field.kind).mp
    (exactly_typeText owner false field.toSlot field.kind)

theorem uses_memberTypeText (owner : String) (field : Field) :
    (field.memberTypeText graph owner).Uses [field.memberUse] :=
  .ofDemands (succeeds_typeText_iff owner true field.toSlot field.kind).mp
    (exactly_typeText owner true field.toSlot field.kind)

/-- The parameters of a method and the slot of its result. -/
def MethodInfo.slots (method : MethodInfo) : List Field :=
  method.parameters ++ method.returnParam?.toList

theorem uses_parameterText (owner : String) (role : FileRole) (separator : String)
    (reserved : ReservedNames) (param : Field) :
    (parameterText graph owner role separator reserved param).Uses [param.use] := by
  have hannotation : Emit.Quiet <| parameterAnnotation role param := by
    cases role with
    | declaration => exact (ofExcept _).bind fun _ _ => .pure _
    | definition => exact .pure _
  apply quiet_bind hannotation
  intro _ _
  exact (uses_typeText owner param).bind_quiet fun _ => .pure _

theorem uses_parameterTexts (owner : String) (role : FileRole) (separator : String)
    (reserved : ReservedNames) (method : MethodInfo) :
    (parameterTexts graph owner role separator reserved method).Uses
      (method.parameters.map Field.use) := by
  rw [List.map_eq_flatMap]
  exact .mapM (uses_parameterText owner role separator reserved) method.parameters

theorem uses_parameterList (owner : String) (role : FileRole) (reserved : ReservedNames)
    (method : MethodInfo) :
    (parameterList graph owner role reserved method).Uses (method.parameters.map Field.use) :=
  (uses_parameterTexts owner role " " reserved method).bind_quiet fun _ => .pure _

theorem uses_returnType (owner : String) (method : MethodInfo) :
    (returnType graph owner method).Uses (method.returnParam?.toList.map Field.use) := by
  rw [returnType]
  split
  · rename_i field hfield
    rw [hfield]
    exact uses_typeText owner field
  · rename_i hnone
    rw [hnone]
    exact .pure _

theorem repeats_enumLiteral {uses : List TypeUse} {E : GenerateError → Prop}
    (owner member : String) (id : ObjectId) (value : Int) :
    (enumLiteral graph owner member id value).Repeats uses E := by
  rw [enumLiteral]
  split
  · exact .pure _
  · exact (diagnose _ _ _).bind fun _ _ => .pure _

/-- The zero value of a composite type repeats the type; others use none. -/
theorem exists_uses_zeroValue (graph : Graph) (owner : String) (field : Field) :
    ∃ uses ⊆ [field.use], (zeroValue graph owner field).Uses uses := by
  have htype : Emit.Uses [field.use] (do return (← field.typeText graph owner) ++ "()") :=
    (uses_typeText owner field).bind_quiet fun _ => .pure _
  have hquiet : ∀ {emission : Emit String}, emission.Quiet →
      ∃ uses ⊆ [field.use], emission.Uses uses :=
    fun h => ⟨[], List.nil_subset _, .of_quiet h⟩
  rw [zeroValue]
  cases field.kind with
  | byte enumType =>
      cases enumType with
      | none => exact hquiet (.pure _)
      | some id => exact hquiet (repeats_enumLiteral ..)
  | enum enumType slot underlying =>
      cases enumType with
      | none => exact hquiet (.fail trivial)
      | some id => exact hquiet (repeats_enumLiteral ..)
  | struct structType =>
      cases structType with
      | none => exact hquiet (.fail trivial)
      | some id => exact hquiet (.pure _)
  | delegate signature multicast => exact ⟨_, List.Subset.refl _, htype⟩
  | array slot inner => exact ⟨_, List.Subset.refl _, htype⟩
  | set slot element => exact ⟨_, List.Subset.refl _, htype⟩
  | map keySlot key valueSlot value => exact ⟨_, List.Subset.refl _, htype⟩
  | unsupported className => exact hquiet (.fail trivial)
  | _ => exact hquiet (.pure _)

/-! ## Members -/

/-- Each section uses the types that stand at its place. -/
def SectionsUse : List Section → List (List TypeUse) → Prop :=
  List.Forall₂ fun part uses => part.body.Uses uses

theorem SectionsUse.cons {part : Section} {uses : List TypeUse} {sections : List Section}
    {usesOf : List (List TypeUse)} (hpart : part.body.Uses uses) (h : SectionsUse sections usesOf) :
    SectionsUse (part :: sections) (uses :: usesOf) :=
  List.Forall₂.cons hpart h

theorem SectionsUse.append {first second : List Section}
    {firstUses secondUses : List (List TypeUse)} (hfirst : SectionsUse first firstUses)
    (hsecond : SectionsUse second secondUses) :
    SectionsUse (first ++ second) (firstUses ++ secondUses) :=
  List.rel_append hfirst hsecond

theorem sectionsUse_map {α : Type} {sectionOf : α → Section} {usesOf : α → List TypeUse}
    (h : ∀ item, (sectionOf item).body.Uses (usesOf item)) (items : List α) :
    SectionsUse (items.map sectionOf) (items.map usesOf) := by
  rw [SectionsUse, List.forall₂_map_left_iff, List.forall₂_map_right_iff, List.forall₂_same]
  exact fun item _ => h item

/-- Sections one after the other use the types of each of them. -/
theorem uses_writeSections {sections : List Section} {usesOf : List (List TypeUse)}
    (h : SectionsUse sections usesOf) (current : Option AccessLevel) :
    (writeSections current sections).Uses usesOf.flatten := by
  induction h generalizing current with
  | nil => exact .pure _
  | @cons part uses rest others hpart _ ih =>
      obtain ⟨level, body⟩ := part
      rw [List.flatten_cons]
      cases level with
      | none => exact hpart.bind fun _ _ => ih current
      | some level =>
          have hlevel : (enterLevel current level).Quiet := by
            rw [enterLevel]
            split
            · exact flush _
            · exact .pure _
          exact quiet_bind hlevel fun _ _ => hpart.bind fun _ _ => ih _

theorem uses_publicSection {body : Emit Unit} {uses : List TypeUse} (h : body.Uses uses) :
    (publicSection body).body.Uses uses := h

theorem uses_memberSection {body : Emit Unit} {uses : List TypeUse} (h : body.Uses uses)
    (owner member : String) (level : Option AccessLevel) :
    (memberSection owner member level body).body.Uses uses := by
  cases level with
  | none => exact quiet_bind (diagnose _ _ _) fun _ _ => h
  | some level => exact h

theorem uses_fieldSection (owner : String) (field : Field) :
    (fieldSection graph options owner field).body.Uses [field.memberUse] := by
  apply uses_memberSection
  apply quiet_bind (ofExcept _)
  intro annotations _
  apply (uses_memberTypeText owner field).bind_quiet
  intro type
  exact (line _).bind fun _ _ => (line _).bind fun _ _ => blank

theorem exists_uses_pureVirtualEnding (graph : Graph) (owner : String) (place : MethodPlace)
    (object : Object) (method : MethodInfo) :
    ∃ uses ⊆ method.returnParam?.toList.map Field.use,
      (pureVirtualEnding graph owner place object method).Uses uses := by
  have hstatement : ∃ uses ⊆ method.returnParam?.toList.map Field.use,
      (returnStatement graph owner method).Uses uses := by
    rw [returnStatement]
    split
    · rename_i field hfield
      obtain ⟨uses, hsubset, hvalue⟩ := exists_uses_zeroValue graph owner field
      rw [hfield]
      exact ⟨uses, hsubset, hvalue.bind_quiet fun _ => .pure _⟩
    · exact ⟨[], List.nil_subset _, .pure _⟩
  obtain ⟨uses, hsubset, hstatement⟩ := hstatement
  rw [pureVirtualEnding]
  split
  · exact ⟨uses, hsubset, hstatement.bind_quiet fun _ => .pure _⟩
  · exact ⟨[], List.nil_subset _, .pure _⟩

/-- The parameters and the result of a method or delegate. -/
def Object.slots (object : Object) : List Field :=
  (object.methodInfo?.map MethodInfo.slots).getD []

/-- The types in the signature of a method or delegate. -/
def Object.signatureUses (object : Object) : List TypeUse :=
  object.slots.map Field.use

theorem Object.signatureUses_of_methodInfo? {object : Object} {method : MethodInfo}
    (h : object.methodInfo? = some method) :
    object.signatureUses = method.parameters.map Field.use ++
      method.returnParam?.toList.map Field.use := by
  rw [signatureUses, slots, h, Option.map_some, Option.getD_some, MethodInfo.slots, List.map_append]

theorem uses_declareMethod (owner : String) (place : MethodPlace) (reserved : ReservedNames)
    (object : Object) :
    (declareMethod graph options owner place reserved object).Uses object.signatureUses := by
  have hmethodOf : (methodOf object).Quiet := by
    rw [methodOf]
    split
    · exact .pure _
    · exact .fail trivial
  apply quiet_bind hmethodOf
  intro method hmethod
  obtain ⟨uses, hsubset, hending⟩ :=
    exists_uses_pureVirtualEnding graph owner place object method
  -- What the ending of a pure virtual method repeats is there already.
  have hsame : ∀ use, use ∈ method.returnParam?.toList.map Field.use ++
      (uses ++ method.parameters.map Field.use) ↔ use ∈ object.signatureUses := by
    intro use
    have hrepeated := @hsubset use
    rw [Object.signatureUses_of_methodInfo? (methodInfo?_of_methodOf hmethod)]
    simp only [List.mem_append]
    tauto
  refine Emit.Uses.congr ?_ hsame
  apply (uses_returnType owner method).bind
  intro returned _
  apply hending.bind
  intro ending _
  apply (uses_parameterList owner .declaration reserved method).bind_quiet
  intro params
  exact (ofExcept _).bind fun _ _ => (line _).bind fun _ _ => (line _).bind fun _ _ => blank

theorem uses_methodSection (owner : String) (place : MethodPlace) (reserved : ReservedNames)
    (object : Object) :
    (methodSection graph options owner place reserved object).body.Uses object.signatureUses :=
  uses_memberSection (uses_declareMethod owner place reserved object) ..

/-! ## Delegates -/

theorem uses_declareDelegate {id : ObjectId} {object : Object}
    (h : graph.object? id = some object) (topLevel : Bool) :
    (declareDelegate graph options topLevel id).Uses object.signatureUses := by
  apply quiet_bind (ofExcept _)
  intro found hfound
  obtain rfl : found = object := Option.some.inj ((Graph.get_eq_ok.mp hfound).symm.trans h)
  apply quiet_bind (ofExcept _)
  intro method hmethod
  rw [Object.signatureUses_of_methodInfo? (methodInfo?_of_delegateInfo hmethod)]
  have hannotation : Emit.Quiet <|
      delegateAnnotation graph options topLevel found method := by
    unfold delegateAnnotation
    split
    · exact (ofExcept _).bind fun _ _ => .pure _
    · exact .pure _
  have hresult : ∀ name, (resultTypes graph name method).Uses
      (method.returnParam?.toList.map Field.use) := by
    intro name
    rw [resultTypes]
    split
    · rename_i field hfield
      rw [hfield]
      exact (uses_typeText name field).bind_quiet fun _ => .pure _
    · rename_i hnone
      rw [hnone]
      exact .pure _
  apply quiet_bind hannotation
  intro annotation _
  apply Emit.Uses.bind_quiet _ fun arguments => line _
  apply (uses_parameterTexts _ .declaration ", " .empty method).bind
  intro params _
  exact (hresult _).bind_quiet fun _ => .pure _

/-- The delegate signatures among the objects of `ids`. -/
def Graph.signatures (graph : Graph) (ids : List ObjectId) : List Object :=
  (ids.filterMap graph.object?).filter (·.isDelegateSignature)

theorem uses_declareSignatures (ids : List ObjectId) :
    (declareSignatures graph options ids).Uses
      ((graph.signatures ids).flatMap Object.signatureUses) := by
  induction ids with
  | nil => exact .pure _
  | cons id rest ih =>
      apply quiet_bind (ofExcept _)
      intro object hobject
      have hsome : graph.object? id = some object := Graph.get_eq_ok.mp hobject
      rw [Graph.signatures, List.filterMap_cons_some hsome]
      split
      · rename_i hsignature
        rw [List.filter_cons_of_pos hsignature, List.flatMap_cons]
        apply (uses_declareDelegate hsome false).bind
        intro _ _
        exact ih.bind_quiet fun _ => .pure _
      · rename_i hmethod
        rw [List.filter_cons_of_neg hmethod]
        exact ih

theorem uses_declareNestedDelegates (ids : List ObjectId) :
    (declareNestedDelegates graph options ids).Uses
      ((graph.signatures ids).flatMap Object.signatureUses) := by
  apply (uses_declareSignatures ids).bind_quiet
  intro count
  split
  · exact .pure _
  · exact blank

/-! ## Objects -/

/-- The fields that the declaration of an object writes. -/
def Object.declaredFields (object : Object) : List Field :=
  match object.kind with
  | .classType info => info.fields
  | .structType info => info.fields
  | _ => []

/-- The functions whose signatures the declaration of an object writes: methods and nested
delegates, the methods for which a class gets stubs, and a delegate itself. -/
def Graph.declaredFunctions (graph : Graph) (object : Object) : List Object :=
  match object.kind with
  | .classType info =>
    info.functions.filterMap graph.object? ++ info.interfaces.flatMap (graph.missingMethods info)
  | .interfaceType info => info.functions.filterMap graph.object?
  | .function _ => [object]
  | _ => []

/-- The types that the declaration of an object writes. -/
def Graph.typeUses (graph : Graph) (object : Object) : List TypeUse :=
  object.declaredFields.map Field.memberUse ++
    (graph.declaredFunctions object).flatMap Object.signatureUses

/-- Everything that is listed as a function is a delegate signature or a method. -/
theorem Graph.mem_functionUses (ids : List ObjectId) (use : TypeUse) :
    use ∈ (ids.filterMap graph.object?).flatMap Object.signatureUses ↔
      use ∈ (graph.signatures ids).flatMap Object.signatureUses ∨
        use ∈ (graph.methods ids).flatMap Object.signatureUses := by
  have hsplit : ∀ object, object ∈ ids.filterMap graph.object? ↔
      object ∈ graph.signatures ids ∨ object ∈ graph.methods ids := by
    intro object
    rw [signatures, methods, List.mem_filter, List.mem_filter]
    cases object.isDelegateSignature <;> simp
  simp only [List.mem_flatMap, hsplit, or_and_right, exists_or]

theorem exists_sectionsUse_overrideSections (graph : Graph) (options : GeneratorOptions)
    (owner : String) (reserved : ReservedNames) (info : ClassInfo) :
    ∃ usesOf, SectionsUse (overrideSections graph options owner reserved info) usesOf ∧
      usesOf.flatten =
        (info.interfaces.flatMap (graph.missingMethods info)).flatMap Object.signatureUses := by
  rw [overrideSections]
  split
  · rename_i hempty
    rw [List.isEmpty_iff.mp hempty]
    exact ⟨[], .nil, rfl⟩
  · have hcomment : Emit.Quiet (do
        Emit.blank
        Emit.line "// Fix for true pure virtual functions not being implemented") :=
      blank.bind fun _ _ => line _
    refine ⟨[] :: _, .cons (.of_quiet hcomment)
      (sectionsUse_map (uses_methodSection owner .override reserved) _), ?_⟩
    rw [List.flatten_cons, List.nil_append, ← List.flatMap_def]

theorem uses_declareClass (module : String) (id : ObjectId) {object : Object} {info : ClassInfo}
    (h : object.kind = .classType info) :
    (declareClass graph options module id object info).Uses (graph.typeUses object) := by
  have hconstructor : (declareConstructor (graph.className id) info).Quiet := by
    refine (line _).bind fun _ _ => ?_
    split
    · exact .pure _
    · exact (line _).bind fun _ _ => blank
  obtain ⟨overrides, hoverrides, hflatten⟩ := exists_sectionsUse_overrideSections graph options
    object.name (graph.reservedNames id true) info
  have hsame : ∀ use, use ∈ ((graph.signatures info.functions).flatMap Object.signatureUses ::
      info.fields.map (fun field : Field => [field.memberUse]) ++ [[]] ++
      (graph.methods info.functions).map Object.signatureUses ++ overrides).flatten ↔
        use ∈ graph.typeUses object := by
    intro use
    rw [Graph.typeUses, Object.declaredFields, Graph.declaredFunctions, h]
    simp only [List.flatten_append, List.flatten_cons, List.flatten_nil, List.append_nil, hflatten,
      ← List.flatMap_def, ← List.map_eq_flatMap, List.flatMap_append, List.mem_append,
      Graph.mem_functionUses]
    tauto
  refine Emit.Uses.congr ?_ hsame
  apply quiet_bind (ofExcept _)
  intro arguments _
  apply quiet_bind (ofExcept _)
  intro annotations _
  apply quiet_bind (.forM fun parent _ => depend parent .full)
  intro _ _
  apply quiet_bind (.forM fun interface _ => depend interface .full)
  intro _ _
  refine quiet_bind (line _) fun _ _ => quiet_bind (line _) fun _ _ => ?_
  refine Emit.Uses.bind_quiet (.indented ?_) fun _ => line _
  apply quiet_bind (line _)
  intro _ _
  apply uses_writeSections
  apply SectionsUse.append _ hoverrides
  apply SectionsUse.append _ (sectionsUse_map (uses_methodSection object.name .member _) _)
  apply SectionsUse.append _ (.cons (uses_publicSection (.of_quiet hconstructor)) .nil)
  exact .cons (uses_publicSection (uses_declareNestedDelegates info.functions))
    (sectionsUse_map (uses_fieldSection object.name) info.fields)

theorem uses_declareInterface (module : String) (id : ObjectId) {object : Object}
    {info : ClassInfo} (h : object.kind = .interfaceType info) :
    (declareInterface graph options module id object info).Uses (graph.typeUses object) := by
  have hsame : ∀ use, use ∈ ((graph.signatures info.functions).flatMap Object.signatureUses ::
      (graph.methods info.functions).map Object.signatureUses).flatten ↔
        use ∈ graph.typeUses object := by
    intro use
    rw [Graph.typeUses, Object.declaredFields, Graph.declaredFunctions, h]
    simp only [List.flatten_cons, ← List.flatMap_def, List.map_nil, List.nil_append,
      List.mem_append, Graph.mem_functionUses]
  refine Emit.Uses.congr ?_ hsame
  rw [declareInterface]
  apply quiet_bind (ofExcept _)
  intro annotations _
  rcases info.superClass with _ | parent
  on_goal 2 => refine quiet_bind (depend parent .full) fun _ _ => ?_
  all_goals
    refine quiet_bind (.pure _) fun bases _ => ?_
    refine quiet_bind (line _) fun _ _ => quiet_bind (line _) fun _ _ => ?_
    refine quiet_bind (indented (line _)) fun _ _ => quiet_bind (line _) fun _ _ => ?_
    refine quiet_bind blank fun _ _ => quiet_bind (line _) fun _ _ => ?_
    refine Emit.Uses.bind_quiet (.indented ?_) fun _ => line _
    refine quiet_bind (line _) fun _ _ => uses_writeSections ?_ none
    exact .cons (uses_publicSection (uses_declareNestedDelegates info.functions))
      (sectionsUse_map (uses_methodSection object.name .contract _) _)

theorem uses_declareStruct (module : String) (usage : TypeUsage) (id : ObjectId)
    {object : Object} {info : StructInfo} (h : object.kind = .structType info) :
    (declareStruct graph options module usage id object info).Uses (graph.typeUses object) := by
  have hsame : ∀ use, use ∈ ([] ::
      info.fields.map (fun field : Field => [field.memberUse]) ++ [[]]).flatten ↔
        use ∈ graph.typeUses object := by
    intro use
    rw [Graph.typeUses, Object.declaredFields, Graph.declaredFunctions, h]
    simp only [List.flatten_append, List.flatten_cons, List.flatten_nil, List.append_nil,
      ← List.flatMap_def, ← List.map_eq_flatMap, List.flatMap_nil, List.nil_append]
  refine Emit.Uses.congr ?_ hsame
  rw [declareStruct]
  apply quiet_bind (ofExcept _)
  intro annotations _
  rcases info.superStruct with _ | parent
  on_goal 2 => refine quiet_bind (depend parent .full) fun _ _ => ?_
  all_goals
    refine quiet_bind (.pure _) fun base _ => ?_
    refine quiet_bind (line _) fun _ _ => quiet_bind (line _) fun _ _ => ?_
    refine Emit.Uses.bind_quiet (.indented ?_) fun _ => line _
    refine quiet_bind (line _) fun _ _ => uses_writeSections ?_ none
    apply SectionsUse.append _ (.cons (uses_publicSection (.of_quiet (line _))) .nil)
    exact .cons (uses_publicSection (.pure _))
      (sectionsUse_map (uses_fieldSection object.name) info.fields)

theorem quiet_declareEnum (usage : TypeUsage) (id : ObjectId) (object : Object)
    (info : EnumInfo) : (declareEnum options usage id object info).Quiet := by
  have hentries : Emit.Quiet (do
      Emit.indented ((entryLines object.name 0 info.entries).forM Emit.line)
      Emit.line "\x7d;") :=
    (indented (lines _)).bind fun _ _ => line _
  refine (ofExcept _).bind fun _ _ => (line _).bind fun _ _ => ?_
  split
  · refine (line _).bind fun _ _ => (indented ?_).bind fun _ _ => line _
    exact (line _).bind fun _ _ => hentries
  · exact (line _).bind fun _ _ => hentries
  · exact (line _).bind fun _ _ => hentries

/-- The declaration of an object uses exactly the types of its members and functions. -/
theorem Object.uses_writing {module : String} {usage : TypeUsage} {id : ObjectId} {object : Object}
    {writing : Writing} (hobject : graph.object? id = some object)
    (h : object.writing graph options module usage id = .ok writing) :
    writing.declare.Uses (graph.typeUses object) := by
  rw [Object.writing] at h
  cases hkind : object.kind with
  | classType info =>
      rw [hkind] at h
      cases h
      exact uses_declareClass module id hkind
  | interfaceType info =>
      rw [hkind] at h
      cases h
      exact uses_declareInterface module id hkind
  | structType info =>
      rw [hkind] at h
      cases h
      exact uses_declareStruct module usage id hkind
  | enumType info =>
      rw [hkind] at h
      cases h
      rw [Graph.typeUses, Object.declaredFields, Graph.declaredFunctions, hkind]
      exact .of_quiet (quiet_declareEnum usage id object info)
  | function info =>
      rw [hkind] at h
      dsimp only at h
      split_ifs at h
      cases h
      have huses : graph.typeUses object = object.signatureUses := by
        simp [Graph.typeUses, Object.declaredFields, Graph.declaredFunctions, hkind]
      rw [huses]
      exact uses_declareDelegate hobject true
  | instanceOf type =>
      rw [hkind] at h
      cases h

end HeaderSynth
