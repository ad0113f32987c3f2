import HeaderSynth.Declaration.ClassType
import HeaderSynth.Proofs.Declaration.Signatures

/-!
# Declared methods of a class

A class declares its own methods, and a stub for each method of its interfaces that it does not
have itself.  The lines that declare methods are read back from the text of the class: they are
the lines behind the annotations of methods.  Every interface is looked at on its own, so a
method that several interfaces ask for gets several stubs.
-/

namespace HeaderSynth

open Emit (line blank)

/-! ## Reading declarations back -/

/-- Whether a line is the annotation of a method. -/
def isMethodMark (text : String) : Bool :=
  "UFUNCTION(".toList.isPrefixOf text.toList && text.toList.getLast? == some ')'

/-- The lines behind the annotations of methods.  `marked` tells whether an annotation has been
read whose method is still to come. -/
def methodLines : Bool → List Emission → List String
  | _, [] => []
  | true, .line text :: rest => text :: methodLines false rest
  | false, .line text :: rest => methodLines (isMethodMark text) rest
  | marked, _ :: rest => methodLines marked rest

theorem isMethodMark_ufunction (annotations : String) :
    isMethodMark s!"UFUNCTION({annotations})" = true := by
  have hlast : (('(' :: annotations.toList) ++ [')']).getLast? = some ')' := List.getLast?_concat
  rw [List.cons_append] at hlast
  simp [isMethodMark, toString, hlast]

theorem isMethodMark_append {ending : String} {last : Char}
    (h : ending.toList.getLast? = some last) (hlast : last ≠ ')') (text : String) :
    isMethodMark (text ++ ending) = false := by
  simp [isMethodMark, String.toList_append, List.getLast?_append, h, hlast]

/-- A line that is no annotation of a method. -/
def Emission.IsUnmarked : Emission → Prop
  | .line text => isMethodMark text = false
  | _ => True

/-- A computation that annotates no methods. -/
abbrev Emit.Unmarked {α : Type} (emission : Emit α) : Prop :=
  emission.Within Emission.IsUnmarked fun _ => True

theorem methodLines_append_of_unmarked {log : List Emission}
    (h : ∀ entry ∈ log, entry.IsUnmarked) (rest : List Emission) :
    methodLines false (log ++ rest) = methodLines false rest := by
  induction log with
  | nil => rfl
  | cons entry log ih =>
      have hrest := ih fun other hother => h other (List.mem_cons_of_mem entry hother)
      have hentry := h entry List.mem_cons_self
      cases entry with
      | line text =>
          rw [Emission.IsUnmarked] at hentry
          rw [List.cons_append, methodLines, hentry, hrest]
      | _ => exact hrest

namespace Emit.Unmarked

theorem line {text : String} (h : isMethodMark text = false) : (Emit.line text).Unmarked :=
  .write h

theorem flush (text : String) : (Emit.flush text).Unmarked := .write trivial

theorem blank : Emit.blank.Unmarked := flush ""

theorem depend (id : ObjectId) (level : Level) : (Emit.depend id level).Unmarked :=
  .write trivial

theorem diagnose (object member message : String) :
    (Emit.diagnose object member message).Unmarked := .write trivial

theorem ofExcept {α : Type} (result : Except GenerateError α) :
    Emit.Unmarked (Logged.ofExcept result) := Logged.Within.ofExcept fun _ _ => trivial

theorem of_silent {α : Type} {emission : Emit α} (h : emission.Silent) : emission.Unmarked where
  log entry hentry := by
    have hsilent := h.log entry hentry
    cases entry with
    | line text => cases hsilent
    | _ => trivial
  failure _ _ := trivial

end Emit.Unmarked

/-! ## Declarations -/

/-- A method with the place where it is declared. -/
structure Declaration where
  place : MethodPlace
  method : Object

/-- The line declares a method: the name of the method stands behind its result and before its
parameters, and a stub is an override that is pure virtual. -/
def Declaration.IsWritten (graph : Graph) (owner : String) (reserved : ReservedNames)
    (declaration : Declaration) (text : String) : Prop :=
  ∃ method returned params ending, declaration.method.methodInfo? = some method ∧
    (returnType graph owner method).result = .ok returned ∧
    (parameterList graph owner .declaration reserved method).result = .ok params ∧
    (declaration.place = .member → ending = "") ∧
    (declaration.place = .override → ∃ body : String,
      ending = s!" override PURE_VIRTUAL({declaration.method.name},{body})") ∧
    let modifier :=
      if method.flags.contains FunctionFlags.static then "static "
      else if isVirtual declaration.place method.flags then "virtual "
      else ""
    let const := if method.flags.contains FunctionFlags.const then " const" else ""
    text = s!"{modifier}{returned} {declaration.method.name}({params}){const}{ending};"

section

variable {α β : Type} {graph : Graph} {options : GeneratorOptions} {owner : String}
  {reserved : ReservedNames} {declared others : List Declaration}

/-- Whenever the computation succeeds, the methods that it declares are `declared`. -/
def Emit.Declares (graph : Graph) (owner : String) (reserved : ReservedNames)
    (declared : List Declaration) (emission : Emit α) : Prop :=
  ∀ value, emission.result = .ok value → ∃ lines,
    List.Forall₂ (Declaration.IsWritten graph owner reserved) declared lines ∧
    ∀ rest, methodLines false (emission.text ++ rest) = lines ++ methodLines false rest

namespace Emit.Declares

theorem of_unmarked {emission : Emit α} (h : emission.Unmarked) :
    emission.Declares graph owner reserved [] := by
  intro value _
  refine ⟨[], .nil, fun rest => ?_⟩
  apply methodLines_append_of_unmarked
  intro entry hentry
  exact h.log entry (List.mem_filter.mp hentry).1

theorem bind {first : Emit α} {next : α → Emit β} (h : first.Declares graph owner reserved declared)
    (hnext : ∀ value, first.result = .ok value →
      (next value).Declares graph owner reserved others) :
    (first >>= next).Declares graph owner reserved (declared ++ others) := by
  intro value hvalue
  obtain ⟨middle, hmiddle, hvalue⟩ := Logged.result_bind_eq_ok.mp hvalue
  obtain ⟨lines, hlines, hfirst⟩ := h middle hmiddle
  obtain ⟨more, hmore, hsecond⟩ := hnext middle hmiddle value hvalue
  refine ⟨lines ++ more, List.rel_append hlines hmore, fun rest => ?_⟩
  rw [Emit.text_bind hmiddle, List.append_assoc, hfirst, hsecond, List.append_assoc]

theorem unmarked_bind {first : Emit α} {next : α → Emit β} (h : first.Unmarked)
    (hnext : ∀ value, first.result = .ok value →
      (next value).Declares graph owner reserved declared) :
    (first >>= next).Declares graph owner reserved declared :=
  (of_unmarked h).bind hnext

theorem bind_unmarked {first : Emit α} {next : α → Emit β}
    (h : first.Declares graph owner reserved declared)
    (hnext : ∀ value, first.result = .ok value → (next value).Unmarked) :
    (first >>= next).Declares graph owner reserved declared := by
  rw [← List.append_nil declared]
  exact h.bind fun value hvalue => of_unmarked (hnext value hvalue)

theorem indented {body : Emit Unit} (h : body.Declares graph owner reserved declared) :
    (Emit.indented body).Declares graph owner reserved declared := by
  have hindent : Emit.Unmarked (Logged.write .indent) := .write trivial
  have houtdent : Emit.Unmarked (Logged.write .outdent) := .write trivial
  exact unmarked_bind hindent fun _ _ => h.bind_unmarked fun _ _ => houtdent

end Emit.Declares

/-- What stands behind the parameters of a declaration. -/
theorem ending_of_pureVirtualEnding {place : MethodPlace} {object : Object} {method : MethodInfo}
    {ending : String} (h : (pureVirtualEnding graph owner place object method).result = .ok ending) :
    (place = .member → ending = "") ∧
      (place = .override → ∃ body : String,
        ending = s!" override PURE_VIRTUAL({object.name},{body})") := by
  constructor
  · rintro rfl
    exact (Except.ok.inj h).symm
  · rintro rfl
    obtain ⟨body, -, hending⟩ := Logged.result_bind_eq_ok.mp h
    exact ⟨body, (Except.ok.inj hending).symm⟩

/-- A method is declared by the line behind its annotation. -/
theorem declares_declareMethod (place : MethodPlace) (object : Object) :
    (declareMethod graph options owner place reserved object).Declares graph owner reserved
      [⟨place, object⟩] := by
  intro value hvalue
  obtain ⟨method, returned, params, ending, annotations, hmethod, hreturned, hparams, hending,
    htext⟩ := exists_text_declareMethod ⟨value, hvalue⟩
  obtain ⟨hmember, hoverride⟩ := ending_of_pureVirtualEnding hending
  refine ⟨[_], .cons ⟨method, returned, params, ending, hmethod, hreturned, hparams, hmember,
    hoverride, rfl⟩ .nil, fun rest => ?_⟩
  rw [htext]
  simp only [List.cons_append, List.nil_append, methodLines, isMethodMark_ufunction]

/-! ## Sections -/

/-- Each section declares the methods that stand at its place. -/
def SectionsDeclare (graph : Graph) (owner : String) (reserved : ReservedNames) :
    List Section → List (List Declaration) → Prop :=
  List.Forall₂ fun part declared => part.body.Declares graph owner reserved declared

theorem SectionsDeclare.append {first second : List Section}
    {firstDeclared secondDeclared : List (List Declaration)}
    (hfirst : SectionsDeclare graph owner reserved first firstDeclared)
    (hsecond : SectionsDeclare graph owner reserved second secondDeclared) :
    SectionsDeclare graph owner reserved (first ++ second) (firstDeclared ++ secondDeclared) :=
  List.rel_append hfirst hsecond

theorem sectionsDeclare_map {ι : Type} {sectionOf : ι → Section}
    {declaredOf : ι → List Declaration}
    (h : ∀ item, (sectionOf item).body.Declares graph owner reserved (declaredOf item))
    (items : List ι) :
    SectionsDeclare graph owner reserved (items.map sectionOf) (items.map declaredOf) := by
  rw [SectionsDeclare, List.forall₂_map_left_iff, List.forall₂_map_right_iff, List.forall₂_same]
  exact fun item _ => h item

/-- Sections one after the other declare the methods of each of them. -/
theorem declares_writeSections {sections : List Section} {declaredOf : List (List Declaration)}
    (h : SectionsDeclare graph owner reserved sections declaredOf)
    (current : Option AccessLevel) :
    (writeSections current sections).Declares graph owner reserved declaredOf.flatten := by
  induction h generalizing current with
  | nil => exact .of_unmarked (.pure _)
  | @cons part declared rest others hpart _ ih =>
      obtain ⟨level, body⟩ := part
      rw [List.flatten_cons]
      cases level with
      | none => exact Emit.Declares.bind hpart fun _ _ => ih current
      | some level =>
          have hlevel : (enterLevel current level).Unmarked := by
            rw [enterLevel]
            split
            · exact .flush _
            · exact .pure _
          exact .unmarked_bind hlevel fun _ _ => Emit.Declares.bind hpart fun _ _ => ih _

theorem SectionsDeclare.cons_public {body : Emit Unit} {declared : List Declaration}
    {sections : List Section} {declaredOf : List (List Declaration)}
    (hbody : body.Declares graph owner reserved declared)
    (h : SectionsDeclare graph owner reserved sections declaredOf) :
    SectionsDeclare graph owner reserved (publicSection body :: sections)
      (declared :: declaredOf) :=
  List.Forall₂.cons hbody h

theorem declares_memberSection {body : Emit Unit} {declared : List Declaration}
    (h : body.Declares graph owner reserved declared) (name member : String)
    (level : Option AccessLevel) :
    (memberSection name member level body).body.Declares graph owner reserved declared := by
  cases level with
  | none => exact .unmarked_bind (.diagnose _ _ _) fun _ _ => h
  | some level => exact h

theorem declares_methodSection (place : MethodPlace) (object : Object) :
    (methodSection graph options owner place reserved object).body.Declares graph owner reserved
      [⟨place, object⟩] := by
  rw [methodSection]
  apply declares_memberSection
  exact declares_declareMethod place object

theorem unmarked_declareField (name : String) (field : Field) :
    (declareField graph options name field).Unmarked := by
  rw [declareField]
  apply (Emit.Unmarked.of_silent (silent_annotationText _)).bind
  intro annotations _
  apply (Emit.Unmarked.of_silent (silent_memberTypeText name field)).bind
  intro type _
  have hmark : isMethodMark s!"UPROPERTY({annotations})" = false := by
    simp [isMethodMark, toString]
  have hmember : isMethodMark s!"{type} {field.name}{memberSuffix field};" = false :=
    isMethodMark_append rfl (by decide) _
  apply (Emit.Unmarked.line hmark).bind
  intro _ _
  exact (Emit.Unmarked.line hmember).bind fun _ _ => Emit.Unmarked.blank

theorem declares_fieldSection (name : String) (field : Field) :
    (fieldSection graph options name field).body.Declares graph owner reserved [] := by
  rw [fieldSection]
  apply declares_memberSection
  exact .of_unmarked (unmarked_declareField name field)

theorem silent_delegateMark (topLevel : Bool) (object : Object) (method : MethodInfo) :
    Emit.Silent <| delegateAnnotation graph options topLevel object method := by
  unfold delegateAnnotation
  split
  · exact (silent_annotationText _).bind fun _ _ => .pure _
  · exact .pure _

theorem silent_delegateArguments (name : String) (method : MethodInfo) :
    (delegateArguments graph name method).Silent := by
  have hresult : (resultTypes graph name method).Silent := by
    rw [resultTypes]
    split
    · exact (silent_typeText ..).bind fun _ _ => .pure _
    · exact .pure _
  rw [delegateArguments]
  apply (silent_parameterTexts ..).bind
  intro params _
  exact hresult.bind fun _ _ => .pure _

theorem unmarked_declareDelegate (topLevel : Bool) (id : ObjectId) :
    (declareDelegate graph options topLevel id).Unmarked := by
  rw [declareDelegate]
  apply (Emit.Unmarked.ofExcept _).bind
  intro object _
  apply (Emit.Unmarked.ofExcept _).bind
  intro method _
  apply (Emit.Unmarked.of_silent (silent_delegateMark ..)).bind
  intro mark _
  apply (Emit.Unmarked.of_silent (silent_delegateArguments ..)).bind
  intro arguments _
  exact Emit.Unmarked.line (isMethodMark_append rfl (by decide) _)

theorem unmarked_declareSignatures (ids : List ObjectId) :
    (declareSignatures graph options ids).Unmarked := by
  induction ids with
  | nil => exact .pure _
  | cons id rest ih =>
      rw [declareSignatures]
      apply (Emit.Unmarked.ofExcept _).bind
      intro object _
      split
      · apply (unmarked_declareDelegate false id).bind
        intro _ _
        exact ih.bind fun _ _ => .pure _
      · exact ih

theorem unmarked_declareNestedDelegates (ids : List ObjectId) :
    (declareNestedDelegates graph options ids).Unmarked := by
  rw [declareNestedDelegates]
  apply (unmarked_declareSignatures ids).bind
  intro count _
  split
  · exact .pure _
  · exact Emit.Unmarked.blank

theorem unmarked_declareConstructor (name : String) (info : ClassInfo) :
    (declareConstructor name info).Unmarked := by
  rw [declareConstructor]
  apply (Emit.Unmarked.line (isMethodMark_append rfl (by decide) _)).bind
  intro _ _
  split
  · exact .pure _
  · apply (Emit.Unmarked.line (isMethodMark_append rfl (by decide) _)).bind
    exact fun _ _ => Emit.Unmarked.blank

/-! ## Classes -/

/-- The methods that an interface asks its classes for: events are left to scripts. -/
def Graph.askedMethods (graph : Graph) (interface : ObjectId) : List Object :=
  match (graph.object? interface).bind (·.classInfo?) with
  | none => []
  | some contract =>
    (graph.methods contract.functions).filter
      fun object => !object.methodFlags.contains FunctionFlags.blueprintEvent

/-- The methods that all interfaces of a class together ask it for.  A method that two of them
ask for counts twice. -/
def Graph.contractMethods (graph : Graph) (info : ClassInfo) : List Object :=
  info.interfaces.flatMap graph.askedMethods

/-- What the header of a class declares: its own methods and its stubs. -/
def Graph.classDeclarations (graph : Graph) (info : ClassInfo) : List Declaration :=
  (graph.methods info.functions).map (⟨.member, ·⟩) ++
    (info.interfaces.flatMap (graph.missingMethods info)).map (⟨.override, ·⟩)

/-- A class has stubs for what its interfaces ask for and what it does not have itself. -/
theorem flatMap_missingMethods (info : ClassInfo) :
    info.interfaces.flatMap (graph.missingMethods info) =
      (graph.contractMethods info).filter fun object =>
        !((graph.methods info.functions).map (·.name)).contains object.name := by
  have hmissing : ∀ interface, graph.missingMethods info interface =
      (graph.askedMethods interface).filter fun object =>
        !((graph.methods info.functions).map (·.name)).contains object.name := by
    intro interface
    rw [Graph.missingMethods, Graph.askedMethods]
    cases (graph.object? interface).bind (·.classInfo?) with
    | none => rfl
    | some contract => simp only [List.filter_filter, Bool.and_comm]
  rw [Graph.contractMethods, List.filter_flatMap]
  exact congrArg (List.flatMap · info.interfaces) (funext hmissing)

theorem exists_sectionsDeclare_overrideSections (graph : Graph) (options : GeneratorOptions)
    (owner : String) (reserved : ReservedNames) (info : ClassInfo) :
    ∃ declaredOf : List (List Declaration),
      SectionsDeclare graph owner reserved (overrideSections graph options owner reserved info)
        declaredOf ∧
      declaredOf.flatten =
        (info.interfaces.flatMap (graph.missingMethods info)).map (⟨.override, ·⟩) := by
  rw [overrideSections]
  split
  · rename_i hempty
    rw [List.isEmpty_iff.mp hempty]
    exact ⟨[], .nil, rfl⟩
  · have hcomment : Emit.Unmarked (do
        blank
        line "// Fix for true pure virtual functions not being implemented") :=
      Emit.Unmarked.blank.bind fun _ _ => Emit.Unmarked.line (by simp [isMethodMark])
    refine ⟨[] :: _, .cons (.of_unmarked hcomment)
      (sectionsDeclare_map (declares_methodSection .override) _), ?_⟩
    rw [List.flatten_cons, List.nil_append, ← List.flatMap_def, List.map_eq_flatMap]

/-- The header of a class declares its own methods and the stubs, in this order. -/
theorem declares_declareClass (module : String) (id : ObjectId) (object : Object)
    (info : ClassInfo) :
    (declareClass graph options module id object info).Declares graph object.name
      (graph.reservedNames id true) (graph.classDeclarations info) := by
  obtain ⟨stubs, hstubs, hflatten⟩ := exists_sectionsDeclare_overrideSections graph options
    object.name (graph.reservedNames id true) info
  have hdeclarations : graph.classDeclarations info =
      ([] :: info.fields.map (fun _ => []) ++ [[]] ++
        (graph.methods info.functions).map (fun method => [Declaration.mk .member method]) ++
        stubs).flatten := by
    have hfields : (info.fields.map fun _ => ([] : List Declaration)).flatten = [] := by simp
    simp only [Graph.classDeclarations, List.flatten_append, List.flatten_cons, List.flatten_nil,
      List.append_nil, List.nil_append, hfields, hflatten, ← List.flatMap_def,
      ← List.map_eq_flatMap]
  have hclass : ∀ annotations : String, isMethodMark s!"UCLASS({annotations})" = false := by
    intro annotations
    simp [isMethodMark, toString]
  have hheading : ∀ text : String, isMethodMark (text ++ " \x7b") = false :=
    isMethodMark_append rfl (by decide)
  rw [hdeclarations]
  apply Emit.Declares.unmarked_bind (Emit.Unmarked.ofExcept _)
  intro arguments _
  apply Emit.Declares.unmarked_bind (Emit.Unmarked.ofExcept _)
  intro annotations _
  apply Emit.Declares.unmarked_bind (.forM fun parent _ => Emit.Unmarked.depend parent .full)
  intro _ _
  apply Emit.Declares.unmarked_bind (.forM fun interface _ => Emit.Unmarked.depend interface .full)
  intro _ _
  apply Emit.Declares.unmarked_bind (Emit.Unmarked.line (hclass annotations))
  intro _ _
  apply Emit.Declares.unmarked_bind (Emit.Unmarked.line (hheading _))
  intro _ _
  refine Emit.Declares.bind_unmarked (.indented ?_) fun _ _ => Emit.Unmarked.line (by decide)
  apply Emit.Declares.unmarked_bind (Emit.Unmarked.line (by decide))
  intro _ _
  apply declares_writeSections
  apply SectionsDeclare.append _ hstubs
  apply SectionsDeclare.append _ (sectionsDeclare_map (declares_methodSection .member) _)
  apply SectionsDeclare.append _
    (.cons_public (.of_unmarked (unmarked_declareConstructor _ info)) .nil)
  exact .cons_public (.of_unmarked (unmarked_declareNestedDelegates info.functions))
    (sectionsDeclare_map (declares_fieldSection object.name) info.fields)

/-! ## Stubs -/

/-- The methods that have a name. -/
def methodsNamed (name : String) (methods : List Object) : List Object :=
  methods.filter (·.name == name)

/-- The declarations of a name in the header of a class. -/
def Graph.declarationsNamed (graph : Graph) (info : ClassInfo) (name : String) :
    List Declaration :=
  (graph.classDeclarations info).filter (·.method.name == name)

theorem declarationsNamed_eq (info : ClassInfo) (name : String) :
    graph.declarationsNamed info name =
      (methodsNamed name (graph.methods info.functions)).map (⟨.member, ·⟩) ++
        (methodsNamed name (info.interfaces.flatMap (graph.missingMethods info))).map
          (⟨.override, ·⟩) := by
  rw [Graph.declarationsNamed, Graph.classDeclarations, List.filter_append, List.filter_map,
    List.filter_map]
  rfl

/-- No stub has a name that a method of the class has. -/
theorem methodsNamed_missingMethods_of_mem {info : ClassInfo} {method : Object}
    (h : method ∈ graph.methods info.functions) :
    methodsNamed method.name (info.interfaces.flatMap (graph.missingMethods info)) = [] := by
  have hown : method.name ∈ (graph.methods info.functions).map (·.name) := List.mem_map_of_mem h
  rw [methodsNamed, flatMap_missingMethods, List.filter_eq_nil_iff]
  intro other hother hname
  have hmissing := (List.mem_filter.mp hother).2
  rw [eq_of_beq hname] at hmissing
  simp [hown] at hmissing

/-- Every method that is asked for has a stub if the class has no method of its name. -/
theorem methodsNamed_missingMethods_of_nil {info : ClassInfo} {name : String}
    (h : methodsNamed name (graph.methods info.functions) = []) :
    methodsNamed name (info.interfaces.flatMap (graph.missingMethods info)) =
      methodsNamed name (graph.contractMethods info) := by
  have hown : name ∉ (graph.methods info.functions).map (·.name) := by
    intro hmem
    obtain ⟨method, hmethod, hname⟩ := List.mem_map.mp hmem
    exact List.filter_eq_nil_iff.mp h method hmethod (beq_iff_eq.mpr hname)
  rw [methodsNamed, methodsNamed, flatMap_missingMethods, List.filter_filter]
  apply List.filter_congr
  intro method _
  cases hname : method.name == name with
  | false => rfl
  | true =>
      rw [← eq_of_beq hname] at hown
      simp [hown]

/-- A method is the only declaration of its name if the class has no other of this name. -/
theorem declarationsNamed_of_mem {info : ClassInfo} {name : String} {method : Object}
    (hlength : (methodsNamed name (graph.methods info.functions)).length ≤ 1)
    (h : method ∈ methodsNamed name (graph.methods info.functions)) :
    graph.declarationsNamed info name = [⟨.member, method⟩] := by
  obtain ⟨hmem, hsame⟩ := List.mem_filter.mp h
  obtain rfl : method.name = name := eq_of_beq hsame
  obtain ⟨only, honly⟩ := List.length_eq_one_iff.mp
    (Nat.le_antisymm hlength (List.length_pos_of_mem h))
  rw [honly] at h
  rw [declarationsNamed_eq, methodsNamed_missingMethods_of_mem hmem, honly,
    List.mem_singleton.mp h]
  rfl

/-- A name that the class does not have is declared once for each time it is asked for. -/
theorem declarationsNamed_of_nil {info : ClassInfo} {name : String}
    (h : methodsNamed name (graph.methods info.functions) = []) :
    graph.declarationsNamed info name =
      (methodsNamed name (graph.contractMethods info)).map (⟨.override, ·⟩) := by
  rw [declarationsNamed_eq, methodsNamed_missingMethods_of_nil h, h]
  rfl

end

/-- The header of a class declares its own methods and then a stub for every method that an
interface asks for and that it has none of the name of.  So a name that the class has once is
declared once; a name that it does not have is declared as often as its interfaces ask for it,
for no interface knows of the stubs for the others. -/
theorem override_stubs_of_declareClass (graph : Graph) (options : GeneratorOptions)
    (module : String) (id : ObjectId) (object : Object) (info : ClassInfo)
    (h : (declareClass graph options module id object info).Succeeds) :
    List.Forall₂ (Declaration.IsWritten graph object.name (graph.reservedNames id true))
      (graph.classDeclarations info)
      (methodLines false (declareClass graph options module id object info).text) ∧
    ∀ name ∈ (graph.contractMethods info).map (·.name),
      let own := methodsNamed name (graph.methods info.functions)
      let asked := methodsNamed name (graph.contractMethods info)
      own.length ≤ 1 →
        (∀ method ∈ own, graph.declarationsNamed info name = [⟨.member, method⟩]) ∧
        (own = [] →
          asked ≠ [] ∧ graph.declarationsNamed info name = asked.map (⟨.override, ·⟩)) ∧
        ((graph.declarationsNamed info name).length = 1 ↔ own ≠ [] ∨ asked.length = 1) := by
  constructor
  · obtain ⟨value, hvalue⟩ := h
    obtain ⟨lines, hlines, htext⟩ := declares_declareClass module id object info value hvalue
    have hall := htext []
    simp only [List.append_nil, methodLines] at hall
    rwa [hall]
  · intro name hname own asked hlength
    have hasked : asked ≠ [] := by
      obtain ⟨method, hmethod, hsame⟩ := List.mem_map.mp hname
      exact List.ne_nil_of_mem (List.mem_filter.mpr ⟨hmethod, beq_iff_eq.mpr hsame⟩)
    refine ⟨fun method hmethod => declarationsNamed_of_mem hlength hmethod,
      fun hnone => ⟨hasked, declarationsNamed_of_nil hnone⟩, ?_⟩
    by_cases hnone : own = []
    · rw [declarationsNamed_of_nil hnone, List.length_map]
      exact (or_iff_right (not_not.mpr hnone)).symm
    · obtain ⟨method, hmethod⟩ := List.exists_mem_of_ne_nil own hnone
      rw [declarationsNamed_of_mem hlength hmethod]
      exact iff_of_true rfl (.inl hnone)

/-- A public method without parameters. -/
def openMethod (outer : ObjectId) : Object where
  name := "Open"
  package := "/Script/Game"
  outer := some outer
  kind := .function { flags := FunctionFlags.native ||| FunctionFlags.accessPublic }

/-- An interface with the method. -/
def openable (name : String) (method : ObjectId) : Object where
  name
  package := "/Script/Game"
  kind := .interfaceType {
    flags := ClassFlags.native
    functions := [method] }

/-- A class without methods. -/
def doorInfo (interfaces : List ObjectId) : ClassInfo where
  flags := ClassFlags.native
  interfaces

def door (interfaces : List ObjectId) : Object where
  name := "Door"
  package := "/Script/Game"
  kind := .classType (doorInfo interfaces)

/-- The class between two interfaces that ask for a method of the same name. -/
def doorway (interfaces : List ObjectId) : Graph where
  objects := #[door interfaces, openable "Lockable" ⟨3⟩, openable "Usable" ⟨4⟩, openMethod ⟨1⟩,
    openMethod ⟨2⟩]

/-- The header of the class. -/
def doorHeader (interfaces : List ObjectId) : Emit Unit :=
  declareClass (doorway interfaces) {} "Game" ⟨0⟩ (door interfaces) (doorInfo interfaces)

theorem override_stubs_of_declareClass_door :
    (doorHeader [⟨1⟩]).Succeeds ∧
      "Open" ∈ ((doorway [⟨1⟩]).contractMethods (doorInfo [⟨1⟩])).map (·.name) ∧
      (doorway [⟨1⟩]).declarationsNamed (doorInfo [⟨1⟩]) "Open" =
        [⟨.override, openMethod ⟨1⟩⟩] := by
  have hsucceeds : (doorHeader [⟨1⟩]).Succeeds := ⟨(), by decide +kernel⟩
  have hasked : "Open" ∈ ((doorway [⟨1⟩]).contractMethods (doorInfo [⟨1⟩])).map (·.name) := by
    decide +kernel
  have hnames := (override_stubs_of_declareClass (doorway [⟨1⟩]) {} "Game" ⟨0⟩ (door [⟨1⟩])
    (doorInfo [⟨1⟩]) hsucceeds).2 "Open" hasked (by decide +kernel)
  exact ⟨hsucceeds, hasked, (hnames.2.1 rfl).2⟩

/-- Two interfaces that ask for a method get a stub each, and so does an interface that is listed
twice. -/
theorem doorway_repeats_stub :
    (doorHeader [⟨1⟩, ⟨2⟩]).Succeeds ∧
      "Open" ∈ ((doorway [⟨1⟩, ⟨2⟩]).contractMethods (doorInfo [⟨1⟩, ⟨2⟩])).map (·.name) ∧
      (doorway [⟨1⟩, ⟨2⟩]).methods (doorInfo [⟨1⟩, ⟨2⟩]).functions = [] ∧
      (doorway [⟨1⟩, ⟨2⟩]).declarationsNamed (doorInfo [⟨1⟩, ⟨2⟩]) "Open" =
        [⟨.override, openMethod ⟨1⟩⟩, ⟨.override, openMethod ⟨2⟩⟩] ∧
      methodLines false (doorHeader [⟨1⟩, ⟨2⟩]).text =
        ["void Open() override PURE_VIRTUAL(Open,);",
          "void Open() override PURE_VIRTUAL(Open,);"] ∧
      (doorway [⟨1⟩, ⟨1⟩]).declarationsNamed (doorInfo [⟨1⟩, ⟨1⟩]) "Open" =
        [⟨.override, openMethod ⟨1⟩⟩, ⟨.override, openMethod ⟨1⟩⟩] := by
  refine ⟨⟨(), ?_⟩, ?_, rfl, rfl, ?_, rfl⟩
  all_goals decide +kernel

end HeaderSynth
