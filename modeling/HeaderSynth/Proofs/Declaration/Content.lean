import HeaderSynth.Declaration.ObjectFiles
import HeaderSynth.Proofs.Outcome

/-!
# Declarations have content

A declaration or definition that succeeds has written a line.  Writing never takes
anything back, so no file of an object is empty, and every file keeps the object, the
module and the name that it was opened with.
-/

namespace HeaderSynth

/-- A computation that has written a line whenever it succeeds. -/
def Emit.WritesLine {α : Type} (emission : Emit α) : Prop :=
  ∀ value, emission.result = .ok value → ∃ text, .line text ∈ emission.log

namespace Emit.WritesLine

variable {α β : Type}

theorem line (text : String) : WritesLine (Emit.line text) :=
  fun _ _ => ⟨text, List.mem_singleton_self _⟩

theorem bind_left {first : Emit α} (h : first.WritesLine) (next : α → Emit β) :
    (first >>= next).WritesLine := by
  intro value hvalue
  cases hfirst : first.result with
  | error error =>
      rw [Logged.bind_error hfirst] at hvalue
      cases hvalue
  | ok result =>
      obtain ⟨text, htext⟩ := h result hfirst
      rw [Logged.bind_ok hfirst]
      exact ⟨text, List.mem_append_left _ htext⟩

theorem bind_right (first : Emit α) {next : α → Emit β} (h : ∀ value, (next value).WritesLine) :
    (first >>= next).WritesLine := by
  intro value hvalue
  cases hfirst : first.result with
  | error error =>
      rw [Logged.bind_error hfirst] at hvalue
      cases hvalue
  | ok result =>
      rw [Logged.bind_ok hfirst] at hvalue ⊢
      obtain ⟨text, htext⟩ := h result value hvalue
      exact ⟨text, List.mem_append_right _ htext⟩

end Emit.WritesLine

open Emit.WritesLine (line bind_left bind_right)

theorem writesLine_declareDelegate (graph : Graph) (options : GeneratorOptions) (topLevel : Bool)
    (id : ObjectId) : (declareDelegate graph options topLevel id).WritesLine := by
  rw [declareDelegate]
  refine bind_right _ fun object => bind_right _ fun method => ?_
  refine bind_right _ fun annotation => bind_right _ fun arguments => ?_
  exact line _

theorem writesLine_declareEnum (options : GeneratorOptions) (usage : TypeUsage) (id : ObjectId)
    (object : Object) (info : EnumInfo) : (declareEnum options usage id object info).WritesLine := by
  rw [declareEnum]
  exact bind_right _ fun annotations => bind_left (line _) _

theorem writesLine_declareStruct (graph : Graph) (options : GeneratorOptions) (module : String)
    (usage : TypeUsage) (id : ObjectId) (object : Object) (info : StructInfo) :
    (declareStruct graph options module usage id object info).WritesLine := by
  rw [declareStruct]
  refine bind_right _ fun annotations => ?_
  cases info.superStruct with
  | none => exact bind_right _ fun base => bind_left (line _) _
  | some parent => exact bind_right _ fun _ => bind_right _ fun base => bind_left (line _) _

theorem writesLine_defineStruct (graph : Graph) (id : ObjectId) (object : Object)
    (info : StructInfo) : (defineStruct graph id object info).WritesLine := by
  rw [defineStruct]
  exact bind_left (line _) _

theorem writesLine_declareInterface (graph : Graph) (options : GeneratorOptions) (module : String)
    (id : ObjectId) (object : Object) (info : ClassInfo) :
    (declareInterface graph options module id object info).WritesLine := by
  rw [declareInterface]
  refine bind_right _ fun annotations => ?_
  cases info.superClass with
  | none => exact bind_right _ fun bases => bind_left (line _) _
  | some parent => exact bind_right _ fun _ => bind_right _ fun bases => bind_left (line _) _

theorem writesLine_declareClass (graph : Graph) (options : GeneratorOptions) (module : String)
    (id : ObjectId) (object : Object) (info : ClassInfo) :
    (declareClass graph options module id object info).WritesLine := by
  rw [declareClass]
  refine bind_right _ fun arguments => bind_right _ fun annotations => ?_
  refine bind_right _ fun _ => bind_right _ fun _ => ?_
  exact bind_left (line _) _

theorem writesLine_defineClass (graph : Graph) (id : ObjectId) (object : Object)
    (info : ClassInfo) : (defineClass graph id object info).WritesLine := by
  rw [defineClass]
  refine bind_right _ fun _ => bind_right _ fun _ => ?_
  rw [defineConstructor]
  exact bind_left (line _) _

/-- Whether an object has a source besides its header. -/
def Object.writesSource (object : Object) : Bool :=
  match object.kind with
  | .classType _ => true
  | .structType _ => true
  | _ => false

/-- Everything that is written for an object writes a line. -/
theorem Object.writesLine_writing {graph : Graph} {options : GeneratorOptions} {module : String}
    {usage : TypeUsage} {id : ObjectId} {object : Object} {writing : Writing}
    (h : object.writing graph options module usage id = .ok writing) :
    writing.declare.WritesLine ∧ writing.define.isSome = object.writesSource ∧
      ∀ emission ∈ writing.define, emission.WritesLine := by
  rw [Object.writing] at h
  rw [Object.writesSource]
  cases hkind : object.kind with
  | classType info =>
      rw [hkind] at h
      cases h
      refine ⟨writesLine_declareClass graph options module id object info, rfl, ?_⟩
      rintro _ ⟨⟩
      exact writesLine_defineClass graph id object info
  | interfaceType info =>
      rw [hkind] at h
      cases h
      exact ⟨writesLine_declareInterface graph options module id object info, rfl, by simp⟩
  | structType info =>
      rw [hkind] at h
      cases h
      refine ⟨writesLine_declareStruct graph options module usage id object info, rfl, ?_⟩
      rintro _ ⟨⟩
      exact writesLine_defineStruct graph id object info
  | enumType info =>
      rw [hkind] at h
      cases h
      exact ⟨writesLine_declareEnum options usage id object info, rfl, by simp⟩
  | function info =>
      rw [hkind] at h
      simp only at h
      split_ifs at h
      cases h
      exact ⟨writesLine_declareDelegate graph options true id, rfl, by simp⟩
  | instanceOf info =>
      rw [hkind] at h
      cases h

/-! ## Files -/

namespace SourceFile

/-- A file that was opened for an object and that has content. -/
structure IsWritten (file : SourceFile) (id : ObjectId) (module baseName : String)
    (role : FileRole) : Prop where
  object : file.object = id
  module : file.module = module
  baseName : file.baseName = baseName
  role : file.role = role
  content : file.hasContent = true

/-- Writing does not move a file, and takes nothing back. -/
structure Extends (later file : SourceFile) : Prop where
  object : later.object = file.object
  module : later.module = file.module
  baseName : later.baseName = file.baseName
  role : later.role = file.role
  content : file.hasContent = true → later.hasContent = true

theorem Extends.refl (file : SourceFile) : file.Extends file :=
  ⟨rfl, rfl, rfl, rfl, id⟩

theorem Extends.trans {last later file : SourceFile} (hlast : last.Extends later)
    (hlater : later.Extends file) : last.Extends file where
  object := hlast.object.trans hlater.object
  module := hlast.module.trans hlater.module
  baseName := hlast.baseName.trans hlater.baseName
  role := hlast.role.trans hlater.role
  content := hlast.content ∘ hlater.content

theorem hasContent_appendFlush (file : SourceFile) (line : String) :
    (file.appendFlush line).hasContent = true := by
  simp [hasContent, appendFlush]

theorem hasContent_appendLine (file : SourceFile) (line : String) :
    (file.appendLine line).hasContent = true := by
  simp [hasContent, appendLine]

theorem extends_apply (file : SourceFile) (emission : Emission) :
    (file.apply emission).Extends file := by
  cases emission with
  | line text => exact ⟨rfl, rfl, rfl, rfl, fun _ => file.hasContent_appendLine text⟩
  | flush text => exact ⟨rfl, rfl, rfl, rfl, fun _ => file.hasContent_appendFlush text⟩
  | demand demand => cases demand <;> exact ⟨rfl, rfl, rfl, rfl, id⟩
  | _ => exact ⟨rfl, rfl, rfl, rfl, id⟩

theorem extends_applyAll (file : SourceFile) (log : List Emission) :
    (file.applyAll log).Extends file := by
  induction log generalizing file with
  | nil => exact Extends.refl file
  | cons emission rest ih => exact (ih (file.apply emission)).trans (file.extends_apply emission)

/-- A log with a line leaves content behind. -/
theorem hasContent_applyAll {log : List Emission} {text : String} (h : .line text ∈ log)
    (file : SourceFile) : (file.applyAll log).hasContent = true := by
  induction log generalizing file with
  | nil => cases h
  | cons emission rest ih =>
      rcases List.mem_cons.mp h with rfl | h
      · exact (extends_applyAll _ rest).content (file.hasContent_appendLine text)
      · exact ih h (file.apply emission)

theorem extends_completeForward (file declaration : SourceFile) :
    (file.completeForward declaration).Extends file := by
  rw [completeForward]
  generalize declaration.dependencies.withLevel .forward = ids
  induction ids generalizing file with
  | nil => exact Extends.refl file
  | cons id rest ih => exact (ih (file.depend id .full)).trans ⟨rfl, rfl, rfl, rfl, fun h => h⟩

/-- A file to which a declaration or definition has been written. -/
theorem isWritten_applyAll {file written : SourceFile} {emission : Emit Unit}
    (hemission : emission.WritesLine)
    (h : emission.result.map (fun _ => file.applyAll emission.log) = .ok written) :
    written.IsWritten file.object file.module file.baseName file.role := by
  obtain ⟨value, hvalue, rfl⟩ := Outcome.map_eq_ok.mp h
  obtain ⟨text, htext⟩ := hemission value hvalue
  have hlater := file.extends_applyAll emission.log
  exact ⟨hlater.object, hlater.module, hlater.baseName, hlater.role, hasContent_applyAll htext file⟩

end SourceFile

end HeaderSynth
