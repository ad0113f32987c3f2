import HeaderSynth.Proofs.Dump.Inclusions
import HeaderSynth.Proofs.Output.Reachability
import HeaderSynth.Proofs.Sorted.ByteOrder

/-!
# Build descriptors

A module refers to another one when a file of one of its objects has a stub for a header of
the other module or declares one of its types by name.  The build descriptor of a module
lists what the configuration forces and every module that can be reached by such references,
so that nothing a file mentions is missing when the module is linked.
-/

namespace HeaderSynth

/-! ## What a file mentions -/

/-- A file has a stub for a header of `module`. -/
def SourceFile.HasStub (graph : Graph) (names : NameRegistry) (file : SourceFile)
    (declaration : Option SourceFile) (module : String) : Prop :=
  ∃ id ∈ file.dependencies.withLevel .full, graph.moduleName id = module ∧
    ∃ object header,
      file.inclusionLines graph names declaration id = [stubLine module object header]

/-- A file declares a type of `module` by its name. -/
def SourceFile.Declares (graph : Graph) (file : SourceFile) (module : String) : Prop :=
  ∃ id ∈ file.dependencies.withLevel .forward, graph.moduleName id = module ∧
    graph.forwardLines id ≠ []

/-- Another module is recorded for a dependency exactly where its line is a stub. -/
theorem SourceFile.mem_modules_includeOf {graph : Graph} {names : NameRegistry}
    {file : SourceFile} {declaration : Option SourceFile} {id : ObjectId} {mention : Mention}
    (h : includeOf graph names file declaration id = .ok mention) (module : String) :
    module ∈ mention.modules ↔ module ≠ "" ∧ module ≠ file.module ∧ graph.moduleName id = module ∧
      ∃ object header,
        file.inclusionLines graph names declaration id = [stubLine module object header] := by
  have hlines : file.inclusionLines graph names declaration id = mention.lines := by
    rw [inclusionLines, h]
  rw [hlines]
  obtain ⟨name, header, -, -, houtcome⟩ := includeOf_eq_ok h
  rcases houtcome with ⟨-, rfl⟩ | ⟨-, hsame, rfl⟩ | ⟨hwritten, hother, top, -, rfl⟩
  · simp
  · constructor
    · intro hmodule
      cases hmodule
    · rintro ⟨-, hother, rfl, -⟩
      exact absurd hsame hother
  · rw [List.mem_singleton]
    constructor
    · rintro rfl
      exact ⟨fun hempty => hwritten (.inr (.inr hempty)), hother, rfl, _, _, rfl⟩
    · rintro ⟨-, -, hmodule, -⟩
      exact hmodule.symm

theorem SourceFile.mem_modules_forwardOf {graph : Graph} {file : SourceFile} {id : ObjectId}
    {mention : Mention} (h : forwardOf graph file id = .ok mention) (module : String) :
    module ∈ mention.modules ↔ module ≠ "" ∧ module ≠ file.module ∧
      graph.moduleName id = module ∧ graph.forwardLines id ≠ [] := by
  obtain ⟨hlines, rfl⟩ := forwardOf_eq_ok h
  dsimp only
  split_ifs with hown
  · constructor
    · intro hmodule
      cases hmodule
    · rintro ⟨hempty, hother, rfl, -⟩
      exact absurd hown (not_or.mpr ⟨hempty, hother⟩)
  · rw [List.mem_singleton]
    rw [not_or] at hown
    constructor
    · rintro rfl
      exact ⟨hown.1, hown.2, rfl, hlines⟩
    · rintro ⟨-, -, hmodule, -⟩
      exact hmodule.symm

/-- A rendered file mentions the other modules of its stubs and of the types that it declares. -/
theorem SourceFile.mem_modules_render {graph : Graph} {names : NameRegistry} {file : SourceFile}
    {declaration : Option SourceFile} {rendered : Rendered}
    (h : file.render graph names declaration = .ok rendered) (module : String) :
    module ∈ rendered.modules ↔ module ≠ "" ∧ module ≠ file.module ∧
      (file.HasStub graph names declaration module ∨ file.Declares graph module) := by
  obtain ⟨-, included, forward, hincluded, hforward, hmodules⟩ := render_eq_ok h
  rw [hmodules]
  constructor
  · rintro ⟨mention, hmention, hmodule⟩
    rcases List.mem_append.mp hmention with hmention | hmention
    · obtain ⟨id, hid, hmention⟩ := Outcome.exists_related_of_mem
        (R := fun mention id => includeOf graph names file declaration id = .ok mention)
        hincluded.flip hmention
      obtain ⟨hempty, hother, hstub⟩ := (mem_modules_includeOf hmention module).mp hmodule
      exact ⟨hempty, hother, .inl ⟨id, hid, hstub⟩⟩
    · obtain ⟨id, hid, hmention⟩ := Outcome.exists_related_of_mem
        (R := fun mention id => forwardOf graph file id = .ok mention) hforward.flip hmention
      obtain ⟨hempty, hother, hdeclared⟩ := (mem_modules_forwardOf hmention module).mp hmodule
      exact ⟨hempty, hother, .inr ⟨id, hid, hdeclared⟩⟩
  · rintro ⟨hempty, hother, ⟨id, hid, hstub⟩ | ⟨id, hid, hdeclared⟩⟩
    · obtain ⟨mention, hmem, hmention⟩ := Outcome.exists_related_of_mem hincluded hid
      exact ⟨mention, List.mem_append_left forward hmem,
        (mem_modules_includeOf hmention module).mpr ⟨hempty, hother, hstub⟩⟩
    · obtain ⟨mention, hmem, hmention⟩ := Outcome.exists_related_of_mem hforward hid
      exact ⟨mention, List.mem_append_right included hmem,
        (mem_modules_forwardOf hmention module).mpr ⟨hempty, hother, hdeclared⟩⟩

/-! ## The files of an object -/

namespace ObjectFiles

/-- The files of an object with the hash of its type in the header, where one is needed. -/
def hashed (files : ObjectFiles) (graph : Graph) (usage : TypeUsage) : ObjectFiles :=
  { files with
    declaration := (files.declaration.withHash graph usage).toOption.getD files.declaration }

/-- The header, and the source with the header it defines. -/
def parts (files : ObjectFiles) : List (SourceFile × Option SourceFile) :=
  (files.declaration, none) :: files.definition.toList.map (·, some files.declaration)

/-- The files of an object as they are written out. -/
def outputs (graph : Graph) (names : NameRegistry) (files : ObjectFiles) : List OutputFile :=
  files.parts.map fun part => ⟨part.1.path, part.1.text graph names part.2⟩

/-- Some file of an object has a stub for `module` or declares a type of it. -/
def Mentions (graph : Graph) (names : NameRegistry) (files : ObjectFiles) (module : String) :
    Prop :=
  ∃ part ∈ files.parts, part.1.HasStub graph names part.2 module ∨ part.1.Declares graph module

end ObjectFiles

theorem renderDefinition_eq_ok {graph : Graph} {names : NameRegistry} {declaration : SourceFile}
    {definition : Option SourceFile} {sources : List OutputFile} {mentioned : List String}
    (hdefinition : ∀ file ∈ definition, file.hasContent = true ∧ file.module = declaration.module)
    (h : renderDefinition graph names declaration definition = .ok (sources, mentioned)) :
    sources = definition.toList.map (fun file =>
        ⟨file.path, file.text graph names (some declaration)⟩) ∧
      ∀ module, module ∈ mentioned ↔ ∃ file ∈ definition,
        module ≠ "" ∧ module ≠ declaration.module ∧
          (file.HasStub graph names (some declaration) module ∨ file.Declares graph module) := by
  cases definition with
  | none =>
      cases h
      simp
  | some file =>
      obtain ⟨hcontent, hmodule⟩ := hdefinition file rfl
      rw [renderDefinition, if_pos hcontent] at h
      obtain ⟨rendered, hrendered, h⟩ := Outcome.bind_eq_ok.mp h
      cases h
      have htext := (SourceFile.render_eq_ok hrendered).1
      have hmodules := SourceFile.mem_modules_render hrendered
      rw [hmodule] at hmodules
      constructor
      · rw [htext]
        rfl
      · intro module
        simp [← SortedSet.mem_def, hmodules]

/-- What is rendered for an object, in terms of its files. -/
structure RenderedObject.Shows (rendered : RenderedObject) (graph : Graph) (names : NameRegistry)
    (object : PlannedObject) (files : ObjectFiles) : Prop where
  module : rendered.module = object.module
  outputs : rendered.files = files.outputs graph names
  references : ∀ module, module ∈ rendered.references ↔
    module ≠ "" ∧ module ≠ object.module ∧ files.Mentions graph names module

theorem ObjectFiles.AreWritten.shows {files : ObjectFiles} {graph : Graph}
    {object : PlannedObject} {names : NameRegistry} {usage : TypeUsage}
    {rendered : RenderedObject} (hfiles : files.AreWritten graph object)
    (h : files.render graph names usage = .ok rendered) :
    rendered.Shows graph names object (files.hashed graph usage) := by
  obtain ⟨declaration, header, sources, mentioned, hdeclaration, hheader, hsources, rfl⟩ :=
    ObjectFiles.render_eq_ok hfiles.declaration.content h
  have hmodule := (hfiles.declaration.withHash hdeclaration).module
  have hhashed : files.hashed graph usage = { files with declaration } := by
    rw [hashed, hdeclaration]
    rfl
  have hdefinition : ∀ file ∈ files.definition,
      file.hasContent = true ∧ file.module = declaration.module := by
    intro file hfile
    have hwritten := hfiles.definition file hfile
    exact ⟨hwritten.content, hwritten.module.trans hmodule.symm⟩
  obtain ⟨hsources, hmentioned⟩ := renderDefinition_eq_ok hdefinition hsources
  have htext := (SourceFile.render_eq_ok hheader).1
  have hheaderModules := SourceFile.mem_modules_render hheader
  rw [hmodule] at hmentioned hheaderModules
  rw [hhashed]
  refine ⟨hmodule, ?_, ?_⟩
  · rw [hsources, htext, outputs, parts, List.map_cons, List.map_map]
    rfl
  · intro module
    rw [List.mem_append, ← SortedSet.mem_def, hheaderModules, hmentioned, Mentions, parts,
      List.exists_mem_cons_iff]
    simp only [List.mem_map, Option.mem_toList]
    constructor
    · rintro (⟨hempty, hother, hmentions⟩ | ⟨file, hfile, hempty, hother, hmentions⟩)
      · exact ⟨hempty, hother, .inl hmentions⟩
      · exact ⟨hempty, hother, .inr ⟨_, ⟨file, hfile, rfl⟩, hmentions⟩⟩
    · rintro ⟨hempty, hother, hmentions | ⟨_, ⟨file, hfile, rfl⟩, hmentions⟩⟩
      · exact .inl ⟨hempty, hother, hmentions⟩
      · exact .inr ⟨file, hfile, hempty, hother, hmentions⟩

/-! ## References of a dump -/

/-- The planned objects, each with its files. -/
def completed (graph : Graph) (usage : TypeUsage) (planned : List PlannedObject)
    (written : List ObjectFiles) : List (PlannedObject × ObjectFiles) :=
  planned.zip (written.map fun files => files.hashed graph usage)

/-- A module refers to another one in some file of one of its objects. -/
def References (graph : Graph) (names : NameRegistry)
    (objects : List (PlannedObject × ObjectFiles)) (module other : String) : Prop :=
  other ≠ "" ∧ other ≠ module ∧
    ∃ entry ∈ objects, entry.1.module = module ∧ entry.2.Mentions graph names other

theorem shows_of_areWritten {graph : Graph} {names : NameRegistry} {usage : TypeUsage}
    {planned : List PlannedObject} {written : List ObjectFiles} {rendered : List RenderedObject}
    (hwritten : List.Forall₂ (fun object files => files.AreWritten graph object) planned written)
    (hrendered : List.Forall₂ (fun files object => files.render graph names usage = .ok object)
      written rendered) :
    List.Forall₂ (fun entry result => result.Shows graph names entry.1 entry.2)
      (completed graph usage planned written) rendered := by
  induction hwritten generalizing rendered with
  | nil =>
      cases hrendered
      exact .nil
  | cons hfiles _ ih =>
      cases hrendered with
      | cons hobject hothers => exact .cons (hfiles.shows hobject) (ih hothers)

/-- The references that are recorded are those of the files. -/
theorem refers_eq_references {graph : Graph} {names : NameRegistry}
    {objects : List (PlannedObject × ObjectFiles)} {planned : List PlannedObject}
    {rendered : List RenderedObject}
    (h : List.Forall₂ (fun entry result => result.Shows graph names entry.1 entry.2)
      objects rendered) :
    (moduleReferences planned rendered).Refers = References graph names objects := by
  funext module other
  rw [eq_iff_iff, refers_moduleReferences, References]
  constructor
  · rintro ⟨result, hresult, rfl, hother, hempty, hself⟩
    obtain ⟨entry, hentry, hshows⟩ := Outcome.exists_related_of_mem
      (R := fun result (entry : PlannedObject × ObjectFiles) =>
        result.Shows graph names entry.1 entry.2) h.flip hresult
    obtain ⟨-, -, hmentions⟩ := (hshows.references other).mp hother
    exact ⟨hempty, hself, entry, hentry, hshows.module.symm, hmentions⟩
  · rintro ⟨hempty, hself, entry, hentry, rfl, hmentions⟩
    obtain ⟨result, hresult, hshows⟩ := Outcome.exists_related_of_mem h hentry
    have hother := (hshows.references other).mpr ⟨hempty, hself, hmentions⟩
    exact ⟨result, hresult, hshows.module.symm, hother, hempty, hself⟩

/-! ## Lists of modules -/

/-- The line of a build descriptor that opens its list of modules. -/
def listOpening : String :=
  indentation 2 ++ "PublicDependencyModuleNames.AddRange(new string[] \x7b"

/-- The line that closes the list. -/
def listClosing : String :=
  indentation 2 ++ "\x7d);"

def listedLine (name : String) : String :=
  indentation 3 ++ "\"" ++ name ++ "\","

/-- A file is the build descriptor of `module`, and `listed` is what it depends on. -/
structure OutputFile.ListsModules (file : OutputFile) (module : String) (listed : List String) :
    Prop where
  path : file.path = descriptorPath module
  contents : ∃ before after, listOpening ∉ before ∧
    file.contents = SourceFile.joinLines
      (before ++ listOpening :: listed.map listedLine ++ listClosing :: after)

theorem mem_buildDependencies {module name : String} {forced : List String}
    {references : ModuleReferences} :
    name ∈ buildDependencies module forced references ↔
      (name ∈ forced ∨ Relation.TransGen references.Refers module name) ∧ name ≠ module := by
  rw [buildDependencies, SortedSet.mem_erase, SortedSet.mem_insertAll, SortedSet.mem_ofList,
    ← SortedSet.mem_def, ModuleReferences.mem_transitive, and_congr_left_iff]
  intro hself
  rw [and_iff_right hself, or_comm]

/-- What stands in a build descriptor before the list of modules. -/
def descriptorOpening (module : String) (modern : Bool) : List String :=
  ["using UnrealBuildTool;",
    "",
    s!"public class {module} : ModuleRules \x7b",
    s!"{indentUnit}public {module}(ReadOnlyTargetRules Target) : base(Target) \x7b",
    indentation 2 ++ "PCHUsage = PCHUsageMode.UseExplicitOrSharedPCHs;"] ++
  (if modern then
    [indentation 2 ++ "bLegacyPublicIncludePaths = false;",
      indentation 2 ++ "ShadowVariableWarningLevel = WarningLevel.Warning;"]
  else []) ++ [""]

theorem listOpening_not_mem_descriptorOpening (module : String) (modern : Bool) :
    listOpening ∉ descriptorOpening module modern := by
  -- Ten characters tell the lines apart, whatever the module is called.
  intro hmem
  have hmap := List.mem_map_of_mem (f := fun line : String => line.toList.take 10) hmem
  revert hmap
  cases modern <;> simp [descriptorOpening, listOpening, indentation, indentUnit, toString]

theorem listsModules_buildDescriptor (module : String) (forced : List String)
    (references : ModuleReferences) (modern : Bool) :
    (buildDescriptor module forced references modern).ListsModules module
      (buildDependencies module forced references).toList := by
  refine ⟨rfl, descriptorOpening module modern, [indentUnit ++ "\x7d", "\x7d"],
    listOpening_not_mem_descriptorOpening module modern, ?_⟩
  apply congrArg SourceFile.joinLines
  simp [descriptorOpening, listOpening, listClosing, listedLine]

/-- The build descriptor of a module that received files lists, in byte order, what the
configuration forces and every other module that the files of the dump lead to. -/
theorem buildDescriptors_of_generate {graph : Graph} {config : Config} {dump : Dump}
    (h : generate graph config = .ok dump) (hbuild : config.output.buildFiles = true) :
    ∃ names planned run written,
      graph.plan config = .ok (names, planned) ∧
      synthesizeAll graph config.generator planned .empty = .ok (run, written) ∧
      ∃ descriptor : String → OutputFile,
        dump.files =
          (completed graph run.usage planned written).flatMap
            (fun entry => entry.2.outputs graph names) ++
          dump.modules.keys.flatMap
            (fun module => [descriptor module, moduleSource module config.modules.primary]) ∧
        ∀ module, (∃ object ∈ planned, object.module = module) →
          module ∈ dump.modules.keys ∧
          ∃ listed, (descriptor module).ListsModules module listed ∧ Text.InByteOrder listed ∧
            ∀ name, name ∈ listed ↔
              (name ∈ config.modules.forced ∨
                Relation.TransGen
                  (References graph names (completed graph run.usage planned written))
                  module name) ∧
              name ≠ module := by
  obtain ⟨names, planned, run, written, rendered, hplan, hwritten, hrendered, hfiles, hmodules⟩ :=
    generate_eq_ok h
  have hareWritten := areWritten_synthesizeAll hwritten
  have hshows := shows_of_areWritten hareWritten hrendered
  have hrefers : dump.modules.Refers =
      References graph names (completed graph run.usage planned written) := by
    rw [hmodules]
    exact refers_eq_references hshows
  refine ⟨names, planned, run, written, hplan, hwritten, fun module =>
    buildDescriptor module config.modules.forced dump.modules config.output.modernRules, ?_, ?_⟩
  · rw [hfiles, buildFiles, if_pos hbuild, ← hmodules]
    congr 1
    apply Outcome.flatMap_eq_of_forall₂
    exact hshows.imp fun entry result hresult => hresult.outputs
  · rintro module ⟨object, hobject, rfl⟩
    refine ⟨?_, _, listsModules_buildDescriptor .., ?_, ?_⟩
    · obtain ⟨_, _, hsame, hkeys, -⟩ := paths_of_generate h
      obtain ⟨rfl, rfl⟩ := Prod.mk.inj (Except.ok.inj (hplan.symm.trans hsame))
      exact (hkeys _).mpr (List.mem_map_of_mem hobject)
    · exact (Text.inByteOrder_iff_ascending _).mpr (buildDependencies _ _ _).ascending
    · intro name
      rw [← SortedSet.mem_def, mem_buildDependencies, hrefers]

/-- A class that derives from one of a second module, which points to one of a third. -/
def smithy : Graph where
  objects := #[
    { name := "Hero", package := "/Script/Game",
      kind := .classType { flags := ClassFlags.native, superClass := some ⟨1⟩ } },
    { name := "Fighter", package := "/Script/Arms",
      kind := .classType {
        flags := ClassFlags.native
        fields := [{ name := "Home", kind := .objectRef (some ⟨2⟩) }] } },
    { name := "Forge", package := "/Script/Smithy",
      kind := .classType { flags := ClassFlags.native } }]

theorem buildDescriptors_of_generate_smithy :
    ({} : Config).output.buildFiles = true ∧ ∃ dump, generate smithy {} = .ok dump ∧
      ∃ names planned run written,
        smithy.plan {} = .ok (names, planned) ∧
        synthesizeAll smithy {} planned .empty = .ok (run, written) ∧
        (∃ object ∈ planned, object.module = "Game") ∧
        ∃ file ∈ dump.files, ∃ listed,
          file.ListsModules "Game" listed ∧ Text.InByteOrder listed ∧
            ∀ name, name ∈ listed ↔
              (name ∈ ["Core", "CoreUObject", "Engine"] ∨
                Relation.TransGen
                  (References smithy names (completed smithy run.usage planned written))
                  "Game" name) ∧
              name ≠ "Game" := by
  have hruns : (generate smithy {}).toBool = true := by decide +kernel
  obtain ⟨dump, hdump⟩ := Outcome.exists_of_toBool hruns
  obtain ⟨names, planned, run, written, hplan, hwritten, descriptor, hfiles, hlists⟩ :=
    buildDescriptors_of_generate hdump rfl
  have hgame : ∃ object ∈ planned, object.module = "Game" := by
    have hsome : (smithy.plan {}).toOption.any
        (fun result => result.2.any (·.module = "Game")) = true := by decide +kernel
    rw [hplan] at hsome
    simpa [Except.toOption] using hsome
  obtain ⟨hkeys, listed, hlisted⟩ := hlists "Game" hgame
  have hfile : descriptor "Game" ∈ dump.files := by
    rw [hfiles]
    exact List.mem_append_right _ (List.mem_flatMap.mpr ⟨"Game", hkeys, List.mem_cons_self⟩)
  exact ⟨rfl, dump, hdump, names, planned, run, written, hplan, hwritten, hgame,
    descriptor "Game", hfile, listed, hlisted⟩

example : ((generate smithy {}).toOption.bind (·.file? "Game/Game.Build.cs")).map (·.contents) =
    some (SourceFile.joinLines (descriptorOpening "Game" true ++
      listOpening :: ["Arms", "Core", "CoreUObject", "Engine", "Smithy"].map listedLine ++
      [listClosing, "    \x7d", "\x7d"])) := by
  decide +kernel

end HeaderSynth
