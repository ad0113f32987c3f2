import HeaderSynth.Dump.Generate
import HeaderSynth.Proofs.Declaration.Content
import HeaderSynth.Proofs.Dump.Planning
import HeaderSynth.Proofs.Output.Reachability

/-!
# The files of a dump

A dump holds, for each planned object in order, its header and, for classes and
aggregates, its source; then come the build files of the modules that received files.
No file is left out and none is added, because no planned file is empty.
-/

namespace HeaderSynth

/-- Whether an object has a source besides its header. -/
def Graph.writesSource (graph : Graph) (id : ObjectId) : Bool :=
  (graph.object? id).any Object.writesSource

/-! ## Writing -/

/-- The files that are written for a planned object. -/
structure ObjectFiles.AreWritten (files : ObjectFiles) (graph : Graph)
    (object : PlannedObject) : Prop where
  declaration :
    files.declaration.IsWritten object.id object.module object.baseName .declaration
  definition_isSome : files.definition.isSome = graph.writesSource object.id
  definition : ∀ file ∈ files.definition,
    file.IsWritten object.id object.module object.baseName .definition

theorem isWritten_writeDefinition {declaration definition : SourceFile} {emission : Emit Unit}
    {run after : Run} (hemission : emission.WritesLine)
    (h : writeDefinition declaration emission run = (after, .ok definition)) :
    definition.IsWritten declaration.object declaration.module declaration.baseName
      .definition := by
  obtain ⟨-, h⟩ := Prod.mk.inj h
  obtain ⟨written, hwritten, rfl⟩ := Outcome.map_eq_ok.mp h
  have hfile := SourceFile.isWritten_applyAll hemission hwritten
  have hlater := written.extends_completeForward declaration
  exact ⟨hlater.object.trans hfile.object, hlater.module.trans hfile.module,
    hlater.baseName.trans hfile.baseName, hlater.role.trans hfile.role,
    hlater.content hfile.content⟩

theorem areWritten_synthesize {graph : Graph} {options : GeneratorOptions} {object : PlannedObject}
    {run after : Run} {files : ObjectFiles}
    (h : synthesize graph options object.id object.module object.baseName run =
      (after, .ok files)) : files.AreWritten graph object := by
  rw [synthesize] at h
  split at h
  · cases h
  rename_i writing hwriting
  obtain ⟨reflected, hreflected, hwriting⟩ := Outcome.bind_eq_ok.mp hwriting
  obtain ⟨hdeclare, hdefine, hemission⟩ := reflected.writesLine_writing hwriting
  have hsource : graph.writesSource object.id = writing.define.isSome := by
    rw [Graph.writesSource, Graph.get_eq_ok.mp hreflected, hdefine]
    rfl
  simp only at h
  split at h
  · cases h
  rename_i declaration hdeclaration
  have hwritten := SourceFile.isWritten_applyAll hdeclare (Prod.mk.inj hdeclaration).2
  split at h
  · rename_i hnone
    cases h
    exact ⟨hwritten, by rw [hsource, hnone]; rfl, by simp⟩
  · rename_i emission hsome
    split at h
    · cases h
    rename_i definition hdefinition
    cases h
    have hfile := isWritten_writeDefinition (hemission emission hsome) hdefinition
    rw [hwritten.object, hwritten.module, hwritten.baseName] at hfile
    refine ⟨hwritten, by rw [hsource, hsome]; rfl, ?_⟩
    rintro file ⟨⟩
    exact hfile

/-- Every planned object gets its files, in order. -/
theorem areWritten_synthesizeAll {graph : Graph} {options : GeneratorOptions}
    {planned : List PlannedObject} {run after : Run} {written : List ObjectFiles}
    (h : synthesizeAll graph options planned run = .ok (after, written)) :
    List.Forall₂ (fun object files => files.AreWritten graph object) planned written := by
  induction planned generalizing run written with
  | nil =>
      cases h
      exact .nil
  | cons object rest ih =>
      rw [synthesizeAll] at h
      split at h
      · cases h
      rename_i files hfiles
      obtain ⟨⟨last, others⟩, hothers, hresult⟩ := Outcome.bind_eq_ok.mp h
      cases hresult
      exact .cons (areWritten_synthesize hfiles) (ih hothers)

/-! ## Rendering -/

namespace PlannedObject

/-- Where the header of an object goes. -/
def headerPath (object : PlannedObject) : String :=
  Path.join (Path.join object.module "Public") (object.baseName ++ ".h")

/-- Where the source of an object goes, if it has one. -/
def sourcePath (object : PlannedObject) : String :=
  Path.join (Path.join object.module "Private") (object.baseName ++ ".cpp")

end PlannedObject

/-- The paths of the files of an object. -/
def Graph.objectPaths (graph : Graph) (object : PlannedObject) : List String :=
  object.headerPath :: if graph.writesSource object.id then [object.sourcePath] else []

theorem SourceFile.IsWritten.path_declaration {file : SourceFile} {object : PlannedObject}
    (h : file.IsWritten object.id object.module object.baseName .declaration) :
    file.path = object.headerPath := by
  rw [SourceFile.path, h.role, h.module, h.baseName]
  rfl

theorem SourceFile.IsWritten.path_definition {file : SourceFile} {object : PlannedObject}
    (h : file.IsWritten object.id object.module object.baseName .definition) :
    file.path = object.sourcePath := by
  rw [SourceFile.path, h.role, h.module, h.baseName]
  rfl

theorem SourceFile.IsWritten.appendLine {file : SourceFile} {id : ObjectId}
    {module baseName : String} {role : FileRole} (h : file.IsWritten id module baseName role)
    (line : String) : (file.appendLine line).IsWritten id module baseName role :=
  ⟨h.object, h.module, h.baseName, h.role, file.hasContent_appendLine line⟩

/-- A hash is one more line of the header. -/
theorem SourceFile.withHash_eq_ok {file later : SourceFile} {graph : Graph} {usage : TypeUsage}
    (h : file.withHash graph usage = .ok later) :
    later = file ∨ ∃ line, later = file.appendLine line := by
  rw [withHash] at h
  split at h
  · obtain ⟨object, -, h⟩ := Outcome.bind_eq_ok.mp h
    split at h
    all_goals cases h
    · exact .inr ⟨_, rfl⟩
    · exact .inr ⟨_, rfl⟩
    · exact .inr ⟨_, rfl⟩
    · exact .inl rfl
  · cases h
    exact .inl rfl

theorem SourceFile.IsWritten.withHash {file later : SourceFile} {id : ObjectId}
    {module baseName : String} {role : FileRole} {graph : Graph} {usage : TypeUsage}
    (hfile : file.IsWritten id module baseName role)
    (h : file.withHash graph usage = .ok later) : later.IsWritten id module baseName role := by
  rcases SourceFile.withHash_eq_ok h with rfl | ⟨line, rfl⟩
  · exact hfile
  · exact hfile.appendLine line

theorem map_path_renderDefinition {graph : Graph} {names : NameRegistry}
    {declaration : SourceFile} {definition : Option SourceFile} {sources : List OutputFile}
    {mentioned : List String} (hdefinition : ∀ file ∈ definition, file.hasContent = true)
    (h : renderDefinition graph names declaration definition = .ok (sources, mentioned)) :
    sources.map (·.path) = definition.toList.map (·.path) := by
  cases definition with
  | none =>
      cases h
      rfl
  | some file =>
      rw [renderDefinition, if_pos (hdefinition file rfl)] at h
      obtain ⟨rendered, -, h⟩ := Outcome.bind_eq_ok.mp h
      cases h
      rfl

/-- How the files of an object are rendered when the header has content. -/
theorem ObjectFiles.render_eq_ok {files : ObjectFiles} {graph : Graph} {names : NameRegistry}
    {usage : TypeUsage} {rendered : RenderedObject}
    (hcontent : files.declaration.hasContent = true)
    (h : files.render graph names usage = .ok rendered) :
    ∃ declaration header sources mentioned,
      files.declaration.withHash graph usage = .ok declaration ∧
      declaration.render graph names none = .ok header ∧
      renderDefinition graph names declaration files.definition = .ok (sources, mentioned) ∧
      rendered = ⟨declaration.module, ⟨declaration.path, header.text⟩ :: sources,
        header.modules.toList ++ mentioned⟩ := by
  rw [ObjectFiles.render, if_pos hcontent] at h
  obtain ⟨declaration, hdeclaration, h⟩ := Outcome.bind_eq_ok.mp h
  obtain ⟨header, hheader, h⟩ := Outcome.bind_eq_ok.mp h
  obtain ⟨⟨sources, mentioned⟩, hsources, h⟩ := Outcome.bind_eq_ok.mp h
  cases h
  exact ⟨declaration, header, sources, mentioned, hdeclaration, hheader, hsources, rfl⟩

/-- What is rendered for a planned object. -/
structure RenderedObject.IsOf (rendered : RenderedObject) (graph : Graph)
    (object : PlannedObject) : Prop where
  module : rendered.module = object.module
  paths : rendered.files.map (·.path) = graph.objectPaths object

theorem ObjectFiles.AreWritten.render {files : ObjectFiles} {graph : Graph}
    {object : PlannedObject} {names : NameRegistry} {usage : TypeUsage}
    {rendered : RenderedObject} (hfiles : files.AreWritten graph object)
    (h : files.render graph names usage = .ok rendered) : rendered.IsOf graph object := by
  obtain ⟨declaration, header, sources, mentioned, hdeclaration, -, hsources, rfl⟩ :=
    ObjectFiles.render_eq_ok hfiles.declaration.content h
  have hheader := hfiles.declaration.withHash hdeclaration
  have hpaths := map_path_renderDefinition
    (fun file hfile => (hfiles.definition file hfile).content) hsources
  refine ⟨hheader.module, ?_⟩
  rw [Graph.objectPaths, List.map_cons, hpaths, hheader.path_declaration,
    ← hfiles.definition_isSome]
  cases hdefinition : files.definition with
  | none => rfl
  | some file =>
      have hpath := (hfiles.definition file hdefinition).path_definition
      simp [hpath]

theorem isOf_of_areWritten {graph : Graph} {names : NameRegistry} {usage : TypeUsage}
    {planned : List PlannedObject} {written : List ObjectFiles} {rendered : List RenderedObject}
    (hwritten : List.Forall₂ (fun object files => files.AreWritten graph object) planned written)
    (hrendered : List.Forall₂ (fun files object => files.render graph names usage = .ok object)
      written rendered) :
    List.Forall₂ (fun object result => result.IsOf graph object) planned rendered := by
  induction hwritten generalizing rendered with
  | nil =>
      cases hrendered
      exact .nil
  | cons hfiles _ ih =>
      cases hrendered with
      | cons hobject hothers => exact .cons (hfiles.render hobject) (ih hothers)

/-! ## Modules -/

namespace ModuleReferences

theorem refers_recordObject {references : ModuleReferences} {object : RenderedObject}
    {module other : String} :
    Refers (references.recordObject object) module other ↔
      (module = object.module ∧ other ∈ object.references ∧ other ≠ "" ∧ other ≠ module) ∨
        references.Refers module other := by
  rw [recordObject]
  generalize object.references = mentioned
  induction mentioned generalizing references with
  | nil => simp
  | cons name rest ih =>
      rw [List.foldl_cons, ih, refers_record, List.mem_cons]
      constructor
      · rintro (⟨rfl, hrest, hempty, hself⟩ | ⟨rfl, rfl, hempty, hself⟩ | hbefore)
        · exact .inl ⟨rfl, .inr hrest, hempty, hself⟩
        · exact .inl ⟨rfl, .inl rfl, hempty, hself⟩
        · exact .inr hbefore
      · rintro (⟨rfl, rfl | hrest, hempty, hself⟩ | hbefore)
        · exact .inr (.inl ⟨rfl, rfl, hempty, hself⟩)
        · exact .inl ⟨rfl, hrest, hempty, hself⟩
        · exact .inr (.inr hbefore)

theorem mem_keys_recordObject {references : ModuleReferences} {object : RenderedObject}
    (hobject : object.module ∈ references.keys) (module : String) :
    module ∈ (references.recordObject object).keys ↔ module ∈ references.keys := by
  rw [recordObject]
  generalize object.references = mentioned
  induction mentioned generalizing references with
  | nil => rfl
  | cons name rest ih =>
      have hkeys : ∀ key, key ∈ (references.record object.module name).keys ↔
          key ∈ references.keys := by
        intro key
        rw [record, SortedMap.mem_keys_alter]
        constructor
        · rintro (rfl | hkey)
          · exact hobject
          · exact hkey
        · exact .inr
      rw [List.foldl_cons, ih ((hkeys _).mpr hobject), hkeys]

theorem refers_ensureAll {references : ModuleReferences} {planned : List PlannedObject}
    {module other : String} :
    Refers (planned.foldl (fun references object => references.ensure object.module) references)
      module other ↔ references.Refers module other := by
  induction planned generalizing references with
  | nil => exact Iff.rfl
  | cons object rest ih => rw [List.foldl_cons, ih, refers_ensure]

theorem mem_keys_ensureAll {references : ModuleReferences} {planned : List PlannedObject}
    {module : String} :
    module ∈ (planned.foldl
        (fun references object => references.ensure object.module) references).keys ↔
      module ∈ planned.map (·.module) ∨ module ∈ references.keys := by
  induction planned generalizing references with
  | nil => simp
  | cons object rest ih =>
      rw [List.foldl_cons, ih, ensure, SortedMap.mem_keys_alter, List.map_cons, List.mem_cons,
        or_assoc]
      exact or_left_comm

theorem refers_recordAll {references : ModuleReferences} {rendered : List RenderedObject}
    {module other : String} :
    (rendered.foldl recordObject references).Refers module other ↔
      (∃ object ∈ rendered, module = object.module ∧ other ∈ object.references ∧
        other ≠ "" ∧ other ≠ module) ∨ references.Refers module other := by
  induction rendered generalizing references with
  | nil => simp
  | cons object rest ih =>
      rw [List.foldl_cons, ih, refers_recordObject, List.exists_mem_cons_iff, or_assoc]
      exact or_left_comm

/-- Records add no module when every object lies in a module that has an entry. -/
theorem mem_keys_recordAll {references : ModuleReferences} {rendered : List RenderedObject}
    (hmodules : ∀ object ∈ rendered, object.module ∈ references.keys) {module : String} :
    module ∈ (rendered.foldl recordObject references).keys ↔ module ∈ references.keys := by
  induction rendered generalizing references with
  | nil => rfl
  | cons object rest ih =>
      have hkeys := mem_keys_recordObject (hmodules object List.mem_cons_self)
      have hrest : ∀ other ∈ rest, other.module ∈ (references.recordObject object).keys :=
        fun other hother => (hkeys _).mpr (hmodules other (List.mem_cons_of_mem object hother))
      rw [List.foldl_cons, ih hrest, hkeys]

end ModuleReferences

/-- A module refers to another one when a file of one of its objects mentions it. -/
theorem refers_moduleReferences {planned : List PlannedObject} {rendered : List RenderedObject}
    {module other : String} :
    (moduleReferences planned rendered).Refers module other ↔
      ∃ object ∈ rendered, module = object.module ∧ other ∈ object.references ∧
        other ≠ "" ∧ other ≠ module := by
  rw [moduleReferences, ModuleReferences.refers_recordAll, ModuleReferences.refers_ensureAll]
  exact or_iff_left (ModuleReferences.not_refers_empty module other)

/-- The modules of a dump are those that received files. -/
theorem mem_keys_moduleReferences {planned : List PlannedObject} {rendered : List RenderedObject}
    (hrendered : ∀ object ∈ rendered, object.module ∈ planned.map (·.module)) (module : String) :
    module ∈ (moduleReferences planned rendered).keys ↔ module ∈ planned.map (·.module) := by
  rw [moduleReferences, ModuleReferences.mem_keys_recordAll, ModuleReferences.mem_keys_ensureAll]
  · exact or_iff_left List.not_mem_nil
  · intro object hobject
    exact ModuleReferences.mem_keys_ensureAll.mpr (.inl (hrendered object hobject))

/-! ## Whole dumps -/

/-- The parts of a dump. -/
theorem generate_eq_ok {graph : Graph} {config : Config} {dump : Dump}
    (h : generate graph config = .ok dump) :
    ∃ names planned run written rendered,
      graph.plan config = .ok (names, planned) ∧
      synthesizeAll graph config.generator planned .empty = .ok (run, written) ∧
      List.Forall₂ (fun files object => files.render graph names run.usage = .ok object)
        written rendered ∧
      dump.files = rendered.flatMap (·.files) ++
        buildFiles config (moduleReferences planned rendered) ∧
      dump.modules = moduleReferences planned rendered := by
  rw [generate] at h
  obtain ⟨⟨names, planned⟩, hplan, h⟩ := Outcome.bind_eq_ok.mp h
  obtain ⟨⟨run, written⟩, hwritten, h⟩ := Outcome.bind_eq_ok.mp h
  obtain ⟨rendered, hrendered, h⟩ := Outcome.bind_eq_ok.mp h
  cases h
  exact ⟨names, planned, run, written, rendered, hplan, hwritten,
    Outcome.mapM_eq_ok.mp hrendered, rfl, rfl⟩

/-- Where the build descriptor of a module goes. -/
def descriptorPath (module : String) : String :=
  Path.join module (module ++ ".Build.cs")

/-- Where the source that registers a module goes. -/
def registrationPath (module : String) : String :=
  Path.join (Path.join module "Private") (module ++ "Module.cpp")

theorem map_path_buildFiles (config : Config) (references : ModuleReferences) :
    (buildFiles config references).map (·.path) =
      if config.output.buildFiles then
        references.keys.flatMap fun module => [descriptorPath module, registrationPath module]
      else [] := by
  rw [buildFiles]
  split
  · rw [List.map_flatMap]
    rfl
  · rfl

theorem map_path_rendered {graph : Graph} {planned : List PlannedObject}
    {rendered : List RenderedObject}
    (h : List.Forall₂ (fun object result => result.IsOf graph object) planned rendered) :
    (rendered.flatMap (·.files)).map (·.path) = planned.flatMap graph.objectPaths := by
  induction h with
  | nil => rfl
  | cons hobject _ ih =>
      rw [List.flatMap_cons, List.map_append, hobject.paths, ih, List.flatMap_cons]

/-- The paths of a dump, in order, and the modules that get build files. -/
theorem paths_of_generate {graph : Graph} {config : Config} {dump : Dump}
    (h : generate graph config = .ok dump) :
    ∃ names planned, graph.plan config = .ok (names, planned) ∧
      (∀ module, module ∈ dump.modules.keys ↔ module ∈ planned.map (·.module)) ∧
      dump.files.map (·.path) = planned.flatMap graph.objectPaths ++
        if config.output.buildFiles then
          dump.modules.keys.flatMap fun module => [descriptorPath module, registrationPath module]
        else [] := by
  obtain ⟨names, planned, run, written, rendered, hplan, hwritten, hrendered, hfiles, hmodules⟩ :=
    generate_eq_ok h
  have hobjects := isOf_of_areWritten (areWritten_synthesizeAll hwritten) hrendered
  refine ⟨names, planned, hplan, ?_, ?_⟩
  · rw [hmodules]
    apply mem_keys_moduleReferences
    intro object hobject
    obtain ⟨source, hsource, hof⟩ := Outcome.exists_related_of_mem
      (R := fun result source => result.IsOf graph source) hobjects.flip hobject
    rw [hof.module]
    exact List.mem_map_of_mem hsource
  · rw [hfiles, hmodules, List.map_append, map_path_rendered hobjects, map_path_buildFiles]

end HeaderSynth
