import HeaderSynth.Proofs.Dump.Files
import HeaderSynth.Proofs.Output.Paths
import HeaderSynth.Reflection.Validation
import Mathlib.Data.List.Flatten
import Mathlib.Data.List.Perm.Basic

/-!
# Paths of a dump

Modules and names come from outside and are joined to paths as they are.  A dump stays below
its root exactly when none of them leads elsewhere.  Its files have different paths when
modules and names are plain, with one exception: the source of an object can be the source
that registers its module, for which no name is claimed.
-/

namespace HeaderSynth

open HeaderSynth.Path (IsEnding IsInside IsBelow IsPlain components)

theorem isEnding_header : IsEnding ".h" :=
  ⟨by decide, by decide, by decide⟩

theorem isEnding_source : IsEnding ".cpp" :=
  ⟨by decide, by decide, by decide⟩

theorem isEnding_descriptor : IsEnding ".Build.cs" :=
  ⟨by decide, by decide, by decide⟩

theorem isEnding_registration : IsEnding "Module.cpp" :=
  ⟨by decide, by decide, by decide⟩

theorem module_ne_empty_of_plan {graph : Graph} {config : Config} {names : NameRegistry}
    {planned : List PlannedObject} (h : graph.plan config = .ok (names, planned)) :
    ∀ object ∈ planned, object.module ≠ "" :=
  fun object hobject => (Graph.moduleFor?_eq_some (Graph.mem_planObjects h object hobject).2).2

/-! ## Staying below the root -/

theorem isInside_join_folder {module : String} (hmodule : module ≠ "") {folder : String}
    (hfolder : folder ≠ "") (hinside : IsInside folder) (base : String) :
    IsInside (Path.join (Path.join module folder) base) ↔ IsInside module ∧ IsInside base := by
  rw [Path.isInside_join (Path.join_ne_empty hfolder module), Path.isInside_join hmodule]
  exact and_congr_left fun _ => and_iff_left hinside

theorem isInside_headerPath {object : PlannedObject} (hmodule : object.module ≠ "") :
    IsInside object.headerPath ↔
      IsInside object.module ∧ IsInside (object.baseName ++ ".h") :=
  isInside_join_folder hmodule (by decide) ⟨by decide, by decide⟩ _

theorem isInside_sourcePath {object : PlannedObject} (hmodule : object.module ≠ "") :
    IsInside object.sourcePath ↔
      IsInside object.module ∧ IsInside (object.baseName ++ ".h") := by
  rw [Path.isInside_append isEnding_header, ← Path.isInside_append isEnding_source]
  exact isInside_join_folder hmodule (by decide) ⟨by decide, by decide⟩ _

theorem isInside_descriptorPath {module : String} (hmodule : module ≠ "")
    (h : IsInside module) : IsInside (descriptorPath module) :=
  (Path.isInside_join hmodule _).mpr ⟨h, h.append isEnding_descriptor⟩

theorem isInside_registrationPath {module : String} (hmodule : module ≠ "")
    (h : IsInside module) : IsInside (registrationPath module) :=
  (isInside_join_folder hmodule (by decide) ⟨by decide, by decide⟩ _).mpr
    ⟨h, h.append isEnding_registration⟩

/-- Every file of a dump is that of an object or of a module. -/
theorem mem_paths {graph : Graph} {config : Config} {planned : List PlannedObject}
    {modules : List String} {path : String}
    (h : path ∈ planned.flatMap graph.objectPaths ++
      if config.output.buildFiles then
        modules.flatMap fun module => [descriptorPath module, registrationPath module]
      else []) :
    (∃ object ∈ planned, path = object.headerPath ∨ path = object.sourcePath) ∨
      ∃ module ∈ modules, path = descriptorPath module ∨ path = registrationPath module := by
  rcases List.mem_append.mp h with h | h
  · obtain ⟨object, hobject, hpath⟩ := List.mem_flatMap.mp h
    rcases List.mem_cons.mp hpath with rfl | hpath
    · exact .inl ⟨object, hobject, .inl rfl⟩
    · split_ifs at hpath
      · exact .inl ⟨object, hobject, .inr (List.mem_singleton.mp hpath)⟩
      · cases hpath
  · split_ifs at h
    · obtain ⟨module, hmodule, hpath⟩ := List.mem_flatMap.mp h
      exact .inr ⟨module, hmodule, by simpa using hpath⟩
    · cases h

/-- The file of a planned object or of its module: a named file in a directory, inside when the
module and the name are. -/
structure IsFileOf (path : String) (object : PlannedObject) : Prop where
  name : ∃ name, .name name ∈ components path
  inside : IsInside object.module → IsInside (object.baseName ++ ".h") → IsInside path

theorem exists_name_mem_components {first ending : String} (hfirst : first ≠ "")
    (h : IsEnding ending) (base : String) :
    ∃ name, .name name ∈ components (Path.join first (base ++ ending)) :=
  ⟨_, List.mem_of_getLast? (Path.getLast?_components_join hfirst h base)⟩

theorem isFileOf_headerPath {object : PlannedObject} (hempty : object.module ≠ "") :
    IsFileOf object.headerPath object :=
  ⟨exists_name_mem_components (Path.join_ne_empty (by decide) _) isEnding_header _,
    fun hmodule hname => (isInside_headerPath hempty).mpr ⟨hmodule, hname⟩⟩

theorem isFileOf_sourcePath {object : PlannedObject} (hempty : object.module ≠ "") :
    IsFileOf object.sourcePath object :=
  ⟨exists_name_mem_components (Path.join_ne_empty (by decide) _) isEnding_source _,
    fun hmodule hname => (isInside_sourcePath hempty).mpr ⟨hmodule, hname⟩⟩

theorem isFileOf_descriptorPath {object : PlannedObject} (hempty : object.module ≠ "") :
    IsFileOf (descriptorPath object.module) object :=
  ⟨exists_name_mem_components hempty isEnding_descriptor _,
    fun hmodule _ => isInside_descriptorPath hempty hmodule⟩

theorem isFileOf_registrationPath {object : PlannedObject} (hempty : object.module ≠ "") :
    IsFileOf (registrationPath object.module) object :=
  ⟨exists_name_mem_components (Path.join_ne_empty (by decide) _) isEnding_registration _,
    fun hmodule _ => isInside_registrationPath hempty hmodule⟩

/-- Every path of a dump is that of an object or of the module of an object. -/
theorem isFileOf_of_mem_paths {graph : Graph} {config : Config} {planned : List PlannedObject}
    {modules : List String} {path : String} (hempty : ∀ object ∈ planned, object.module ≠ "")
    (hmodules : ∀ module ∈ modules, module ∈ planned.map (·.module))
    (h : path ∈ planned.flatMap graph.objectPaths ++
      if config.output.buildFiles then
        modules.flatMap fun module => [descriptorPath module, registrationPath module]
      else []) :
    ∃ object ∈ planned, IsFileOf path object := by
  rcases mem_paths h with ⟨object, hobject, rfl | rfl⟩ | ⟨module, hmodule, hkind⟩
  · exact ⟨object, hobject, isFileOf_headerPath (hempty object hobject)⟩
  · exact ⟨object, hobject, isFileOf_sourcePath (hempty object hobject)⟩
  · obtain ⟨object, hobject, rfl⟩ := List.mem_map.mp (hmodules module hmodule)
    rcases hkind with rfl | rfl
    · exact ⟨object, hobject, isFileOf_descriptorPath (hempty object hobject)⟩
    · exact ⟨object, hobject, isFileOf_registrationPath (hempty object hobject)⟩

/-- A dump stays below its root exactly when no planned module and no planned name is
absolute or goes up. -/
theorem files_inside_iff {graph : Graph} {config : Config} {dump : Dump}
    (h : generate graph config = .ok dump) :
    ∃ names planned, graph.plan config = .ok (names, planned) ∧
      ((∀ file ∈ dump.files, IsInside file.path) ↔
        ∀ object ∈ planned, IsInside object.module ∧ IsInside (object.baseName ++ ".h")) ∧
      ∀ file ∈ dump.files,
        (IsInside file.path ↔ ∀ root, IsBelow root (Path.join root file.path)) := by
  obtain ⟨names, planned, hplan, hmodules, hpaths⟩ := paths_of_generate h
  have hempty := module_ne_empty_of_plan hplan
  have hfiles : ∀ file ∈ dump.files, ∃ object ∈ planned, IsFileOf file.path object := by
    intro file hfile
    have hpath := List.mem_map_of_mem (f := (·.path)) hfile
    rw [hpaths] at hpath
    exact isFileOf_of_mem_paths hempty (fun module => (hmodules module).mp) hpath
  refine ⟨names, planned, hplan, ⟨?_, ?_⟩, ?_⟩
  · intro hinside object hobject
    -- The header alone decides: it is always written and holds the module and the name.
    have hheader : object.headerPath ∈ dump.files.map (·.path) := by
      rw [hpaths]
      exact List.mem_append_left _ (List.mem_flatMap.mpr ⟨object, hobject, List.mem_cons_self⟩)
    obtain ⟨file, hfile, hpath⟩ := List.mem_map.mp hheader
    rw [← isInside_headerPath (hempty object hobject), ← hpath]
    exact hinside file hfile
  · intro hinside file hfile
    obtain ⟨object, hobject, hfileOf⟩ := hfiles file hfile
    exact hfileOf.inside (hinside object hobject).1 (hinside object hobject).2
  · intro file hfile
    obtain ⟨object, -, hfileOf⟩ := hfiles file hfile
    obtain ⟨name, hname⟩ := hfileOf.name
    exact Path.isInside_iff_isBelow hname

/-- An enumeration in a package whose module goes up. -/
def straySnapshot : Graph where
  objects := #[{ name := "EMode", package := "/Script/../Game", kind := .enumType {} }]

theorem files_inside_iff_straySnapshot :
    straySnapshot.fault? = none ∧ ∃ dump, generate straySnapshot {} = .ok dump ∧
      ∃ names planned, straySnapshot.plan {} = .ok (names, planned) ∧
        ((∀ file ∈ dump.files, IsInside file.path) ↔
          ∀ object ∈ planned, IsInside object.module ∧ IsInside (object.baseName ++ ".h")) ∧
        ∀ file ∈ dump.files,
          (IsInside file.path ↔ ∀ root, IsBelow root (Path.join root file.path)) :=
  ⟨by decide +kernel, _, rfl, files_inside_iff rfl⟩

/-- A valid snapshot can send a file out of every directory. -/
theorem straySnapshot_leaves_root :
    straySnapshot.fault? = none ∧ ∃ dump, generate straySnapshot {} = .ok dump ∧
      ∃ file ∈ dump.files, file.path = "../Game/Public/EMode.h" ∧ ¬IsInside file.path := by
  refine ⟨by decide +kernel, _, rfl, _, List.mem_cons_self, by decide +kernel, fun hinside => ?_⟩
  exact hinside.2 (by decide +kernel)

/-! ## Different paths -/

/-- No two files of a dump have the same path. -/
def Dump.HasDistinctPaths (dump : Dump) : Prop :=
  dump.files.Pairwise fun first second => Path.same first.path second.path = false

theorem Dump.hasDistinctPaths_iff (dump : Dump) :
    dump.HasDistinctPaths ↔ ((dump.files.map (·.path)).map components).Nodup := by
  rw [List.map_map, List.Nodup, List.pairwise_map, HasDistinctPaths]
  have hsame : ∀ first second : OutputFile, Path.same first.path second.path = false ↔
      (components ∘ (·.path)) first ≠ (components ∘ (·.path)) second := by
    intro first second
    rw [Path.same, decide_eq_false_iff_not]
    rfl
  simp only [hsame]

/-- The paths of the sources that a plan leads to. -/
def Graph.sourcePaths (graph : Graph) (planned : List PlannedObject) : List String :=
  (planned.filter fun object => graph.writesSource object.id).map (·.sourcePath)

theorem mem_sourcePaths {graph : Graph} {planned : List PlannedObject} {path : String} :
    path ∈ graph.sourcePaths planned ↔
      ∃ object ∈ planned, graph.writesSource object.id = true ∧ path = object.sourcePath := by
  simp only [Graph.sourcePaths, List.mem_map, List.mem_filter, and_assoc, eq_comm]

/-- The paths of a dump by the kind of file. -/
theorem perm_paths (graph : Graph) (planned : List PlannedObject) (modules : List String) :
    (planned.flatMap graph.objectPaths).Perm
        (planned.map (·.headerPath) ++ graph.sourcePaths planned) ∧
      (modules.flatMap fun module => [descriptorPath module, registrationPath module]).Perm
        (modules.map descriptorPath ++ modules.map registrationPath) := by
  have hsources : graph.sourcePaths planned = planned.flatMap fun object =>
      if graph.writesSource object.id then [object.sourcePath] else [] := by
    induction planned with
    | nil => rfl
    | cons object rest ih =>
        rw [Graph.sourcePaths] at ih ⊢
        rw [List.flatMap_cons, List.filter_cons, ← ih]
        split_ifs <;> rfl
  have hregistrations : modules.map registrationPath =
      modules.flatMap fun module => [registrationPath module] := List.map_eq_flatMap
  rw [hsources, hregistrations]
  exact ⟨(List.map_append_flatMap_perm _ _ _).symm, (List.map_append_flatMap_perm _ _ _).symm⟩

theorem components_ne_of_endChar? {first second : String}
    (h : Path.endChar? first ≠ Path.endChar? second) : components first ≠ components second := by
  intro hsame
  apply h
  rw [Path.endChar?, Path.endChar?, hsame]

theorem endChar?_headerPath (object : PlannedObject) :
    Path.endChar? object.headerPath = some 'h' :=
  Path.endChar?_join (Path.join_ne_empty (by decide) _) isEnding_header _

theorem endChar?_sourcePath (object : PlannedObject) :
    Path.endChar? object.sourcePath = some 'p' :=
  Path.endChar?_join (Path.join_ne_empty (by decide) _) isEnding_source _

theorem endChar?_descriptorPath {module : String} (h : module ≠ "") :
    Path.endChar? (descriptorPath module) = some 's' :=
  Path.endChar?_join h isEnding_descriptor _

theorem endChar?_registrationPath (module : String) :
    Path.endChar? (registrationPath module) = some 'p' :=
  Path.endChar?_join (Path.join_ne_empty (by decide) _) isEnding_registration _

theorem nodup_components_append {first second : List String}
    (h : ∀ path ∈ first, ∀ other ∈ second, Path.endChar? path ≠ Path.endChar? other) :
    ((first ++ second).map components).Nodup ↔
      (first.map components).Nodup ∧ (second.map components).Nodup := by
  rw [List.map_append, List.nodup_append, ← and_assoc, and_iff_left]
  intro location hfirst other hsecond
  obtain ⟨path, hpath, rfl⟩ := List.mem_map.mp hfirst
  obtain ⟨otherPath, hotherPath, rfl⟩ := List.mem_map.mp hsecond
  exact components_ne_of_endChar? (h path hpath otherPath hotherPath)

/-- The modules for which build files are written. -/
def Dump.builtModules (dump : Dump) (config : Config) : List String :=
  if config.output.buildFiles then dump.modules.keys else []

/-- Paths of different kinds differ by how they end, but for sources and registrations. -/
theorem nodup_paths_iff {graph : Graph} {planned : List PlannedObject} {modules : List String}
    (hmodules : ∀ module ∈ modules, module ≠ "") :
    ((planned.flatMap graph.objectPaths ++
        modules.flatMap fun module => [descriptorPath module, registrationPath module]).map
          components).Nodup ↔
      ((planned.map (·.headerPath)).map components).Nodup ∧
      ((modules.map descriptorPath).map components).Nodup ∧
      ((graph.sourcePaths planned ++ modules.map registrationPath).map components).Nodup := by
  obtain ⟨hobjects, hbuild⟩ := perm_paths graph planned modules
  have hperm : (planned.flatMap graph.objectPaths ++
      modules.flatMap fun module => [descriptorPath module, registrationPath module]).Perm
      (planned.map (·.headerPath) ++ (modules.map descriptorPath ++
        (graph.sourcePaths planned ++ modules.map registrationPath))) := by
    refine (hobjects.append hbuild).trans ?_
    rw [List.append_assoc]
    refine List.Perm.append_left _ ?_
    rw [← List.append_assoc, ← List.append_assoc]
    exact List.perm_append_comm.append_right _
  have hsources : ∀ path ∈ graph.sourcePaths planned ++ modules.map registrationPath,
      Path.endChar? path = some 'p' := by
    intro path hpath
    rcases List.mem_append.mp hpath with hpath | hpath
    · obtain ⟨object, -, -, rfl⟩ := mem_sourcePaths.mp hpath
      exact endChar?_sourcePath object
    · obtain ⟨module, -, rfl⟩ := List.mem_map.mp hpath
      exact endChar?_registrationPath module
  have hdescriptors : ∀ path ∈ modules.map descriptorPath, Path.endChar? path = some 's' := by
    intro path hpath
    obtain ⟨module, hmodule, rfl⟩ := List.mem_map.mp hpath
    exact endChar?_descriptorPath (hmodules module hmodule)
  rw [(hperm.map components).nodup_iff, nodup_components_append, nodup_components_append]
  · intro path hpath other hother
    rw [hdescriptors path hpath, hsources other hother]
    decide
  · intro path hpath other hother
    obtain ⟨object, -, rfl⟩ := List.mem_map.mp hpath
    rw [endChar?_headerPath]
    rcases List.mem_append.mp hother with hother | hother
    · rw [hdescriptors other hother]
      decide
    · rw [hsources other hother]
      decide

/-! ## Plain names -/

theorem components_join_folder {module folder name ending : String} (hempty : module ≠ "")
    (hmodule : IsPlain module) (hfolder : folder ≠ "") (hrelative : Path.isAbsolute folder = false)
    (hname : IsPlain name) (hending : IsEnding ending) :
    components (Path.join (Path.join module folder) (name ++ ending)) =
      Path.ofName module :: (Path.inner folder ++ [.name (name ++ ending)]) := by
  rw [Path.components_join_of_isPlain (Path.join_ne_empty hfolder _) hname hending,
    Path.components_join hempty hrelative, Path.components_of_isPlain hmodule hempty]
  rfl

theorem components_sourcePath {object : PlannedObject} (hempty : object.module ≠ "")
    (hmodule : IsPlain object.module) (hname : IsPlain object.baseName) :
    components object.sourcePath =
      [Path.ofName object.module, .name "Private", .name (object.baseName ++ ".cpp")] :=
  components_join_folder hempty hmodule (by decide) rfl hname isEnding_source

theorem components_registrationPath {module : String} (hempty : module ≠ "")
    (hmodule : IsPlain module) :
    components (registrationPath module) =
      [Path.ofName module, .name "Private", .name (module ++ "Module.cpp")] :=
  components_join_folder hempty hmodule (by decide) rfl hmodule isEnding_registration

theorem append_ending_injective {first second ending : String}
    (h : first ++ ending = second ++ ending) : first = second := by
  have htext := congrArg String.toList h
  rw [String.toList_append, String.toList_append] at htext
  exact String.toList_inj.mp (List.append_cancel_right htext)

/-- A source of a plain name is the registration of a module exactly when it lies there and
has the name of the registration. -/
theorem sourcePath_eq_registrationPath_iff {object : PlannedObject} {module : String}
    (hempty : object.module ≠ "") (hobject : IsPlain object.module)
    (hname : IsPlain object.baseName) (hmodule : module ≠ "") (hplain : IsPlain module) :
    components object.sourcePath = components (registrationPath module) ↔
      object.module = module ∧ object.baseName = object.module ++ "Module" := by
  have hending : module ++ "Module.cpp" = module ++ "Module" ++ ".cpp" := by
    rw [String.append_assoc]
    rfl
  rw [components_sourcePath hempty hobject hname, components_registrationPath hmodule hplain]
  constructor
  · intro hsame
    simp only [List.cons.injEq, Path.Component.name.injEq, and_true, true_and] at hsame
    obtain rfl := Path.ofName_injective hsame.1
    rw [hending] at hsame
    exact ⟨rfl, append_ending_injective hsame.2⟩
  · rintro ⟨rfl, hbase⟩
    rw [hbase, hending]

/-- The modules and names of all planned objects are plain. -/
def IsPlainPlan (planned : List PlannedObject) : Prop :=
  ∀ object ∈ planned, object.module ≠ "" ∧ IsPlain object.module ∧ IsPlain object.baseName

/-- Files whose plain names differ have different paths, whatever directories they lie in. -/
theorem nodup_components_join {α : Type} {items : List α} {directory name : α → String}
    {ending : String} (hending : IsEnding ending) (hnames : (items.map name).Nodup)
    (hitems : ∀ item ∈ items, directory item ≠ "" ∧ IsPlain (name item)) :
    ((items.map fun item => Path.join (directory item) (name item ++ ending)).map
      components).Nodup := by
  rw [List.map_map]
  refine (hnames.of_map _).map_on fun item hitem other hother hsame => ?_
  obtain ⟨hdirectory, hname⟩ := hitems item hitem
  obtain ⟨hdirectory', hname'⟩ := hitems other hother
  apply List.inj_on_of_nodup_map hnames hitem hother
  simp only [Function.comp_apply,
    Path.components_join_of_isPlain hdirectory hname hending,
    Path.components_join_of_isPlain hdirectory' hname' hending] at hsame
  have hlast := List.append_inj_right' hsame rfl
  simp only [List.cons.injEq, Path.Component.name.injEq, and_true] at hlast
  exact append_ending_injective hlast

theorem nodup_headerPath {planned : List PlannedObject} (hplain : IsPlainPlan planned)
    (hnames : (planned.map (·.baseName)).Nodup) :
    ((planned.map (·.headerPath)).map components).Nodup :=
  nodup_components_join isEnding_header hnames fun object hobject =>
    ⟨Path.join_ne_empty (by decide) _, (hplain object hobject).2.2⟩

theorem nodup_sourcePaths (graph : Graph) {planned : List PlannedObject}
    (hplain : IsPlainPlan planned) (hnames : (planned.map (·.baseName)).Nodup) :
    ((graph.sourcePaths planned).map components).Nodup := by
  have hsources : ((planned.filter fun object => graph.writesSource object.id).map
      (·.baseName)).Nodup := hnames.sublist (List.filter_sublist.map _)
  refine nodup_components_join isEnding_source hsources fun object hobject => ?_
  exact ⟨Path.join_ne_empty (by decide) _, (hplain object (List.mem_of_mem_filter hobject)).2.2⟩

theorem nodup_modulePaths {modules : List String} (hnodup : modules.Nodup)
    (hmodules : ∀ module ∈ modules, module ≠ "" ∧ IsPlain module) :
    ((modules.map descriptorPath).map components).Nodup ∧
      ((modules.map registrationPath).map components).Nodup := by
  have hnames : (modules.map id).Nodup := by rwa [List.map_id]
  constructor
  · exact nodup_components_join isEnding_descriptor hnames hmodules
  · exact nodup_components_join isEnding_registration hnames fun module hmodule =>
      ⟨Path.join_ne_empty (by decide) _, (hmodules module hmodule).2⟩

/-- With plain names only a source and a registration can meet. -/
theorem nodup_plain_paths_iff {graph : Graph} {planned : List PlannedObject}
    {modules : List String} (hplain : IsPlainPlan planned)
    (hnames : (planned.map (·.baseName)).Nodup) (hnodup : modules.Nodup)
    (hmodules : ∀ module ∈ modules, module ∈ planned.map (·.module)) :
    ((planned.flatMap graph.objectPaths ++
        modules.flatMap fun module => [descriptorPath module, registrationPath module]).map
          components).Nodup ↔
      ∀ object ∈ planned, graph.writesSource object.id = true → object.module ∈ modules →
        object.baseName ≠ object.module ++ "Module" := by
  have hmodule : ∀ module ∈ modules, module ≠ "" ∧ IsPlain module := by
    intro module hmodule
    obtain ⟨object, hobject, rfl⟩ := List.mem_map.mp (hmodules module hmodule)
    exact ⟨(hplain object hobject).1, (hplain object hobject).2.1⟩
  obtain ⟨hdescriptors, hregistrations⟩ := nodup_modulePaths hnodup hmodule
  have hheaders := nodup_headerPath hplain hnames
  have hsources := nodup_sourcePaths graph hplain hnames
  rw [nodup_paths_iff fun module hmem => (hmodule module hmem).1, and_iff_right hheaders,
    and_iff_right hdescriptors, List.map_append, List.nodup_append, and_iff_right hsources,
    and_iff_right hregistrations]
  constructor
  · intro hdisjoint object hobject hsource hmem hbase
    obtain ⟨hempty, hplainModule, hname⟩ := hplain object hobject
    refine hdisjoint _ (List.mem_map_of_mem (mem_sourcePaths.mpr ⟨object, hobject, hsource, rfl⟩))
      _ (List.mem_map_of_mem (List.mem_map_of_mem hmem)) ?_
    exact (sourcePath_eq_registrationPath_iff hempty hplainModule hname hempty hplainModule).mpr
      ⟨rfl, hbase⟩
  · intro hbase location hlocation other hother hsame
    obtain ⟨path, hpath, rfl⟩ := List.mem_map.mp hlocation
    obtain ⟨object, hobject, hsource, rfl⟩ := mem_sourcePaths.mp hpath
    obtain ⟨otherPath, hotherPath, rfl⟩ := List.mem_map.mp hother
    obtain ⟨module, hmem, rfl⟩ := List.mem_map.mp hotherPath
    obtain ⟨hempty, hplainModule, hname⟩ := hplain object hobject
    obtain ⟨rfl, hclash⟩ := (sourcePath_eq_registrationPath_iff hempty hplainModule hname
      (hmodule module hmem).1 (hmodule module hmem).2).mp hsame
    exact hbase object hobject hsource hmem hclash

/-- The files of a dump have different paths exactly when the headers, the build descriptors
and all sources have.  Where names are plain, that fails only for an object with a source
whose name is that of the registration of its module. -/
theorem hasDistinctPaths_of_generate_iff {graph : Graph} {config : Config} {dump : Dump}
    (h : generate graph config = .ok dump) :
    ∃ names planned, graph.plan config = .ok (names, planned) ∧
      (dump.HasDistinctPaths ↔
        ((planned.map (·.headerPath)).map components).Nodup ∧
        (((dump.builtModules config).map descriptorPath).map components).Nodup ∧
        ((graph.sourcePaths planned ++ (dump.builtModules config).map registrationPath).map
          components).Nodup) ∧
      ((∀ object ∈ planned, IsPlain object.module ∧ IsPlain object.baseName) →
        (dump.HasDistinctPaths ↔ ¬(config.output.buildFiles = true ∧
          ∃ object ∈ planned, graph.writesSource object.id = true ∧
            object.baseName = object.module ++ "Module"))) := by
  obtain ⟨names, planned, hplan, hmodules, hpaths⟩ := paths_of_generate h
  have hempty := module_ne_empty_of_plan hplan
  have hbuilt : ∀ module ∈ dump.builtModules config, module ∈ planned.map (·.module) := by
    intro module hmodule
    rw [Dump.builtModules] at hmodule
    split_ifs at hmodule
    · exact (hmodules module).mp hmodule
    · cases hmodule
  have hlist : dump.files.map (·.path) = planned.flatMap graph.objectPaths ++
      (dump.builtModules config).flatMap
        fun module => [descriptorPath module, registrationPath module] := by
    rw [hpaths, Dump.builtModules]
    split_ifs <;> rfl
  refine ⟨names, planned, hplan, ?_, ?_⟩
  · rw [Dump.hasDistinctPaths_iff, hlist, nodup_paths_iff]
    intro module hmodule
    obtain ⟨object, hobject, rfl⟩ := List.mem_map.mp (hbuilt module hmodule)
    exact hempty object hobject
  · intro hplain
    have hplan' : IsPlainPlan planned := fun object hobject =>
      ⟨hempty object hobject, hplain object hobject⟩
    have hnodup : (dump.builtModules config).Nodup := by
      rw [Dump.builtModules]
      split_ifs
      · exact dump.modules.nodup_keys
      · exact List.nodup_nil
    rw [Dump.hasDistinctPaths_iff, hlist,
      nodup_plain_paths_iff hplan' (Graph.records_plan hplan).nodup hnodup hbuilt]
    constructor
    · rintro hdistinct ⟨hbuild, object, hobject, hsource, hbase⟩
      refine hdistinct object hobject hsource ?_ hbase
      rw [Dump.builtModules, if_pos hbuild, hmodules]
      exact List.mem_map_of_mem hobject
    · intro hclash object hobject hsource hmem hbase
      rw [Dump.builtModules] at hmem
      split_ifs at hmem with hbuild
      · exact hclash ⟨hbuild, object, hobject, hsource, hbase⟩
      · cases hmem

/-- An aggregate with the name of the registration of its module. -/
def moduleNamesake : Graph where
  objects := #[
    { name := "GameModule", package := "/Script/Game",
      kind := .structType { flags := StructFlags.native } }]

theorem hasDistinctPaths_of_generate_iff_moduleNamesake :
    ∃ dump, generate moduleNamesake {} = .ok dump ∧
      ∃ names planned, moduleNamesake.plan {} = .ok (names, planned) ∧
        (dump.HasDistinctPaths ↔
          ((planned.map (·.headerPath)).map components).Nodup ∧
          (((dump.builtModules {}).map descriptorPath).map components).Nodup ∧
          ((moduleNamesake.sourcePaths planned ++
            (dump.builtModules {}).map registrationPath).map components).Nodup) ∧
        ((∀ object ∈ planned, IsPlain object.module ∧ IsPlain object.baseName) →
          (dump.HasDistinctPaths ↔ ¬(({} : Config).output.buildFiles = true ∧
            ∃ object ∈ planned, moduleNamesake.writesSource object.id = true ∧
              object.baseName = object.module ++ "Module"))) :=
  ⟨_, rfl, hasDistinctPaths_of_generate_iff rfl⟩

/-- The source of the aggregate and the registration overwrite each other. -/
theorem moduleNamesake_repeats_path :
    ∃ dump, generate moduleNamesake {} = .ok dump ∧
      dump.files.map (·.path) = ["Game/Public/GameModule.h", "Game/Private/GameModule.cpp",
        "Game/Game.Build.cs", "Game/Private/GameModule.cpp"] ∧
      ¬dump.HasDistinctPaths := by
  have hpaths : ∃ dump, generate moduleNamesake {} = .ok dump ∧
      dump.files.map (·.path) = ["Game/Public/GameModule.h", "Game/Private/GameModule.cpp",
        "Game/Game.Build.cs", "Game/Private/GameModule.cpp"] :=
    ⟨_, rfl, by decide +kernel⟩
  obtain ⟨dump, hdump, hpaths⟩ := hpaths
  refine ⟨dump, hdump, hpaths, ?_⟩
  rw [Dump.hasDistinctPaths_iff, hpaths]
  decide

end HeaderSynth
