import HeaderSynth.Proofs.Dump.Files

/-!
# Inclusions

A header has one line for every type that it needs in full and that another header of a
module declares: the include of that header, or a stub that names the other module.  A
dependency is taken for the header's own type only by its name, and names are unique among
the planned objects.  So a line is missing exactly where a type that gets no files happens
to have the name of the header that needs it.
-/

namespace HeaderSynth

theorem Dependencies.mem_withLevel_of_level {dependencies : Dependencies} {id : ObjectId}
    (h : dependencies.level id = .full) : id ∈ dependencies.withLevel .full := by
  rw [level, SortedMap.get?] at h
  cases hfind : dependencies.toList.find? (·.1 = id) with
  | none =>
      rw [hfind] at h
      cases h
  | some entry =>
      rw [hfind] at h
      have hid : entry.1 = id := by simpa using List.find?_some hfind
      have hlevel : entry.2 = .full := h
      rw [withLevel, List.mem_map]
      refine ⟨entry, List.mem_filter.mpr ⟨List.mem_of_find?_eq_some hfind, ?_⟩, hid⟩
      simp [hlevel]

/-! ## Names -/

/-- The name of the header of `owner`: the planned one, or for an object that gets no files
the `name` that it has in the graph. -/
def IsHeaderName (planned : List PlannedObject) (owner : ObjectId) (name header : String) : Prop :=
  (∃ object ∈ planned, object.id = owner ∧ header = object.baseName) ∨
    IsUnplanned planned owner ∧ header = name

theorem NameRegistry.Records.isHeaderName_existing {names : NameRegistry} {graph : Graph}
    {planned : List PlannedObject} (h : names.Records graph planned) {owner : ObjectId}
    {name : String} (hname : graph.headerName owner = .ok name) :
    IsHeaderName planned owner name (names.existing name owner) := by
  by_cases hplanned : IsUnplanned planned owner
  · exact .inr ⟨hplanned, h.existing_of_isUnplanned hplanned name⟩
  · simp only [IsUnplanned, not_forall, not_not] at hplanned
    obtain ⟨other, hother, rfl⟩ := hplanned
    exact .inl (h.existing other hother name hname)

/-- A type goes by the name of a header that is not its own only if it gets no files. -/
theorem NameRegistry.Records.existing_eq_baseName_iff {names : NameRegistry} {graph : Graph}
    {planned : List PlannedObject} (h : names.Records graph planned) {object : PlannedObject}
    (hobject : object ∈ planned) {owner : ObjectId} (howner : owner ≠ object.id) {name : String}
    (hname : graph.headerName owner = .ok name) :
    names.existing name owner = object.baseName ↔
      IsUnplanned planned owner ∧ name = object.baseName := by
  rcases h.isHeaderName_existing hname with ⟨same, hsame, rfl, hexisting⟩ | ⟨hplanned, hexisting⟩
  · rw [hexisting]
    constructor
    · intro hbase
      have hequal : same = object := List.inj_on_of_nodup_map h.nodup hsame hobject hbase
      exact absurd (congrArg PlannedObject.id hequal) howner
    · exact fun hclash => absurd rfl (hclash.1 same hsame)
  · rw [hexisting]
    exact (and_iff_right hplanned).symm

/-! ## Lines -/

/-- The include of a header of the same module. -/
def includeLine (header : String) : String :=
  s!"#include \"{header}.h\""

/-- The stub for a header of another module. -/
def stubLine (module object header : String) : String :=
  s!"//CROSS-MODULE INCLUDE V2: -ModuleName={module} -ObjectName={object}" ++
    s!" -FallbackName={header}"

/-- Nothing is written for a header that goes by the name of the file itself, that the file's
declaration includes, or that lies outside all modules. -/
def SourceFile.Omits (graph : Graph) (file : SourceFile) (declaration : Option SourceFile)
    (id : ObjectId) (header : String) : Prop :=
  header = file.baseName ∨
    (∃ included ∈ declaration, included.dependencies.level id = .full) ∨ graph.moduleName id = ""

/-- The three outcomes for a dependency. -/
theorem SourceFile.includeOf_eq_ok {graph : Graph} {names : NameRegistry} {file : SourceFile}
    {declaration : Option SourceFile} {id : ObjectId} {mention : Mention}
    (h : includeOf graph names file declaration id = .ok mention) :
    ∃ name header, graph.headerName (graph.headerOwner id) = .ok name ∧
      header = names.existing name (graph.headerOwner id) ∧
      (file.Omits graph declaration id header ∧ mention = {} ∨
        ¬file.Omits graph declaration id header ∧ graph.moduleName id = file.module ∧
          mention = { lines := [includeLine header] } ∨
        ¬file.Omits graph declaration id header ∧ graph.moduleName id ≠ file.module ∧
          ∃ top, graph.object? (graph.topLevel id) = some top ∧
            mention = {
              lines := [stubLine (graph.moduleName id) top.name header]
              modules := [graph.moduleName id] }) := by
  obtain ⟨name, hname, h⟩ := Outcome.bind_eq_ok.mp h
  have hany : (∃ included ∈ declaration, included.dependencies.level id = .full) ↔
      declaration.any (fun header => header.dependencies.level id = .full) = true := by
    cases declaration with
    | none => simp
    | some included => simp
  refine ⟨name, _, hname, rfl, ?_⟩
  rw [Omits, hany]
  dsimp only at h
  split_ifs at h with hown hincluded hempty hsame
  · cases h
    exact .inl ⟨.inl hown, rfl⟩
  · cases h
    exact .inl ⟨.inr (.inl hincluded), rfl⟩
  · cases h
    exact .inl ⟨.inr (.inr hempty), rfl⟩
  · cases h
    exact .inr (.inl ⟨not_or.mpr ⟨hown, not_or.mpr ⟨hincluded, hempty⟩⟩, hsame, rfl⟩)
  · obtain ⟨top, htop, h⟩ := Outcome.bind_eq_ok.mp h
    cases h
    exact .inr (.inr ⟨not_or.mpr ⟨hown, not_or.mpr ⟨hincluded, hempty⟩⟩, hsame, top,
      Graph.get_eq_ok.mp htop, rfl⟩)

/-- The lines that a file has for a type that it needs in full. -/
def SourceFile.inclusionLines (graph : Graph) (names : NameRegistry) (file : SourceFile)
    (declaration : Option SourceFile) (id : ObjectId) : List String :=
  match includeOf graph names file declaration id with
  | .ok mention => mention.lines
  | .error _ => []

/-- The lines that declare a type by its name. -/
def Graph.forwardLines (graph : Graph) (id : ObjectId) : List String :=
  match (graph.object? id).map Object.kind with
  | some (.classType _) => [s!"class {graph.className id};"]
  | some (.interfaceType _) => [s!"class {graph.className id};", s!"class {graph.contractName id};"]
  | some (.structType _) => [s!"struct {graph.structName id};"]
  | _ => []

/-- The text of a file: what it includes, what it declares by name, and its body. -/
def SourceFile.text (graph : Graph) (names : NameRegistry) (file : SourceFile)
    (declaration : Option SourceFile) : String :=
  let forward := joinLines ((file.dependencies.withLevel .forward).flatMap graph.forwardLines)
  joinLines (file.openingLines declaration ++
      (file.dependencies.withLevel .full).flatMap
        (file.inclusionLines graph names declaration) ++
      file.closingLines) ++ "\n" ++
    (if forward.isEmpty then "" else forward ++ "\n") ++
    (if file.body.isEmpty then "" else file.body ++ "\n")

/-- A type that is declared by its name has at least one line. -/
theorem SourceFile.forwardOf_eq_ok {graph : Graph} {file : SourceFile} {id : ObjectId}
    {mention : Mention} (h : forwardOf graph file id = .ok mention) :
    graph.forwardLines id ≠ [] ∧ mention = {
      lines := graph.forwardLines id
      modules := if graph.moduleName id = "" ∨ graph.moduleName id = file.module then []
        else [graph.moduleName id] } := by
  obtain ⟨object, hobject, h⟩ := Outcome.bind_eq_ok.mp h
  rw [Graph.forwardLines, Graph.get_eq_ok.mp hobject, Option.map_some]
  dsimp only at h
  split at h
  case h_4 => cases h
  all_goals
    rename_i hkind
    cases h
    simp [hkind]

/-- A rendered file is put together from what its dependencies yield. -/
theorem SourceFile.render_eq_ok {graph : Graph} {names : NameRegistry} {file : SourceFile}
    {declaration : Option SourceFile} {rendered : Rendered}
    (h : file.render graph names declaration = .ok rendered) :
    rendered.text = file.text graph names declaration ∧
      ∃ included forward,
        List.Forall₂ (fun id mention => includeOf graph names file declaration id = .ok mention)
          (file.dependencies.withLevel .full) included ∧
        List.Forall₂ (fun id mention => forwardOf graph file id = .ok mention)
          (file.dependencies.withLevel .forward) forward ∧
        ∀ module, module ∈ rendered.modules ↔
          ∃ mention ∈ included ++ forward, module ∈ mention.modules := by
  rw [render] at h
  obtain ⟨included, hincluded, h⟩ := Outcome.bind_eq_ok.mp h
  obtain ⟨forward, hforward, h⟩ := Outcome.bind_eq_ok.mp h
  cases h
  rw [Outcome.mapM_eq_ok] at hincluded hforward
  have hinclusions : included.flatMap (·.lines) = (file.dependencies.withLevel .full).flatMap
      (file.inclusionLines graph names declaration) := by
    apply Outcome.flatMap_eq_of_forall₂
    exact hincluded.imp fun id mention hmention => by rw [inclusionLines, hmention]
  have hdeclared : forward.flatMap (·.lines) =
      (file.dependencies.withLevel .forward).flatMap graph.forwardLines := by
    apply Outcome.flatMap_eq_of_forall₂
    exact hforward.imp fun id mention hmention => by rw [(forwardOf_eq_ok hmention).2]
  refine ⟨?_, included, forward, hincluded, hforward, ?_⟩
  · simp only [text, hinclusions, hdeclared]
  · intro module
    rw [SortedSet.mem_ofList, List.mem_flatMap]

/-! ## Headers of a dump -/

/-- What the lines for a dependency are.  There are none exactly when the dependency gets no
files and has the name of the header; otherwise there is one, and another module is named in
it and recorded. -/
def IsInclusion (graph : Graph) (planned : List PlannedObject) (modules : ModuleReferences)
    (object : PlannedObject) (id : ObjectId) (lines : List String) : Prop :=
  ∃ name header, graph.headerName (graph.headerOwner id) = .ok name ∧
    IsHeaderName planned (graph.headerOwner id) name header ∧
    (lines = [] ↔ IsUnplanned planned (graph.headerOwner id) ∧ name = object.baseName) ∧
    (lines ≠ [] → graph.moduleName id = object.module → lines = [includeLine header]) ∧
    (lines ≠ [] → graph.moduleName id ≠ object.module →
      modules.Refers object.module (graph.moduleName id) ∧
      ∃ top, graph.object? (graph.topLevel id) = some top ∧
        lines = [stubLine (graph.moduleName id) top.name header])

theorem isInclusion_inclusionLines {graph : Graph} {names : NameRegistry}
    {planned : List PlannedObject} {modules : ModuleReferences} {object : PlannedObject}
    {file : SourceFile} {id : ObjectId} {mention : SourceFile.Mention}
    (hnames : names.Records graph planned) (hobject : object ∈ planned)
    (hfile : file.IsWritten object.id object.module object.baseName .declaration)
    (hmention : SourceFile.includeOf graph names file none id = .ok mention)
    (hmodules : ∀ module ∈ mention.modules, module ≠ "" → module ≠ object.module →
      modules.Refers object.module module)
    (howner : graph.headerOwner id ≠ object.id) (hmodule : graph.moduleName id ≠ "") :
    IsInclusion graph planned modules object id (file.inclusionLines graph names none id) := by
  obtain ⟨name, header, hname, hheader, houtcome⟩ := SourceFile.includeOf_eq_ok hmention
  have hclash : file.Omits graph none id header ↔
      IsUnplanned planned (graph.headerOwner id) ∧ name = object.baseName := by
    rw [SourceFile.Omits, hheader, hfile.baseName,
      ← hnames.existing_eq_baseName_iff hobject howner hname]
    simp [hmodule]
  have hlines : file.inclusionLines graph names none id = mention.lines := by
    rw [SourceFile.inclusionLines, hmention]
  rw [hfile.module] at houtcome
  rw [hlines]
  refine ⟨name, header, hname, hheader ▸ hnames.isHeaderName_existing hname, ?_⟩
  rcases houtcome with ⟨hown, rfl⟩ | ⟨hown, hsame, rfl⟩ | ⟨hown, hother, top, htop, rfl⟩
  · exact ⟨iff_of_true rfl (hclash.mp hown), by simp, by simp⟩
  · exact ⟨iff_of_false (by simp) (hown ∘ hclash.mpr), fun _ _ => rfl,
      fun _ hother => absurd hsame hother⟩
  · refine ⟨iff_of_false (by simp) (hown ∘ hclash.mpr), fun _ hsame => absurd hsame hother, ?_⟩
    intro _ _
    exact ⟨hmodules _ (List.mem_singleton_self _) hmodule hother, top, htop, rfl⟩

/-- The header of `object` in a dump, with a line for each dependency. -/
def Dump.HasInclusions (dump : Dump) (graph : Graph) (planned : List PlannedObject)
    (object : PlannedObject) (declaration : SourceFile) : Prop :=
  ∃ output ∈ dump.files, output.path = object.headerPath ∧
    ∃ (lines : ObjectId → List String) (rest : String),
      output.contents = SourceFile.joinLines (declaration.openingLines none ++
        (declaration.dependencies.withLevel .full).flatMap lines ++
        declaration.closingLines) ++ rest ∧
      ∀ id, declaration.dependencies.level id = .full →
        graph.headerOwner id ≠ object.id → graph.moduleName id ≠ "" →
        id ∈ declaration.dependencies.withLevel .full ∧
          IsInclusion graph planned dump.modules object id (lines id)

theorem Dump.hasInclusions_of_render {dump : Dump} {graph : Graph} {names : NameRegistry}
    {planned : List PlannedObject} {usage : TypeUsage} {object : PlannedObject}
    {files : ObjectFiles} {result : RenderedObject} (hnames : names.Records graph planned)
    (hobject : object ∈ planned) (hfiles : files.AreWritten graph object)
    (hrender : files.render graph names usage = .ok result)
    (houtput : ∀ output ∈ result.files, output ∈ dump.files)
    (hmodules : ∀ module ∈ result.references, module ≠ "" → module ≠ object.module →
      dump.modules.Refers object.module module) :
    dump.HasInclusions graph planned object files.declaration := by
  obtain ⟨declaration, header, sources, mentioned, hdeclaration, hheader, -, rfl⟩ :=
    ObjectFiles.render_eq_ok hfiles.declaration.content hrender
  have hfile := hfiles.declaration.withHash hdeclaration
  obtain ⟨htext, included, forward, hincluded, -, hmentioned⟩ := SourceFile.render_eq_ok hheader
  -- The line of a hash goes to the body, behind everything that is said here.
  have hopening : declaration.openingLines none = files.declaration.openingLines none ∧
      declaration.closingLines = files.declaration.closingLines ∧
      declaration.dependencies = files.declaration.dependencies := by
    rcases SourceFile.withHash_eq_ok hdeclaration with rfl | ⟨line, rfl⟩
    · exact ⟨rfl, rfl, rfl⟩
    · exact ⟨rfl, rfl, rfl⟩
  rw [SourceFile.text, hopening.1, hopening.2.1, hopening.2.2, String.append_assoc,
    String.append_assoc] at htext
  rw [hopening.2.2] at hincluded
  refine ⟨_, houtput _ List.mem_cons_self, hfile.path_declaration,
    declaration.inclusionLines graph names none, _, htext, ?_⟩
  intro id hlevel howner hmodule
  have hid := Dependencies.mem_withLevel_of_level hlevel
  obtain ⟨mention, hmem, hmention⟩ := Outcome.exists_related_of_mem hincluded hid
  refine ⟨hid, isInclusion_inclusionLines hnames hobject hfile hmention ?_ howner hmodule⟩
  intro module hmodule
  have hheaderModule : module ∈ header.modules :=
    (hmentioned module).mpr ⟨mention, List.mem_append_left forward hmem, hmodule⟩
  exact hmodules module (List.mem_append_left mentioned hheaderModule)

/-- Every header has the line for each type that it needs in full, unless that type gets no
files and has the name of the header. -/
theorem inclusions_of_generate {graph : Graph} {config : Config} {dump : Dump}
    (h : generate graph config = .ok dump) :
    ∃ names planned run written,
      graph.plan config = .ok (names, planned) ∧
      synthesizeAll graph config.generator planned .empty = .ok (run, written) ∧
      List.Forall₂ (fun object files =>
        dump.HasInclusions graph planned object files.declaration) planned written := by
  obtain ⟨names, planned, run, written, rendered, hplan, hwritten, hrendered, hfiles, hmodules⟩ :=
    generate_eq_ok h
  have hareWritten := areWritten_synthesizeAll hwritten
  refine ⟨names, planned, run, written, hplan, hwritten, ?_⟩
  refine List.forall₂_iff_zip.mpr ⟨hareWritten.length_eq, fun {object files} hpair => ?_⟩
  have hobjectFiles := List.forall₂_zip hareWritten hpair
  obtain ⟨hobject, hmem⟩ := List.of_mem_zip hpair
  obtain ⟨result, hresult, hrender⟩ := Outcome.exists_related_of_mem hrendered hmem
  apply Dump.hasInclusions_of_render (Graph.records_plan hplan) hobject hobjectFiles hrender
  · intro output houtput
    rw [hfiles]
    exact List.mem_append_left _ (List.mem_flatMap.mpr ⟨result, hresult, houtput⟩)
  · intro module hmodule hempty hother
    rw [hmodules, refers_moduleReferences]
    exact ⟨result, hresult, (hobjectFiles.render hrender).module.symm, hmodule, hempty, hother⟩

/-- A class that derives from a class of the same name in a module that is left out. -/
def namesakes : Graph where
  objects := #[
    { name := "Thing", package := "/Script/Engine",
      kind := .classType { flags := ClassFlags.native } },
    { name := "Thing", package := "/Script/Game",
      kind := .classType { flags := ClassFlags.native, superClass := some ⟨0⟩ } }]

/-- A configuration that asks for the files of objects only. -/
def objectFilesOnly : Config where
  output := { buildFiles := false }

theorem inclusions_of_generate_namesakes :
    ∃ dump, generate namesakes objectFilesOnly = .ok dump ∧
      ∃ names planned run written,
        namesakes.plan objectFilesOnly = .ok (names, planned) ∧
        synthesizeAll namesakes objectFilesOnly.generator planned .empty = .ok (run, written) ∧
        List.Forall₂ (fun object files =>
          dump.HasInclusions namesakes planned object files.declaration) planned written :=
  ⟨_, rfl, inclusions_of_generate rfl⟩

/-- The base class is needed in full and lies in another module, but the header neither
names that module nor is it recorded. -/
theorem namesakes_lack_inclusion :
    ∃ dump names planned run written,
      generate namesakes objectFilesOnly = .ok dump ∧
      namesakes.plan objectFilesOnly = .ok (names, planned) ∧
      synthesizeAll namesakes objectFilesOnly.generator planned .empty = .ok (run, written) ∧
      planned = [⟨⟨1⟩, "Game", "Thing"⟩] ∧
      written.map (·.declaration.dependencies.level ⟨0⟩) = [.full] ∧
      namesakes.headerOwner ⟨0⟩ = ⟨0⟩ ∧ namesakes.moduleName ⟨0⟩ = "Engine" ∧
      dump.file? "Game/Public/Thing.h" = some ⟨"Game/Public/Thing.h",
        "#pragma once\n#include \"CoreMinimal.h\"\n#include \"Thing.generated.h\"\n\n" ++
        "UCLASS()\nclass UThing : public UThing \x7b\n    GENERATED_BODY()\npublic:\n" ++
        "    UThing();\n\x7d;\n\n"⟩ ∧
      dump.modules.get? "Game" = some .empty := by
  refine ⟨_, _, _, _, _, rfl, rfl, rfl, ?_, ?_, ?_, ?_, ?_, ?_⟩
  all_goals decide +kernel

end HeaderSynth
