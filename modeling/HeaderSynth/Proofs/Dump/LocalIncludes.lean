import HeaderSynth.Proofs.Dump.Descriptors
import HeaderSynth.Proofs.Dump.Listing
import HeaderSynth.Proofs.Dump.Paths

/-!
# Local includes

A file includes the headers of its own module by their names.  What it needs in full is decided
by the types that it mentions, and which headers there are by the kinds of objects that get
files, so the two meet only in the names.  An include leads to a header of the dump whenever the
object that owns the header gets files in that module.  An object without files is included all
the same, and then there is no header unless another object happens to have it.
-/

namespace HeaderSynth

/-! ## Lines -/

theorem includeLine_injective {first second : String}
    (h : includeLine first = includeLine second) : first = second := by
  simpa [includeLine, toString] using h

/-- A stub is a comment. -/
theorem exists_stubLine_eq (module object header : String) :
    ∃ rest, stubLine module object header = "//CROSS-MODULE INCLUDE V2: -ModuleName=" ++ rest := by
  delta stubLine
  simp only [String.append_assoc]
  exact ⟨_, rfl⟩

theorem includeLine_ne_stubLine (header module object other : String) :
    includeLine header ≠ stubLine module object other := by
  intro hsame
  obtain ⟨rest, hstub⟩ := exists_stubLine_eq module object other
  have hhead := congrArg (fun line : String => line.toList.head?) (hsame.trans hstub)
  simp [includeLine, toString] at hhead

/-- An include names the header that the registry has for the owner, and stands only for an
object of the module of the file. -/
theorem SourceFile.of_includeLine_mem {graph : Graph} {names : NameRegistry} {file : SourceFile}
    {declaration : Option SourceFile} {id : ObjectId} {header : String}
    (h : includeLine header ∈ file.inclusionLines graph names declaration id) :
    graph.moduleName id = file.module ∧
      ∃ name, graph.headerName (graph.headerOwner id) = .ok name ∧
        header = names.existing name (graph.headerOwner id) := by
  cases hmention : includeOf graph names file declaration id with
  | error failure =>
      rw [inclusionLines, hmention] at h
      cases h
  | ok mention =>
      rw [inclusionLines, hmention] at h
      obtain ⟨name, found, hname, hfound, houtcome⟩ := includeOf_eq_ok hmention
      rcases houtcome with ⟨-, rfl⟩ | ⟨-, hmodule, rfl⟩ | ⟨-, -, top, -, rfl⟩
      · cases h
      · have hheader : header = found := includeLine_injective (List.mem_singleton.mp h)
        exact ⟨hmodule, name, hname, hheader.trans hfound⟩
      · exact absurd (List.mem_singleton.mp h) (includeLine_ne_stubLine header _ _ _)

/-! ## Headers -/

/-- Where a module has the header of a given name. -/
def publicHeader (module name : String) : String :=
  Path.join (Path.join module "Public") (name ++ ".h")

theorem endChar?_publicHeader (module name : String) :
    Path.endChar? (publicHeader module name) = some 'h' :=
  endChar?_headerPath ⟨⟨0⟩, module, name⟩

/-- Of the files of an object only the header ends like one. -/
theorem Graph.eq_headerPath_of_endChar? {graph : Graph} {object : PlannedObject} {path : String}
    (h : path ∈ graph.objectPaths object) (hend : Path.endChar? path = some 'h') :
    path = object.headerPath := by
  rcases List.mem_cons.mp h with hheader | hsource
  · exact hheader
  · split_ifs at hsource
    · rw [List.mem_singleton.mp hsource, endChar?_sourcePath] at hend
      cases hend
    · cases hsource

/-- The headers of a dump are those of the planned objects. -/
theorem publicHeader_mem_paths_iff {graph : Graph} {config : Config} {dump : Dump}
    {names : NameRegistry} {planned : List PlannedObject}
    (hplan : graph.plan config = .ok (names, planned)) (h : generate graph config = .ok dump)
    (module name : String) :
    publicHeader module name ∈ dump.files.map (·.path) ↔
      ∃ object ∈ planned, object.headerPath = publicHeader module name := by
  obtain ⟨_, _, hsame, hkeys, hpaths⟩ := paths_of_generate h
  obtain ⟨rfl, rfl⟩ := Prod.mk.inj (Except.ok.inj (hplan.symm.trans hsame))
  have hend := endChar?_publicHeader module name
  -- Build files have other endings.
  have hbuilt : ∀ built ∈ dump.modules.keys,
      publicHeader module name ∉ [descriptorPath built, registrationPath built] := by
    intro built hmem hpath
    obtain ⟨object, hobject, rfl⟩ := List.mem_map.mp ((hkeys built).mp hmem)
    rcases List.mem_pair.mp hpath with hdescriptor | hregistration
    · have hempty := module_ne_empty_of_plan hplan object hobject
      rw [hdescriptor, endChar?_descriptorPath hempty] at hend
      cases hend
    · rw [hregistration, endChar?_registrationPath] at hend
      cases hend
  rw [hpaths, List.mem_append, List.mem_flatMap]
  constructor
  · rintro (⟨object, hobject, hpath⟩ | hpath)
    · exact ⟨object, hobject, (Graph.eq_headerPath_of_endChar? hpath hend).symm⟩
    · split_ifs at hpath
      · obtain ⟨built, hmem, hpath⟩ := List.mem_flatMap.mp hpath
        exact absurd hpath (hbuilt built hmem)
      · cases hpath
  · rintro ⟨object, hobject, hpath⟩
    exact .inl ⟨object, hobject, hpath ▸ List.mem_cons_self⟩

/-- A planned owner has its header under the name that is included. -/
theorem mem_planned_of_isEligible {graph : Graph} {config : Config} {names : NameRegistry}
    {planned : List PlannedObject} (hnames : names.Records graph planned)
    (hlists : graph.Lists config planned) {owner : ObjectId} {category : Category}
    {module name : String} (heligible : graph.IsEligible config owner category module)
    (hname : graph.headerName owner = .ok name) :
    ⟨owner, module, names.existing name owner⟩ ∈ planned := by
  obtain ⟨object, hobject, rfl, rfl⟩ := (hlists.mem_iff owner module).mpr ⟨category, heligible⟩
  obtain ⟨same, hsame, hid, hexisting⟩ := hnames.existing object hobject name hname
  have hequal : same = object := List.inj_on_of_nodup_map hlists.nodup hsame hobject hid
  rw [hexisting, hequal]
  exact hobject

/-! ## Files -/

/-- The files of all planned objects are written out. -/
theorem mem_files_of_completed {graph : Graph} {names : NameRegistry} {usage : TypeUsage}
    {planned : List PlannedObject} {written : List ObjectFiles} {rendered : List RenderedObject}
    (hwritten : List.Forall₂ (fun object files => files.AreWritten graph object) planned written)
    (hrendered : List.Forall₂ (fun files object => files.render graph names usage = .ok object)
      written rendered) {entry : PlannedObject × ObjectFiles}
    (hentry : entry ∈ completed graph usage planned written) {output : OutputFile}
    (houtput : output ∈ entry.2.outputs graph names) : output ∈ rendered.flatMap (·.files) := by
  obtain ⟨result, hresult, hshows⟩ :=
    Outcome.exists_related_of_mem (shows_of_areWritten hwritten hrendered) hentry
  rw [List.mem_flatMap]
  exact ⟨result, hresult, hshows.outputs ▸ houtput⟩

/-- A file includes headers of its own module only.  If the owner of such a header gets files in
that module, the dump has the header, under the name that was planned for the owner.  In any
case the dump has it exactly if it is the header of some planned object. -/
theorem local_includes_of_generate {graph : Graph} {config : Config} {dump : Dump}
    (h : generate graph config = .ok dump) :
    ∃ names planned run written,
      graph.plan config = .ok (names, planned) ∧
      synthesizeAll graph config.generator planned .empty = .ok (run, written) ∧
      ∀ entry ∈ completed graph run.usage planned written, ∀ part ∈ entry.2.parts,
        ⟨part.1.path, part.1.text graph names part.2⟩ ∈ dump.files ∧
        ∀ id ∈ part.1.dependencies.withLevel .full, ∀ header,
          includeLine header ∈ part.1.inclusionLines graph names part.2 id →
            graph.moduleName id = part.1.module ∧
            (∀ category, graph.IsEligible config (graph.headerOwner id) category part.1.module →
              ⟨graph.headerOwner id, part.1.module, header⟩ ∈ planned ∧
              publicHeader part.1.module header ∈ dump.files.map (·.path)) ∧
            (publicHeader part.1.module header ∈ dump.files.map (·.path) ↔
              ∃ object ∈ planned, object.headerPath = publicHeader part.1.module header) := by
  obtain ⟨names, planned, run, written, rendered, hplan, hwritten, hrendered, hfiles, -⟩ :=
    generate_eq_ok h
  obtain ⟨_, _, hsame, hlists⟩ := graph.exists_plan config
  obtain ⟨rfl, rfl⟩ := Prod.mk.inj (Except.ok.inj (hplan.symm.trans hsame))
  refine ⟨names, planned, run, written, hplan, hwritten, fun entry hentry part hpart => ⟨?_, ?_⟩⟩
  · have hareWritten := areWritten_synthesizeAll hwritten
    rw [hfiles]
    apply List.mem_append_left
    exact mem_files_of_completed hareWritten hrendered hentry (List.mem_map_of_mem hpart)
  · intro id _ header hline
    obtain ⟨hmodule, name, hname, rfl⟩ := SourceFile.of_includeLine_mem hline
    have hpaths := publicHeader_mem_paths_iff hplan h part.1.module
      (names.existing name (graph.headerOwner id))
    refine ⟨hmodule, ?_, hpaths⟩
    intro category heligible
    have hplanned :=
      mem_planned_of_isEligible (Graph.records_plan hplan) hlists heligible hname
    exact ⟨hplanned, hpaths.mpr ⟨_, hplanned, rfl⟩⟩

/-- An aggregate with a part that has a namesake in another module. -/
def mint : Graph where
  objects := #[
    { name := "Coin", package := "/Script/Bank",
      kind := .structType { flags := StructFlags.native } },
    { name := "Coin", package := "/Script/Game",
      kind := .structType { flags := StructFlags.native } },
    { name := "Purse", package := "/Script/Game",
      kind := .structType {
        flags := StructFlags.native
        fields := [{ name := "Content", kind := .struct (some ⟨1⟩) }] } }]

theorem isEligible_mint : mint.IsEligible objectFilesOnly ⟨1⟩ .structType "Game" :=
  ⟨by decide +kernel, _, rfl, ⟨rfl, by decide, by decide +kernel⟩, _, rfl, by decide⟩

theorem local_includes_of_generate_mint :
    ∃ dump, generate mint objectFilesOnly = .ok dump ∧
      ∃ names planned run written,
        mint.plan objectFilesOnly = .ok (names, planned) ∧
        synthesizeAll mint objectFilesOnly.generator planned .empty = .ok (run, written) ∧
        ∃ entry ∈ completed mint run.usage planned written, ∃ part ∈ entry.2.parts,
          part.1.module = "Game" ∧ ⟨1⟩ ∈ part.1.dependencies.withLevel .full ∧
          includeLine "Coin1" ∈ part.1.inclusionLines mint names part.2 ⟨1⟩ ∧
          publicHeader "Game" "Coin1" ∈ dump.files.map (·.path) := by
  have hruns : (generate mint objectFilesOnly).toBool = true := by decide +kernel
  obtain ⟨dump, hdump⟩ := Outcome.exists_of_toBool hruns
  obtain ⟨names, planned, run, written, hplan, hwritten, hincludes⟩ :=
    local_includes_of_generate hdump
  have hline : (mint.plan objectFilesOnly).toOption.any (fun plan =>
      (synthesizeAll mint objectFilesOnly.generator plan.2 .empty).toOption.any fun result =>
        (completed mint result.1.usage plan.2 result.2).any fun entry =>
          entry.2.parts.any fun part =>
            part.1.module = "Game" && ⟨1⟩ ∈ part.1.dependencies.withLevel .full &&
              includeLine "Coin1" ∈ part.1.inclusionLines mint plan.1 part.2 ⟨1⟩) = true := by
    decide +kernel
  simp only [hplan, hwritten, Except.toOption, Option.any_some, List.any_eq_true,
    Bool.and_eq_true, decide_eq_true_eq] at hline
  obtain ⟨entry, hentry, part, hpart, ⟨hmodule, hfull⟩, hline⟩ := hline
  have howner : mint.headerOwner ⟨1⟩ = ⟨1⟩ := by decide +kernel
  obtain ⟨-, heligible, -⟩ := (hincludes entry hentry part hpart).2 ⟨1⟩ hfull "Coin1" hline
  rw [hmodule, howner] at heligible
  exact ⟨dump, hdump, names, planned, run, written, hplan, hwritten, entry, hentry, part, hpart,
    hmodule, hfull, hline, (heligible .structType isEligible_mint).2⟩

/-- An aggregate with a part that is not native. -/
def looseChange : Graph where
  objects := #[
    { name := "Coin", package := "/Script/Game", kind := .structType { flags := .none } },
    { name := "Purse", package := "/Script/Game",
      kind := .structType {
        flags := StructFlags.native
        fields := [{ name := "Content", kind := .struct (some ⟨0⟩) }] } }]

/-- The part is included from a header of its module, but no object has that header. -/
theorem looseChange_lacks_header :
    ∃ dump names planned run written,
      generate looseChange objectFilesOnly = .ok dump ∧
      looseChange.plan objectFilesOnly = .ok (names, planned) ∧
      synthesizeAll looseChange objectFilesOnly.generator planned .empty = .ok (run, written) ∧
      (completed looseChange run.usage planned written).map (fun entry =>
        (entry.2.declaration.module, entry.2.declaration.dependencies.withLevel .full,
          entry.2.declaration.inclusionLines looseChange names none ⟨0⟩)) =
        [("Game", [⟨0⟩], [includeLine "Coin"])] ∧
      looseChange.moduleName ⟨0⟩ = "Game" ∧
      dump.files.map (·.path) = ["Game/Public/Purse.h", "Game/Private/Purse.cpp"] ∧
      publicHeader "Game" "Coin" ∉ dump.files.map (·.path) := by
  have hpaths : (generate looseChange objectFilesOnly).toOption.map (·.files.map (·.path)) =
      some ["Game/Public/Purse.h", "Game/Private/Purse.cpp"] := by
    decide +kernel
  have hlines : (looseChange.plan objectFilesOnly).toOption.map (fun plan =>
      (synthesizeAll looseChange objectFilesOnly.generator plan.2 .empty).toOption.map fun result =>
        (completed looseChange result.1.usage plan.2 result.2).map fun entry =>
          (entry.2.declaration.module, entry.2.declaration.dependencies.withLevel .full,
            entry.2.declaration.inclusionLines looseChange plan.1 none ⟨0⟩)) =
      some (some [("Game", [⟨0⟩], [includeLine "Coin"])]) := by
    decide +kernel
  have hruns : (generate looseChange objectFilesOnly).toBool = true := by decide +kernel
  obtain ⟨dump, hdump⟩ := Outcome.exists_of_toBool hruns
  obtain ⟨names, planned, run, written, _, hplan, hwritten, -⟩ := generate_eq_ok hdump
  rw [hdump] at hpaths
  simp only [hplan, hwritten, Except.toOption, Option.map_some, Option.some.injEq] at hpaths hlines
  refine ⟨dump, names, planned, run, written, hdump, hplan, hwritten, hlines, ?_, hpaths, ?_⟩
  · decide +kernel
  · rw [hpaths]
    decide +kernel

end HeaderSynth
