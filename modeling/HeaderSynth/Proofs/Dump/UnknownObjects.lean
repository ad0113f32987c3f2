import HeaderSynth.Proofs.Declaration.ObjectMentions
import HeaderSynth.Proofs.Dump.Listing
import HeaderSynth.Proofs.Reflection.Walks

/-!
# Unknown objects

A snapshot is checked for loose ties when it is read, but the ids in the types of fields and
parameters are not checked.  A dump looks such an id up only when it renders the file that
depends on it, and fails then.  So an unknown object is always one that the type of a member
names, and a snapshot whose types name only objects never fails for want of one.
-/

namespace HeaderSynth

variable {graph : Graph}

/-! ## Dependencies of files -/

/-- A file depends only on what the graph mentions. -/
def SourceFile.StaysIn (graph : Graph) (file : SourceFile) : Prop :=
  ∀ id ∈ file.dependencies.keys, graph.Mentions id

namespace SourceFile.StaysIn

variable {file : SourceFile}

theorem depend (h : file.StaysIn graph) {id : ObjectId} (hid : graph.Mentions id)
    (level : Level) : (file.depend id level).StaysIn graph := by
  intro other hother
  rcases SortedMap.mem_keys_alter.mp hother with rfl | hother
  · exact hid
  · exact h other hother

theorem apply (h : file.StaysIn graph) {emission : Emission}
    (hemission : emission.StaysIn graph) : (file.apply emission).StaysIn graph := by
  cases emission with
  | demand needed =>
      cases needed with
      | depend id level => exact h.depend hemission level
      | _ => exact h
  | _ => exact h

theorem applyAll (h : file.StaysIn graph) {log : List Emission}
    (hlog : ∀ emission ∈ log, emission.StaysIn graph) : (file.applyAll log).StaysIn graph := by
  induction log generalizing file with
  | nil => exact h
  | cons emission rest ih =>
      apply ih (h.apply (hlog emission List.mem_cons_self))
      intro other hother
      exact hlog other (List.mem_cons_of_mem emission hother)

theorem mentions_withLevel (h : file.StaysIn graph) {level : Level} {id : ObjectId}
    (hid : id ∈ file.dependencies.withLevel level) : graph.Mentions id := by
  apply h id
  obtain ⟨entry, hentry, rfl⟩ := List.mem_map.mp hid
  exact List.mem_map_of_mem (List.mem_filter.mp hentry).1

theorem completeForward (h : file.StaysIn graph) {declaration : SourceFile}
    (hdeclaration : declaration.StaysIn graph) :
    (file.completeForward declaration).StaysIn graph := by
  have hforward : ∀ id ∈ declaration.dependencies.withLevel .forward, graph.Mentions id :=
    fun id hid => hdeclaration.mentions_withLevel hid
  rw [SourceFile.completeForward]
  generalize declaration.dependencies.withLevel .forward = ids at hforward
  induction ids generalizing file with
  | nil => exact h
  | cons id rest ih =>
      apply ih (h.depend (hforward id List.mem_cons_self) .full)
      intro other hother
      exact hforward other (List.mem_cons_of_mem id hother)

end SourceFile.StaysIn

/-! ## Looking objects up -/

namespace Graph

theorem IsTied.mentions_outer (h : graph.IsTied) {id outer : ObjectId} {object : Object}
    (hobject : graph.object? id = some object) (houter : object.outer = some outer) :
    graph.Mentions outer :=
  h.mentions (mem_objects_of_object? hobject) (.inl houter)

theorem IsTied.mentions_topLevel (h : graph.IsTied) {id : ObjectId} (hid : graph.Mentions id) :
    graph.Mentions (graph.topLevel id) := by
  apply chainEnd_induction _ hid
  intro id outer _ houter
  obtain ⟨object, hobject, houter⟩ := Option.bind_eq_some_iff.mp houter
  exact h.mentions_outer hobject houter

theorem IsTied.mentions_headerOwner (h : graph.IsTied) {id : ObjectId}
    (hid : graph.Mentions id) : graph.Mentions (graph.headerOwner id) := by
  apply chainEnd_induction _ hid
  intro id outer _ houter
  obtain ⟨object, hobject, houter⟩ := Option.bind_eq_some_iff.mp houter
  split at houter
  · exact h.mentions_outer hobject houter
  · cases houter

theorem staysIn_of_headerName {owner : ObjectId} (h : graph.Mentions owner)
    {error : GenerateError} (herror : graph.headerName owner = .error error) :
    error.StaysIn graph := by
  rcases Outcome.bind_eq_error.mp herror with herror | ⟨object, -, herror⟩
  · exact staysIn_of_get h error herror
  · split at herror
    · split at herror
      · cases herror
      · cases herror
        trivial
    · cases herror
      trivial
    · cases herror

end Graph

/-! ## Rendering -/

namespace SourceFile

theorem staysIn_of_includeOf (hties : graph.IsTied) {names : NameRegistry} {file : SourceFile}
    {declaration : Option SourceFile} {id : ObjectId} (hid : graph.Mentions id)
    {error : GenerateError} (h : includeOf graph names file declaration id = .error error) :
    error.StaysIn graph := by
  rcases Outcome.bind_eq_error.mp h with h | ⟨name, -, h⟩
  · exact Graph.staysIn_of_headerName (hties.mentions_headerOwner hid) h
  · dsimp only at h
    split_ifs at h
    all_goals try cases h
    rcases Outcome.bind_eq_error.mp h with h | ⟨top, -, h⟩
    · exact Graph.staysIn_of_get (hties.mentions_topLevel hid) error h
    · cases h

theorem staysIn_of_forwardOf {file : SourceFile} {id : ObjectId} (hid : graph.Mentions id)
    {error : GenerateError} (h : forwardOf graph file id = .error error) :
    error.StaysIn graph := by
  rcases Outcome.bind_eq_error.mp h with h | ⟨object, -, h⟩
  · exact Graph.staysIn_of_get hid error h
  · dsimp only at h
    split at h
    all_goals cases h
    trivial

theorem StaysIn.render (hties : graph.IsTied) {names : NameRegistry} {file : SourceFile}
    {declaration : Option SourceFile} (hfile : file.StaysIn graph) {error : GenerateError}
    (h : file.render graph names declaration = .error error) : error.StaysIn graph := by
  rcases Outcome.bind_eq_error.mp h with h | ⟨included, -, h⟩
  · obtain ⟨id, hid, h⟩ := Outcome.exists_of_mapM_eq_error h
    exact staysIn_of_includeOf hties (hfile.mentions_withLevel hid) h
  rcases Outcome.bind_eq_error.mp h with h | ⟨forward, -, h⟩
  · obtain ⟨id, hid, h⟩ := Outcome.exists_of_mapM_eq_error h
    exact staysIn_of_forwardOf (hfile.mentions_withLevel hid) h
  · cases h

theorem staysIn_of_withHash {file : SourceFile} {usage : TypeUsage}
    (hobject : (graph.object? file.object).isSome) {error : GenerateError}
    (h : file.withHash graph usage = .error error) : error.StaysIn graph := by
  rw [withHash] at h
  split at h
  · rcases Outcome.bind_eq_error.mp h with h | ⟨object, -, h⟩
    · exact Graph.staysIn_of_get (.inl hobject) error h
    · split at h
      all_goals cases h
  · cases h

theorem StaysIn.withHash {file later : SourceFile} {usage : TypeUsage}
    (hfile : file.StaysIn graph) (h : file.withHash graph usage = .ok later) :
    later.StaysIn graph := by
  rcases SourceFile.withHash_eq_ok h with rfl | ⟨line, rfl⟩
  · exact hfile
  · exact hfile

end SourceFile

/-- The files of an object of the graph, which depend only on what the graph mentions. -/
structure ObjectFiles.StayIn (graph : Graph) (files : ObjectFiles) : Prop where
  object : (graph.object? files.declaration.object).isSome
  declaration : files.declaration.StaysIn graph
  definition : ∀ file ∈ files.definition, file.StaysIn graph

theorem ObjectFiles.StayIn.render (hties : graph.IsTied) {files : ObjectFiles}
    (hfiles : files.StayIn graph) {names : NameRegistry} {usage : TypeUsage}
    {error : GenerateError} (h : files.render graph names usage = .error error) :
    error.StaysIn graph := by
  rw [ObjectFiles.render] at h
  split at h
  · rcases Outcome.bind_eq_error.mp h with h | ⟨declaration, hdeclaration, h⟩
    · exact SourceFile.staysIn_of_withHash hfiles.object h
    rcases Outcome.bind_eq_error.mp h with h | ⟨rendered, -, h⟩
    · exact (hfiles.declaration.withHash hdeclaration).render hties h
    rcases Outcome.bind_eq_error.mp h with h | ⟨sources, -, h⟩
    · cases hdefinition : files.definition with
      | none =>
          rw [hdefinition] at h
          cases h
      | some file =>
          rw [hdefinition, renderDefinition] at h
          split at h
          · rcases Outcome.bind_eq_error.mp h with h | ⟨source, -, h⟩
            · exact (hfiles.definition file hdefinition).render hties h
            · cases h
          · cases h
    · cases h
  · cases h

/-! ## Writing -/

theorem SourceFile.StaysIn.write {file : SourceFile} (hfile : file.StaysIn graph)
    {emission : Emit Unit} (hemission : emission.StaysIn graph) (run : Run) :
    Outcome.Meets (GenerateError.StaysIn graph)
      (fun later => later.object = file.object ∧ later.StaysIn graph)
      (file.write emission run).2 := by
  rw [SourceFile.write]
  cases hresult : emission.result with
  | error fault => exact hemission.failure fault hresult
  | ok value => exact ⟨(file.extends_applyAll _).object, hfile.applyAll hemission.log⟩

theorem SourceFile.StaysIn.writeDefinition {declaration : SourceFile}
    (hdeclaration : declaration.StaysIn graph) {emission : Emit Unit}
    (hemission : emission.StaysIn graph) (run : Run) :
    Outcome.Meets (GenerateError.StaysIn graph) (SourceFile.StaysIn graph)
      (writeDefinition declaration emission run).2 := by
  -- The source starts without the dependencies of its header and takes them over at the end.
  have hempty : SourceFile.StaysIn graph { declaration with
      role := .definition, body := "", indent := 0, includes := .empty
      dependencies := .empty } := by
    intro id hid
    cases hid
  have hwritten := hempty.write hemission run
  rw [HeaderSynth.writeDefinition]
  dsimp only
  revert hwritten
  cases (SourceFile.write _ emission run).2 with
  | error fault => exact id
  | ok later => exact fun hwritten => hwritten.2.completeForward hdeclaration

theorem staysIn_synthesize (hties : graph.IsTied) {id : ObjectId}
    (hid : (graph.object? id).isSome) (options : GeneratorOptions) (module baseName : String)
    (run : Run) :
    Outcome.Meets (GenerateError.StaysIn graph) (ObjectFiles.StayIn graph)
      (synthesize graph options id module baseName run).2 := by
  obtain ⟨object, hobject⟩ := Option.isSome_iff_exists.mp hid
  have hwriting := Object.staysIn_writing hties hobject options module run.usage
  -- The object is there, so only what is written for it can fail.
  have hget : graph.get id >>= Object.writing graph options module run.usage id =
      object.writing graph options module run.usage id := by
    rw [Graph.get_eq_ok.mpr hobject]
    rfl
  rw [synthesize, hget]
  revert hwriting
  cases object.writing graph options module run.usage id with
  | error fault => exact fun hfault => hfault
  | ok writing =>
      rintro ⟨hdeclare, hdefine⟩
      have hopened : SourceFile.StaysIn graph
          { object := id, module, baseName, role := .declaration } := by
        intro other hother
        cases hother
      have hdeclaration := hopened.write hdeclare run
      dsimp only
      revert hdeclaration
      rcases SourceFile.write _ writing.declare run with ⟨after, fault | declaration⟩
      · exact fun hfault => hfault
      rintro ⟨hsame, hdeclaration⟩
      have hexists : (graph.object? declaration.object).isSome := by
        rw [hsame]
        exact hid
      cases hdefinition : writing.define with
      | none => exact ⟨hexists, hdeclaration, by simp⟩
      | some emission =>
          have hwritten := hdeclaration.writeDefinition (hdefine emission hdefinition) after
          dsimp only
          revert hwritten
          rcases writeDefinition declaration emission after with ⟨last, fault | definition⟩
          · exact fun hfault => hfault
          intro hwritten
          refine ⟨hexists, hdeclaration, ?_⟩
          rintro _ ⟨⟩
          exact hwritten

theorem staysIn_synthesizeAll (hties : graph.IsTied) {planned : List PlannedObject}
    (hplanned : ∀ object ∈ planned, (graph.object? object.id).isSome)
    (options : GeneratorOptions) (run : Run) :
    Outcome.Meets (GenerateError.StaysIn graph)
      (fun result => ∀ files ∈ result.2, files.StayIn graph)
      (synthesizeAll graph options planned run) := by
  induction planned generalizing run with
  | nil =>
      intro files hfiles
      cases hfiles
  | cons object rest ih =>
      have hobject := hplanned object List.mem_cons_self
      have hfiles := staysIn_synthesize hties hobject options object.module object.baseName run
      have hrest := ih fun other hother => hplanned other (List.mem_cons_of_mem object hother)
      rw [synthesizeAll]
      revert hfiles
      rcases synthesize graph options object.id object.module object.baseName run with
        ⟨after, fault | files⟩
      · exact fun hfault => hfault
      intro hfiles
      apply (hrest after).bind
      rintro ⟨last, others⟩ _ hothers
      exact List.forall_mem_cons.mpr ⟨hfiles, hothers⟩

/-! ## Dumps -/

theorem staysIn_of_generate (hties : graph.IsTied) {config : Config} {error : GenerateError}
    (h : generate graph config = .error error) : error.StaysIn graph := by
  obtain ⟨names, planned, hplan, hlists⟩ := graph.exists_plan config
  have hplanned : ∀ object ∈ planned, (graph.object? object.id).isSome := by
    intro object hobject
    obtain ⟨category, -, found, hfound, -⟩ :=
      (hlists.mem_iff object.id object.module).mp ⟨object, hobject, rfl, rfl⟩
    rw [hfound]
    rfl
  -- Writing fails or leaves files that depend only on what the graph mentions.  Of the other
  -- two passes, planning never fails, and rendering looks up what these files depend on.
  have hwritten := staysIn_synthesizeAll hties hplanned config.generator .empty
  rw [generate, hplan] at h
  rcases Outcome.bind_eq_error.mp h with h | ⟨_, ⟨⟩, h⟩
  · cases h
  rcases Outcome.bind_eq_error.mp h with h | ⟨⟨run, written⟩, hok, h⟩
  · rw [h] at hwritten
    exact hwritten
  rw [hok] at hwritten
  rcases Outcome.bind_eq_error.mp h with h | ⟨rendered, -, h⟩
  · obtain ⟨files, hfiles, h⟩ := Outcome.exists_of_mapM_eq_error h
    exact (hwritten files hfiles).render hties h
  · cases h

/-- Reading a snapshot checks every tie between objects, and a dump of it fails for want of an
object only over an id that the type of a field or parameter names. -/
theorem unknownObject_of_generate {text : String} {graph : Graph}
    (h : Graph.ofText text = .ok graph) :
    (∀ object ∈ graph.objects, ∀ id, object.IsTiedTo id → (graph.object? id).isSome) ∧
      ∀ config id, generate graph config = .error (.unknownObject id) →
        graph.object? id = none ∧ ∃ object ∈ graph.objects, object.NamesInType id := by
  have hties := Graph.isTied_of_ofText h
  refine ⟨hties, ?_⟩
  intro config id hgenerate
  obtain ⟨hnone, hmentions⟩ : graph.object? id = none ∧ graph.Mentions id :=
    staysIn_of_generate hties hgenerate
  refine ⟨hnone, hmentions.resolve_left ?_⟩
  simp [hnone]

/-- An aggregate with an array of an aggregate that does not exist. -/
def strayField : Graph where
  objects := #[
    { name := "Hero", package := "/Script/Game",
      kind := .structType {
        flags := StructFlags.native
        fields := [{ name := "Stats", kind := .arrayOf (.struct (some ⟨7⟩)) }] } }]

/-- The snapshot of `strayField`. -/
def strayFieldText : String :=
  "\x7b\"objects\":[\x7b\"name\":\"Hero\",\"package\":\"/Script/Game\"," ++
  "\"kind\":\x7b\"kind\":\"struct\",\"flags\":1,\"fields\":[\x7b\"name\":\"Stats\"," ++
  "\"type\":\x7b\"kind\":\"array\",\"inner\":\x7b\"name\":\"Inner\"," ++
  "\"type\":\x7b\"kind\":\"struct\",\"struct_type\":7\x7d\x7d\x7d\x7d]\x7d\x7d]\x7d"

theorem ofText_strayFieldText : Graph.ofText strayFieldText = .ok strayField := by
  decide +kernel

theorem unknownObject_of_generate_strayField :
    Graph.ofText strayFieldText = .ok strayField ∧
      (∀ object ∈ strayField.objects, ∀ id, object.IsTiedTo id →
        (strayField.object? id).isSome) ∧
      ∀ config id, generate strayField config = .error (.unknownObject id) →
        strayField.object? id = none ∧ ∃ object ∈ strayField.objects, object.NamesInType id :=
  ⟨ofText_strayFieldText, unknownObject_of_generate ofText_strayFieldText⟩

/-- A snapshot is accepted although the type of a field names no object, and its dump fails. -/
theorem strayField_isUnknown :
    Graph.ofText strayFieldText = .ok strayField ∧
      (∃ object ∈ strayField.objects, object.NamesInType ⟨7⟩) ∧
      strayField.object? ⟨7⟩ = none ∧ generate strayField {} = .error (.unknownObject ⟨7⟩) := by
  refine ⟨ofText_strayFieldText, ?_, rfl, ?_⟩
  · simp [strayField, Object.NamesInType, Object.memberFields, FieldKind.arrayOf,
      FieldKind.targets]
  · decide +kernel

end HeaderSynth
