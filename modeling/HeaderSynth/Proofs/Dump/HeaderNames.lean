import HeaderSynth.Proofs.Dump.Inclusions
import HeaderSynth.Proofs.Dump.Listing
import HeaderSynth.Proofs.Reflection.Walks

/-!
# Names of headers

A type is declared in its own header, and a delegate signature in the header of the object
around it, at any depth.  The plan gives every header its name before anything is rendered.
Each reference finds the header again by a walk of its own, from the object that it mentions
to the one that owns the header, and ends at exactly the name that was planned.
-/

namespace HeaderSynth

namespace Graph

/-- An object, or a delegate signature that is nested in it at any depth. -/
def IsNestedIn (graph : Graph) (id owner : ObjectId) : Prop :=
  Reaches graph.delegateOuter? id owner

theorem leadsOn_delegateOuter? (graph : Graph) : graph.LeadsOn graph.delegateOuter? := by
  intro id outer houter
  obtain ⟨object, hobject, -⟩ := Option.bind_eq_some_iff.mp houter
  rw [hobject]
  rfl

/-- The header of an object that gets files declares what is nested in the object. -/
theorem headerOwner_eq_iff {graph : Graph} {config : Config} {owner : ObjectId}
    (howner : owner ∈ graph.processingOrder config) (id : ObjectId) :
    graph.headerOwner id = owner ↔ graph.IsNestedIn id owner := by
  obtain ⟨category, hcategory⟩ := Option.isSome_iff_exists.mp (mem_processingOrder.mp howner).2.2
  exact chainEnd_eq_iff graph.leadsOn_delegateOuter? (delegateOuter?_of_category? hcategory)

end Graph

/-- How references to something that the header of `object` declares are written. -/
structure NameRegistry.Resolves (names : NameRegistry) (graph : Graph)
    (planned : List PlannedObject) (id : ObjectId) (object : PlannedObject) : Prop where
  existing : ∃ base, graph.headerName (graph.headerOwner id) = .ok base ∧
    names.existing base (graph.headerOwner id) = object.baseName
  /-- No other header goes by that name. -/
  unique : ∀ other ∈ planned, other.baseName = object.baseName → other = object
  /-- Whatever file has a line for `id`, the line names the header. -/
  lines : ∀ file declaration mention,
    SourceFile.includeOf graph names file declaration id = .ok mention →
      ∀ line ∈ mention.lines, line = includeLine object.baseName ∨
        ∃ module top, line = stubLine module top object.baseName

/-- A registry that knows the names of a plan leads to the planned header. -/
theorem NameRegistry.Records.resolves {names : NameRegistry} {graph : Graph}
    {planned : List PlannedObject} (hnames : names.Records graph planned)
    (hids : (planned.map (·.id)).Nodup) {object : PlannedObject} (hobject : object ∈ planned)
    {base : String} (hbase : graph.headerName object.id = .ok base) {id : ObjectId}
    (hid : graph.headerOwner id = object.id) : names.Resolves graph planned id object := by
  have hexisting : names.existing base object.id = object.baseName := by
    obtain ⟨same, hsame, hsameId, hname⟩ := hnames.existing object hobject base hbase
    rw [hname, List.inj_on_of_nodup_map hids hsame hobject hsameId]
  refine ⟨⟨base, by rw [hid, hbase], by rw [hid, hexisting]⟩, ?_, ?_⟩
  · intro other hother hsame
    exact List.inj_on_of_nodup_map hnames.nodup hother hobject hsame
  · intro file declaration mention hmention line hline
    obtain ⟨name, header, hname, rfl, houtcome⟩ := SourceFile.includeOf_eq_ok hmention
    rw [hid] at hname houtcome
    obtain rfl : base = name := Except.ok.inj (hbase.symm.trans hname)
    rw [hexisting] at houtcome
    rcases houtcome with ⟨-, rfl⟩ | ⟨-, -, rfl⟩ | ⟨-, -, top, -, rfl⟩
    · cases hline
    · exact .inl (List.mem_singleton.mp hline)
    · exact .inr ⟨graph.moduleName id, top.name, List.mem_singleton.mp hline⟩

/-- The plan of every graph gives different names to different headers, and every reference to
an object with a header, or to what is nested in it, leads to the header planned for it. -/
theorem references_lead_to_planned_header (graph : Graph) (config : Config) :
    ∃ names planned, graph.plan config = .ok (names, planned) ∧
      (planned.map (·.baseName)).Nodup ∧
      ∀ object ∈ planned, ∀ id,
        (graph.headerOwner id = object.id ↔ graph.IsNestedIn id object.id) ∧
        (graph.headerOwner id = object.id → names.Resolves graph planned id object) := by
  obtain ⟨names, planned, hplan, hlists⟩ := graph.exists_plan config
  have hnames := Graph.records_plan hplan
  refine ⟨names, planned, hplan, hnames.nodup, ?_⟩
  intro object hobject id
  obtain ⟨category, heligible⟩ :=
    (hlists.mem_iff object.id object.module).mp ⟨object, hobject, rfl, rfl⟩
  obtain ⟨base, hbase⟩ := Graph.headerName_of_isEligible heligible
  have hordered : object.id ∈ graph.processingOrder config :=
    Graph.mem_processingOrder_iff.mpr ⟨category, object.module, heligible⟩
  exact ⟨Graph.headerOwner_eq_iff hordered id, hnames.resolves hlists.nodup hobject hbase⟩

/-- Two classes of one name, of which the second has a delegate with a delegate inside. -/
def crew : Graph where
  objects := #[
    { name := "Pawn", package := "/Script/Ship",
      kind := .classType { flags := ClassFlags.native } },
    { name := "Pawn", package := "/Script/Game",
      kind := .classType { flags := ClassFlags.native } },
    { name := "OnLanded__DelegateSignature", package := "/Script/Game", outer := some ⟨1⟩,
      kind := .function { flags := FunctionFlags.delegate } },
    { name := "OnBounce__DelegateSignature", package := "/Script/Game", outer := some ⟨2⟩,
      kind := .function { flags := .none } }]

theorem references_lead_to_planned_header_crew :
    crew.headerOwner ⟨3⟩ = ⟨1⟩ ∧
      ∃ names planned, crew.plan {} = .ok (names, planned) ∧
        planned = [⟨⟨0⟩, "Ship", "Pawn"⟩, ⟨⟨1⟩, "Game", "Pawn1"⟩] ∧
        crew.IsNestedIn ⟨3⟩ ⟨1⟩ ∧
        names.Resolves crew planned ⟨3⟩ ⟨⟨1⟩, "Game", "Pawn1"⟩ := by
  have howner : crew.headerOwner ⟨3⟩ = ⟨1⟩ := by decide +kernel
  have hplanned : (crew.plan {}).map Prod.snd =
      .ok [⟨⟨0⟩, "Ship", "Pawn"⟩, ⟨⟨1⟩, "Game", "Pawn1"⟩] := by
    rfl
  obtain ⟨names, planned, hplan, -, hresolves⟩ := references_lead_to_planned_header crew {}
  rw [hplan] at hplanned
  obtain rfl : planned = _ := Except.ok.inj hplanned
  obtain ⟨hnested, hresolved⟩ := hresolves ⟨⟨1⟩, "Game", "Pawn1"⟩ (by simp) ⟨3⟩
  exact ⟨howner, names, _, hplan, rfl, hnested.mp howner, hresolved howner⟩

end HeaderSynth
