import HeaderSynth.Proofs.Declaration.Definitions
import HeaderSynth.Proofs.Dump.Files

/-!
# The record of a run

A run records the marks of all that it writes and forgets none.  Writing one object adds
exactly the marks of the types that its declaration uses: the definition only repeats them.
So when the turn of an object comes, the record holds what the objects planned before it mark.
-/

namespace HeaderSynth

/-! ## Records -/

/-- The record holds a mark. -/
def TypeUsage.Holds (usage : TypeUsage) : Demand → Prop
  | .visibleEnum id => id ∈ usage.visibleEnums
  | .usedStruct id => id ∈ usage.visibleStructs
  | .hashedKey id => id ∈ usage.hashedKeys
  | _ => False

theorem TypeUsage.not_holds_empty (demand : Demand) : ¬TypeUsage.empty.Holds demand := by
  cases demand <;> simp [Holds, empty, SortedSet.not_mem_empty]

theorem TypeUsage.holds_record {usage : TypeUsage} {demand : Demand} (hmark : demand.IsMark)
    (needed : Demand) :
    (usage.record needed).Holds demand ↔ demand = needed ∨ usage.Holds demand := by
  cases demand <;> cases needed <;>
    simp_all [Holds, record, Demand.IsMark, SortedSet.mem_insert]

theorem Run.holds_apply {run : Run} {demand : Demand} (hmark : demand.IsMark)
    (emission : Emission) :
    (run.apply emission).usage.Holds demand ↔
      .demand demand = emission ∨ run.usage.Holds demand := by
  cases emission with
  | demand needed =>
      rw [Emission.demand.injEq]
      exact TypeUsage.holds_record hmark needed
  | _ => simp [Run.apply]

/-- A log leaves its marks in the record. -/
theorem Run.holds_applyAll {demand : Demand} (hmark : demand.IsMark) (run : Run)
    (log : List Emission) :
    (run.applyAll log).usage.Holds demand ↔ run.usage.Holds demand ∨ .demand demand ∈ log := by
  induction log generalizing run with
  | nil => simp [Run.applyAll]
  | cons emission rest ih =>
      show ((run.apply emission).applyAll rest).usage.Holds demand ↔ _
      rw [ih, Run.holds_apply hmark, List.mem_cons]
      tauto

/-! ## Writing one object -/

/-- What writing an object consists of. -/
theorem synthesize_eq_ok {graph : Graph} {options : GeneratorOptions} {id : ObjectId}
    {module baseName : String} {run after : Run} {files : ObjectFiles}
    (h : synthesize graph options id module baseName run = (after, .ok files)) :
    ∃ object writing middle, graph.object? id = some object ∧
      object.writing graph options module run.usage id = .ok writing ∧
      SourceFile.write { object := id, module, baseName, role := .declaration } writing.declare
        run = (middle, .ok files.declaration) ∧
      (writing.define = none ∧ after = middle ∨
        ∃ emission definition, writing.define = some emission ∧
          writeDefinition files.declaration emission middle = (after, .ok definition)) := by
  rw [synthesize] at h
  split at h
  · cases h
  rename_i writing hwriting
  obtain ⟨object, hobject, hwriting⟩ := Outcome.bind_eq_ok.mp hwriting
  have hsome := Graph.get_eq_ok.mp hobject
  simp only at h
  split at h
  · cases h
  rename_i middle declaration hdeclaration
  split at h
  · rename_i hnone
    cases h
    exact ⟨object, writing, after, hsome, hwriting, hdeclaration, .inl ⟨hnone, rfl⟩⟩
  · rename_i emission hemission
    split at h
    · cases h
    rename_i definition hdefinition
    cases h
    exact ⟨object, writing, middle, hsome, hwriting, hdeclaration,
      .inr ⟨emission, definition, hemission, hdefinition⟩⟩

/-- The declaration of an object uses a type that leaves a mark. -/
def Graph.Marks (graph : Graph) (id : ObjectId) (demand : Demand) : Prop :=
  ∃ object, graph.object? id = some object ∧ ∃ use ∈ graph.typeUses object, use.Marks demand

/-- Writing an object adds exactly the marks of the types that its declaration uses. -/
theorem holds_synthesize {graph : Graph} {options : GeneratorOptions} {id : ObjectId}
    {module baseName : String} {run after : Run} {files : ObjectFiles}
    (h : synthesize graph options id module baseName run = (after, .ok files))
    {demand : Demand} (hmark : demand.IsMark) :
    after.usage.Holds demand ↔ run.usage.Holds demand ∨ graph.Marks id demand := by
  obtain ⟨object, writing, middle, hobject, hwriting, hdeclare, hdefine⟩ := synthesize_eq_ok h
  obtain ⟨value, hvalue⟩ := SourceFile.succeeds_of_write hdeclare
  have hmarks : graph.Marks id demand ↔ ∃ use ∈ graph.typeUses object, use.Marks demand := by
    simp [Graph.Marks, hobject]
  have hdeclared : .demand demand ∈ writing.declare.log ↔ graph.Marks id demand :=
    ((Object.uses_writing hobject hwriting).marks value hvalue (.demand demand) hmark).trans
      hmarks.symm
  have hmiddle : middle.usage.Holds demand ↔ run.usage.Holds demand ∨ graph.Marks id demand := by
    obtain ⟨rfl, -⟩ := Prod.mk.inj hdeclare
    rw [Run.holds_applyAll hmark, hdeclared]
  rcases hdefine with ⟨-, rfl⟩ | ⟨emission, definition, hemission, hdefinition⟩
  · exact hmiddle
  · have hrepeated : .demand demand ∈ emission.log → graph.Marks id demand := by
      intro hmem
      have hdefine := Object.repeats_define (E := fun _ => True) hwriting ⟨value, hvalue⟩ hemission
        fun _ _ _ _ _ _ => trivial
      exact hmarks.mpr (hdefine.log _ hmem hmark)
    obtain ⟨rfl, -⟩ := Prod.mk.inj hdefinition
    show (middle.applyAll emission.log).usage.Holds demand ↔ _
    rw [Run.holds_applyAll hmark, hmiddle]
    tauto

/-! ## Writing all objects -/

theorem holds_synthesizeAll {graph : Graph} {options : GeneratorOptions}
    {planned : List PlannedObject} {run after : Run} {written : List ObjectFiles}
    (h : synthesizeAll graph options planned run = .ok (after, written)) {demand : Demand}
    (hmark : demand.IsMark) :
    after.usage.Holds demand ↔
      run.usage.Holds demand ∨ ∃ object ∈ planned, graph.Marks object.id demand := by
  induction planned generalizing run written with
  | nil =>
      cases h
      simp
  | cons object rest ih =>
      rw [synthesizeAll] at h
      split at h
      · cases h
      rename_i middle files hfiles
      obtain ⟨⟨last, others⟩, hothers, hresult⟩ := Outcome.bind_eq_ok.mp h
      cases hresult
      rw [ih hothers, holds_synthesize hfiles hmark, or_assoc]
      simp

/-- What a run has recorded when it has written the planned objects. -/
def Graph.IsRecordOf (graph : Graph) (options : GeneratorOptions) (planned : List PlannedObject)
    (usage : TypeUsage) : Prop :=
  ∃ run written, synthesizeAll graph options planned .empty = .ok (run, written) ∧
    run.usage = usage

theorem Graph.IsRecordOf.holds_iff {graph : Graph} {options : GeneratorOptions}
    {planned : List PlannedObject} {usage : TypeUsage} (h : graph.IsRecordOf options planned usage)
    (demand : Demand) (hmark : demand.IsMark) :
    usage.Holds demand ↔ ∃ object ∈ planned, graph.Marks object.id demand := by
  obtain ⟨run, written, hwritten, rfl⟩ := h
  rw [holds_synthesizeAll hwritten hmark]
  exact or_iff_right (TypeUsage.not_holds_empty demand)

/-- Objects planned one behind the other are written one after the other. -/
theorem synthesizeAll_append_eq_ok {graph : Graph} {options : GeneratorOptions}
    {earlier later : List PlannedObject} {run after : Run} {written : List ObjectFiles}
    (h : synthesizeAll graph options (earlier ++ later) run = .ok (after, written)) :
    ∃ middle first second, synthesizeAll graph options earlier run = .ok (middle, first) ∧
      synthesizeAll graph options later middle = .ok (after, second) ∧
      written = first ++ second := by
  induction earlier generalizing run written with
  | nil => exact ⟨run, [], written, rfl, h, rfl⟩
  | cons object rest ih =>
      rw [List.cons_append, synthesizeAll] at h
      split at h
      · cases h
      rename_i next files hfiles
      obtain ⟨⟨last, others⟩, hothers, hresult⟩ := Outcome.bind_eq_ok.mp h
      cases hresult
      obtain ⟨middle, first, second, hfirst, hsecond, rfl⟩ := ih hothers
      refine ⟨middle, files :: first, second, ?_, hsecond, rfl⟩
      rw [synthesizeAll, hfiles]
      dsimp only
      rw [hfirst]
      rfl

/-- When the turn of an object comes, the objects before it are recorded. -/
theorem exists_synthesize_of_synthesizeAll {graph : Graph} {options : GeneratorOptions}
    {earlier later : List PlannedObject} {object : PlannedObject} {after : Run}
    {written : List ObjectFiles}
    (h : synthesizeAll graph options (earlier ++ object :: later) .empty = .ok (after, written)) :
    ∃ before next, ∃ files ∈ written,
      synthesize graph options object.id object.module object.baseName before =
        (next, .ok files) ∧
      graph.IsRecordOf options earlier before.usage := by
  obtain ⟨before, first, second, hfirst, hsecond, rfl⟩ := synthesizeAll_append_eq_ok h
  rw [synthesizeAll] at hsecond
  split at hsecond
  · cases hsecond
  rename_i next files hfiles
  obtain ⟨⟨last, others⟩, -, hresult⟩ := Outcome.bind_eq_ok.mp hsecond
  cases hresult
  exact ⟨before, next, files, List.mem_append_right _ List.mem_cons_self, hfiles, before, first,
    hfirst, rfl⟩

end HeaderSynth
