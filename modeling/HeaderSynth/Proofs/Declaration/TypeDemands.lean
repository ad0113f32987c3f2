import HeaderSynth.Proofs.Declaration.TypeFaults

/-!
# Demands of types

A type that is written makes demands on the file around it.  Values need the whole definition of
what they are made of, references only a name, and the parts of a type demand as much as they
would alone.  A level never falls: it becomes the highest of what the file had and of what the
parts demand, in whatever order they come.  A type that fails has met the demands of the parts
before the fault, and nothing that was there is lost.
-/

namespace HeaderSynth

/-! ## Levels -/

namespace Level

/-- A level is at most another if the other is the higher of the two. -/
instance : LE Level := ⟨fun low high => low.max high = high⟩

@[simp]
theorem max_none (level : Level) : level.max .none = level := by
  cases level <;> rfl

theorem max_assoc (first second third : Level) :
    (first.max second).max third = first.max (second.max third) := by
  cases first <;> cases second <;> cases third <;> rfl

theorem le_max_left (level other : Level) : level ≤ level.max other := by
  cases level <;> cases other <;> rfl

/-- The highest of some levels. -/
def highest (levels : List Level) : Level :=
  levels.foldr Level.max .none

end Level

/-! ## Files -/

/-- The level that a demand asks for an object. -/
def Demand.levelOf (id : ObjectId) : Demand → Level
  | .depend target level => if target = id then level else .none
  | _ => .none

/-- A demand on the file around a type. -/
def Demand.concernsFile : Demand → Bool
  | .depend .. => true
  | .includeHeader _ => true
  | _ => false

namespace SourceFile

theorem level_meet (file : SourceFile) (demand : Demand) (id : ObjectId) :
    (file.meet demand).dependencies.level id =
      (file.dependencies.level id).max (demand.levelOf id) := by
  cases demand with
  | depend target level =>
      rw [meet, depend, Dependencies.register, Dependencies.level, SortedMap.get?_alter,
        Demand.levelOf]
      by_cases htarget : id = target
      · rw [if_pos htarget, if_pos htarget.symm, htarget]
        rfl
      · rw [if_neg htarget, if_neg (Ne.symm htarget), Level.max_none]
        rfl
  | _ => exact (Level.max_none _).symm

/-- A level becomes the highest of the level before and of all that is demanded. -/
theorem level_foldl_meet (file : SourceFile) (demands : List Demand) (id : ObjectId) :
    (demands.foldl meet file).dependencies.level id =
      (file.dependencies.level id).max (Level.highest (demands.map (·.levelOf id))) := by
  induction demands generalizing file with
  | nil => exact (Level.max_none _).symm
  | cons demand rest ih => rw [List.foldl_cons, ih, level_meet, Level.max_assoc]; rfl

theorem mem_includes_meet (file : SourceFile) (demand : Demand) (header : String) :
    header ∈ (file.meet demand).includes ↔
      header ∈ file.includes ∨ .includeHeader header = demand := by
  cases demand with
  | includeHeader other =>
      rw [meet, addInclude, SortedSet.mem_insert, Demand.includeHeader.injEq, or_comm]
  | _ => simp [meet, depend]

theorem mem_includes_foldl_meet (file : SourceFile) (demands : List Demand) (header : String) :
    header ∈ (demands.foldl meet file).includes ↔
      header ∈ file.includes ∨ .includeHeader header ∈ demands := by
  induction demands generalizing file with
  | nil => simp
  | cons demand rest ih => rw [List.foldl_cons, ih, mem_includes_meet, List.mem_cons, or_assoc]

/-- A file meets only the demands that concern it. -/
theorem foldl_meet_filter (file : SourceFile) (demands : List Demand) :
    (demands.filter Demand.concernsFile).foldl meet file = demands.foldl meet file := by
  rw [List.foldl_filter]
  congr 1
  funext file demand
  cases demand <;> rfl

theorem applyAll_ofDemands {α : Type} (file : SourceFile)
    (computation : Logged Demand GenerateError α) :
    file.applyAll (Emit.ofDemands computation).log = computation.log.foldl meet file :=
  List.foldl_map

end SourceFile

/-! ## Records -/

/-- Everything that was recorded is still there; the numeric type under an enumeration may have
changed. -/
structure TypeUsage.Extends (later earlier : TypeUsage) : Prop where
  visibleEnums : ∀ id ∈ earlier.visibleEnums, id ∈ later.visibleEnums
  visibleStructs : ∀ id ∈ earlier.visibleStructs, id ∈ later.visibleStructs
  underlying : ∀ id, (earlier.underlying.get? id).isSome → (later.underlying.get? id).isSome
  hashedKeys : ∀ id ∈ earlier.hashedKeys, id ∈ later.hashedKeys

namespace TypeUsage

theorem Extends.refl (usage : TypeUsage) : usage.Extends usage :=
  ⟨fun _ h => h, fun _ h => h, fun _ h => h, fun _ h => h⟩

theorem Extends.trans {last later earlier : TypeUsage} (hlast : last.Extends later)
    (hlater : later.Extends earlier) : last.Extends earlier where
  visibleEnums id h := hlast.visibleEnums id (hlater.visibleEnums id h)
  visibleStructs id h := hlast.visibleStructs id (hlater.visibleStructs id h)
  underlying id h := hlast.underlying id (hlater.underlying id h)
  hashedKeys id h := hlast.hashedKeys id (hlater.hashedKeys id h)

theorem extends_record (usage : TypeUsage) (demand : Demand) :
    (usage.record demand).Extends usage := by
  cases demand with
  | visibleEnum added =>
      exact { Extends.refl usage with
        visibleEnums := fun id h => SortedSet.mem_insert.mpr (.inr h) }
  | usedStruct added =>
      exact { Extends.refl usage with
        visibleStructs := fun id h => SortedSet.mem_insert.mpr (.inr h) }
  | hashedKey added =>
      exact { Extends.refl usage with
        hashedKeys := fun id h => SortedSet.mem_insert.mpr (.inr h) }
  | underlying added type =>
      refine { Extends.refl usage with underlying := ?_ }
      intro id h
      rw [record, SortedMap.get?_insert]
      split
      · rfl
      · exact h
  | _ => exact Extends.refl usage

end TypeUsage

theorem Run.extends_apply (run : Run) (emission : Emission) :
    (run.apply emission).usage.Extends run.usage := by
  cases emission with
  | demand demand => exact run.usage.extends_record demand
  | _ => exact .refl run.usage

theorem Run.extends_applyAll (run : Run) (log : List Emission) :
    (run.applyAll log).usage.Extends run.usage := by
  induction log generalizing run with
  | nil => exact .refl run.usage
  | cons emission rest ih => exact (ih (run.apply emission)).trans (run.extends_apply emission)

/-! ## Types -/

/-- What the parts of a type demand of the file, one after the other. -/
def Field.fileDemands (graph : Graph) (field : Field) : List Demand :=
  field.parts.flatMap (·.kind.fileDemands graph)

/-- The highest level that a part of a type demands for an object. -/
def Field.demandedLevel (graph : Graph) (field : Field) (id : ObjectId) : Level :=
  Level.highest ((field.fileDemands graph).map (·.levelOf id))

/-- A type with a part that refers to the subclasses of a class other than the root. -/
def Field.NamesSubclass (graph : Graph) (field : Field) : Prop :=
  ∃ part ∈ field.parts, ∃ id, part.kind = .classRef .raw (some id) ∧ graph.isRootObject id = false

variable {graph : Graph}

theorem FieldKind.filter_fileDemands (kind : FieldKind) :
    (kind.fileDemands graph).filter Demand.concernsFile = kind.fileDemands graph := by
  apply List.filter_eq_self.mpr
  intro demand hdemand
  rcases cases_of_mem_fileDemands hdemand with ⟨id, -, level, rfl⟩ | rfl <;> rfl

theorem Field.filter_ownMarks (part : Field) : part.ownMarks.filter Demand.concernsFile = [] := by
  apply List.filter_eq_nil_iff.mpr
  intro demand hdemand
  rcases mem_ownMarks_iff.mp hdemand with ⟨id, rfl, -⟩ | ⟨id, rfl, -⟩ <;> exact Bool.false_ne_true

theorem FieldKind.filter_memberDemands (member : Bool) (kind : FieldKind) :
    (kind.memberDemands member).filter Demand.concernsFile = [] := by
  apply List.filter_eq_nil_iff.mpr
  intro demand hdemand
  obtain ⟨-, id, rfl, -⟩ := mem_memberDemands_iff.mp hdemand
  exact Bool.false_ne_true

/-- A type that can be written demands what its parts demand, in the order of the parts. -/
theorem filter_log_typeText {owner : String} {member : Bool} {slot : Slot} {kind : FieldKind}
    (h : (typeText graph owner member slot kind).Succeeds) :
    (typeText graph owner member slot kind).log.filter Demand.concernsFile =
      Field.fileDemands graph ⟨slot, kind⟩ := by
  have hstep : ∀ step : TypeStep, (step.demands graph).filter Demand.concernsFile =
      step.part?.toList.flatMap (·.kind.fileDemands graph) := by
    intro step
    cases step with
    | part field =>
        rw [TypeStep.demands, List.filter_append, FieldKind.filter_fileDemands,
          Field.filter_ownMarks]
        rfl
    | underlying id kind => rfl
  rw [log_typeText h, List.filter_append, FieldKind.filter_memberDemands, List.nil_append,
    FieldKind.demands, List.filter_flatMap, Field.fileDemands, Field.parts,
    ← FieldKind.filterMap_steps, List.filterMap_eq_flatMap_toList, List.flatMap_assoc]
  simp only [hstep]

/-- Only the subclasses of a class need a header of their own. -/
theorem includeHeader_mem_fileDemands_iff {field : Field} {header : String} :
    .includeHeader header ∈ field.fileDemands graph ↔
      header = subclassOfHeader ∧ field.NamesSubclass graph := by
  have hpart : ∀ kind : FieldKind, .includeHeader header ∈ kind.fileDemands graph ↔
      header = subclassOfHeader ∧
        ∃ id, kind = .classRef .raw (some id) ∧ graph.isRootObject id = false := by
    intro kind
    cases kind with
    | classRef reference metaClass =>
        cases metaClass with
        | none => cases reference <;> simp [FieldKind.fileDemands]
        | some id =>
            cases reference with
            | raw => cases hroot : graph.isRootObject id <;> simp [FieldKind.fileDemands, hroot]
            | _ => simp [FieldKind.fileDemands]
    | interface target =>
        cases target with
        | none => simp [FieldKind.fileDemands]
        | some id => cases hroot : graph.isRootInterface id <;> simp [FieldKind.fileDemands, hroot]
    | byte target => cases target <;> simp [FieldKind.fileDemands]
    | enum target => cases target <;> simp [FieldKind.fileDemands]
    | object reference target => cases target <;> simp [FieldKind.fileDemands]
    | struct target => cases target <;> simp [FieldKind.fileDemands]
    | delegate target => cases target <;> simp [FieldKind.fileDemands]
    | _ => simp [FieldKind.fileDemands]
  rw [Field.fileDemands, List.mem_flatMap, Field.NamesSubclass]
  simp only [hpart]
  constructor
  · rintro ⟨part, hmem, hheader, hnamed⟩
    exact ⟨hheader, part, hmem, hnamed⟩
  · rintro ⟨hheader, part, hmem, hnamed⟩
    exact ⟨part, hmem, hheader, hnamed⟩

/-! ## Files behind types -/

/-- The place behind a type that has been written: its file and record have taken down what the
type demands. -/
def TypeContext.after (graph : Graph) (context : TypeContext) (field : Field) : TypeContext :=
  let log := (context.write graph field).log
  { context with file := context.file.map (·.applyAll log), run := context.run.applyAll log }

/-- A type that can be written raises the levels of its file exactly to what its parts demand, and
includes a header besides exactly if a part refers to subclasses.  Whether or not it can be
written, no level falls and nothing recorded is lost. -/
theorem levels_after_write {context : TypeContext} {file : SourceFile}
    (hfile : context.file = some file) (graph : Graph) (field : Field) :
    ∃ later, (context.after graph field).file = some later ∧
      ((context.write graph field).Succeeds →
        (∀ id, later.dependencies.level id =
          (file.dependencies.level id).max (field.demandedLevel graph id)) ∧
        ∀ header, header ∈ later.includes ↔
          header ∈ file.includes ∨
            header = "Templates/SubclassOf.h" ∧ field.NamesSubclass graph) ∧
      (∀ id, file.dependencies.level id ≤ later.dependencies.level id) ∧
      (context.after graph field).run.usage.Extends context.run.usage := by
  let written := typeText graph context.owner context.isMember field.toSlot field.kind
  have hwrite : context.write graph field = Emit.ofDemands written := context.write_eq graph field
  have hlater : file.applyAll (context.write graph field).log =
      written.log.foldl SourceFile.meet file := by
    rw [hwrite, SourceFile.applyAll_ofDemands]
  refine ⟨written.log.foldl SourceFile.meet file, ?_, ?_, ?_, ?_⟩
  · rw [TypeContext.after, hfile, ← hlater]
    rfl
  · rintro ⟨text, htext⟩
    have hasks : written.log.filter Demand.concernsFile = field.fileDemands graph := by
      apply filter_log_typeText
      rw [hwrite] at htext
      exact ⟨text, htext⟩
    rw [← SourceFile.foldl_meet_filter, hasks]
    refine ⟨fun id => SourceFile.level_foldl_meet file (field.fileDemands graph) id, ?_⟩
    intro header
    rw [SourceFile.mem_includes_foldl_meet, includeHeader_mem_fileDemands_iff, subclassOfHeader]
  · intro id
    rw [SourceFile.level_foldl_meet]
    exact Level.le_max_left _ _
  · exact context.run.extends_applyAll _

/-- A class of tools, and the aggregate that a bench keeps them in. -/
def workshop : Graph where
  objects := #[
    { name := "Tool"
      package := "/Script/Game"
      kind := .classType { flags := ClassFlags.native } },
    { name := "Rack"
      package := "/Script/Game"
      kind := .structType { flags := StructFlags.native } }]

/-- A member that maps aggregates to lists of subclasses. -/
def toolsOfRacks : Field where
  name := "Tools"
  kind := .mapOf (.struct (some ⟨1⟩)) (.arrayOf (.classRef .raw (some ⟨0⟩)))

/-- A file that knows the aggregate by its name. -/
def benchFile : SourceFile where
  object := ⟨2⟩
  module := "Game"
  baseName := "Bench"
  role := .declaration
  dependencies := Dependencies.register .empty ⟨1⟩ .forward

def benchMember : TypeContext := ⟨"Bench", some benchFile, .empty, true⟩

theorem levels_after_write_toolsOfRacks :
    benchFile.dependencies.level ⟨1⟩ = .forward ∧
      ∃ later, (benchMember.after workshop toolsOfRacks).file = some later ∧
        later.dependencies.level ⟨0⟩ = .forward ∧ later.dependencies.level ⟨1⟩ = .full ∧
        later.dependencies.level ⟨2⟩ = .none ∧
        "Templates/SubclassOf.h" ∈ later.includes := by
  have hfile : benchMember.file = some benchFile := rfl
  obtain ⟨later, hlater, hmet, -⟩ := levels_after_write hfile workshop toolsOfRacks
  obtain ⟨hlevels, hheaders⟩ := hmet ⟨_, rfl⟩
  refine ⟨by decide, later, hlater, ?_, ?_, ?_, ?_⟩
  · exact (hlevels ⟨0⟩).trans (by decide)
  · exact (hlevels ⟨1⟩).trans (by decide)
  · exact (hlevels ⟨2⟩).trans (by decide)
  · refine (hheaders "Templates/SubclassOf.h").mpr (.inr ⟨rfl, ?_⟩)
    refine ⟨⟨⟨"Inner", .none, 1, 0, none⟩, .classRef .raw (some ⟨0⟩)⟩, ?_, ⟨0⟩, rfl, by decide⟩
    decide

end HeaderSynth
