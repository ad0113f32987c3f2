import HeaderSynth.Proofs.Annotation.Collected
import HeaderSynth.Proofs.Dump.Headings
import HeaderSynth.Proofs.Dump.Listing
import HeaderSynth.Proofs.Reflection.Walks

/-!
# Exposure of aggregates and enumerations

The annotation of an aggregate or enumeration exposes it to scripts by the switch
`BlueprintType`, where the record of the run holds its mark.  Enumerations are written last and
mark nothing, so theirs are the marks of everything that is planned.  Aggregates are written
while others are still to come: the annotation of an aggregate depends on what was planned
before it.
-/

namespace HeaderSynth

/-! ## Annotations of switches -/

/-- The arguments of an annotation that has the switch `BlueprintType` where `exposed` says so,
and else switches of the given names. -/
structure Arguments.Expose (arguments : List Argument) (names : List String) (exposed : Prop) :
    Prop where
  mem : ∀ argument ∈ arguments, ∃ name, argument = .switch 0 name ∧
    (name = "BlueprintType" ∨ name ∈ names)
  exposed : .switch 0 "BlueprintType" ∈ arguments ↔ exposed

theorem Arguments.Expose.exists_switches {arguments : List Argument} {names : List String}
    {exposed : Prop} (h : Arguments.Expose arguments names exposed) :
    ∃ switches : SortedSet String,
      textOf arguments = .ok (String.intercalate ", " switches.toList) ∧
      (∀ name ∈ switches, name = "BlueprintType" ∨ name ∈ names) ∧
      ("BlueprintType" ∈ switches ↔ exposed) := by
  have hswitch : ∀ argument ∈ arguments, ∃ name, argument = .switch 0 name := by
    intro argument hargument
    obtain ⟨name, hname, -⟩ := h.mem argument hargument
    exact ⟨name, hname⟩
  obtain ⟨switches, htext, hmem⟩ := textOf_switches hswitch
  refine ⟨switches, htext, ?_, (hmem _).trans h.exposed⟩
  intro name hname
  obtain ⟨other, hother, hnames⟩ := h.mem _ ((hmem name).mp hname)
  cases hother
  exact hnames

/-- The switch comes beside arguments of other names. -/
theorem Arguments.expose_of_mem_iff {arguments others : List Argument} {names : List String}
    {exposed : Prop} (hnames : "BlueprintType" ∉ names)
    (hothers : ∀ argument ∈ others, ∃ name ∈ names, argument = .switch 0 name)
    (h : ∀ argument, argument ∈ arguments ↔
      exposed ∧ argument = .switch 0 "BlueprintType" ∨ argument ∈ others) :
    Arguments.Expose arguments names exposed := by
  constructor
  · intro argument hargument
    rcases (h argument).mp hargument with ⟨-, hswitch⟩ | hother
    · exact ⟨"BlueprintType", hswitch, .inl rfl⟩
    · obtain ⟨name, hname, hswitch⟩ := hothers argument hother
      exact ⟨name, hswitch, .inr hname⟩
  · have hother : .switch 0 "BlueprintType" ∉ others := by
      intro hother
      obtain ⟨name, hname, hswitch⟩ := hothers _ hother
      cases hswitch
      exact hnames hname
    rw [h, or_iff_left hother]
    exact and_iff_left rfl

/-- The switches of an aggregate that its flags decide. -/
def structSwitches : List String := ["Atomic", "Immutable", "NoExport"]

theorem expose_structArguments {graph : Graph} {options : GeneratorOptions}
    (hoptions : options.exposeFields = false) (usage : TypeUsage) (id : ObjectId)
    (info : StructInfo) :
    Arguments.Expose (graph.structArguments options usage id info) structSwitches
      (graph.hasVisibleField id = true ∨ id ∈ usage.visibleStructs) := by
  refine Arguments.expose_of_mem_iff (by decide) ?_ fun argument => List.mem_append.trans
    (or_congr_left ?_)
  · intro argument h
    obtain ⟨group, hgroup, rule, hrule, rfl⟩ := exists_rule_of_mem_firedArguments h
    simp only [RuleTable.structs, List.mem_cons, List.not_mem_nil, or_false] at hgroup
    rcases hgroup with rfl | rfl | rfl
    all_goals
      rw [List.mem_singleton.mp hrule]
      exact ⟨_, by simp [structSwitches], rfl⟩
  · rw [hoptions]
    split <;> simp_all

/-- The switches of an enumeration that its flags decide. -/
def enumSwitches : List String := ["Flags"]

theorem expose_enumArguments (options : GeneratorOptions) (usage : TypeUsage) (id : ObjectId)
    (info : EnumInfo) :
    Arguments.Expose (enumArguments options usage id info) enumSwitches
      (id ∈ usage.visibleEnums ∨ options.exposeEnums = true ∧ info.fitsByte usage id = true) := by
  refine Arguments.expose_of_mem_iff (by decide) ?_ fun argument => (List.mem_append.trans
    or_comm).trans (or_congr_left ?_)
  · intro argument h
    obtain ⟨group, hgroup, rule, hrule, rfl⟩ := exists_rule_of_mem_firedArguments h
    rw [List.mem_singleton.mp hgroup] at hrule
    rw [List.mem_singleton.mp hrule]
    exact ⟨_, by simp [enumSwitches], rfl⟩
  · split <;> simp_all

/-! ## Headings of aggregates and enumerations -/

theorem beginsWith_declareStruct {graph : Graph} {options : GeneratorOptions} {usage : TypeUsage}
    {id : ObjectId} {info : StructInfo} {text : String}
    (h : Arguments.textOf (graph.structArguments options usage id info) = .ok text)
    (module : String) (object : Object) :
    (declareStruct graph options module usage id object info).BeginsWith s!"USTRUCT({text})" := by
  rw [declareStruct, annotationText, h]
  refine Emit.BeginsWith.bind_right [] rfl fun annotations hannotations => ?_
  cases hannotations
  cases info.superStruct with
  | none =>
      refine Emit.BeginsWith.bind_right [] rfl fun base _ => ?_
      exact (Emit.BeginsWith.line _).bind_left _
  | some parent =>
      refine Emit.BeginsWith.bind_right [.depend parent .full] rfl fun _ _ => ?_
      refine Emit.BeginsWith.bind_right [] rfl fun base _ => ?_
      exact (Emit.BeginsWith.line _).bind_left _

theorem beginsWith_declareEnum {options : GeneratorOptions} {usage : TypeUsage} {id : ObjectId}
    {info : EnumInfo} {text : String}
    (h : Arguments.textOf (enumArguments options usage id info) = .ok text) (object : Object) :
    (declareEnum options usage id object info).BeginsWith s!"UENUM({text})" := by
  rw [declareEnum, annotationText, h]
  refine Emit.BeginsWith.bind_right [] rfl fun annotations hannotations => ?_
  cases hannotations
  exact (Emit.BeginsWith.line _).bind_left _

/-! ## What exposes a type -/

/-- A type that the declaration of `user` writes has the aggregate `id` as a part. -/
def Graph.UsesStruct (graph : Graph) (user id : ObjectId) : Prop :=
  ∃ object, graph.object? user = some object ∧ ∃ use ∈ graph.typeUses object,
    ∃ part ∈ use.field.parts, part.kind = .struct (some id)

/-- A type that the declaration of `user` writes has a part with the values of the enumeration
`id` that scripts can see. -/
def Graph.ShowsEnum (graph : Graph) (user id : ObjectId) : Prop :=
  ∃ object, graph.object? user = some object ∧ ∃ use ∈ graph.typeUses object,
    ∃ part ∈ use.field.parts, part.flags.contains PropertyFlags.blueprintVisible = true ∧
      part.kind.enumType? = some id

/-- The object or one of its super types has a field that scripts can see. -/
def Graph.ShowsField (graph : Graph) (id : ObjectId) : Prop :=
  ∃ ancestor object, Graph.Reaches graph.super? id ancestor ∧
    graph.object? ancestor = some object ∧ ∃ field ∈ object.fields,
      field.flags.contains PropertyFlags.blueprintVisible = true

theorem Graph.hasVisibleField_iff (graph : Graph) (id : ObjectId) :
    graph.hasVisibleField id = true ↔ graph.ShowsField id := by
  rw [hasVisibleField, List.any_eq_true]
  constructor
  · rintro ⟨ancestor, hancestor, hvisible⟩
    split at hvisible
    · rename_i object hobject
      exact ⟨ancestor, object, (mem_chain graph.leadsOn_super?).mp hancestor, hobject,
        List.any_eq_true.mp hvisible⟩
    · cases hvisible
  · rintro ⟨ancestor, object, hreaches, hobject, hfield⟩
    refine ⟨ancestor, (mem_chain graph.leadsOn_super?).mpr hreaches, ?_⟩
    rw [hobject]
    exact List.any_eq_true.mpr hfield

/-- The header of `object` has an annotation of switches among `names`, with `BlueprintType`
exactly where `exposed` says so. -/
def Dump.Annotates (dump : Dump) (object : PlannedObject) (opening : String)
    (names : List String) (exposed : Prop) : Prop :=
  ∃ switches : SortedSet String,
    dump.HasHeading object (opening ++ String.intercalate ", " switches.toList ++ ")") ∧
    (∀ name ∈ switches, name = "BlueprintType" ∨ name ∈ names) ∧
    ("BlueprintType" ∈ switches ↔ exposed)

theorem Dump.annotates_of_expose {dump : Dump} {object : PlannedObject} {opening : String}
    {arguments : List Argument} {names : List String} {exposed : Prop}
    (h : Arguments.Expose arguments names exposed)
    (hheading : ∀ text, Arguments.textOf arguments = .ok text →
      dump.HasHeading object (opening ++ text ++ ")")) :
    dump.Annotates object opening names exposed := by
  obtain ⟨switches, htext, hnames, hexposed⟩ := h.exists_switches
  exact ⟨switches, hheading _ htext, hnames, hexposed⟩

/-! ## Aggregates -/

/-- An aggregate is exposed where it or a super type has a visible field, or where an object
that is planned before it uses it. -/
theorem struct_exposure_of_generate {graph : Graph} {config : Config} {dump : Dump}
    (hoptions : config.generator.exposeFields = false) (h : generate graph config = .ok dump) :
    ∃ names planned, graph.plan config = .ok (names, planned) ∧
      ∀ earlier object later, planned = earlier ++ object :: later →
        ∀ reflected info, graph.object? object.id = some reflected →
          reflected.kind = .structType info →
          dump.Annotates object "USTRUCT(" structSwitches
            (graph.ShowsField object.id ∨
              ∃ user ∈ earlier, graph.UsesStruct user.id object.id) := by
  obtain ⟨names, planned, hplan, -⟩ := graph.exists_plan config
  refine ⟨names, planned, hplan, ?_⟩
  rintro earlier object later rfl reflected info hreflected hkind
  obtain ⟨found, usage, writing, hfound, hwriting, -, hrecord, hheading⟩ :=
    exists_writing_of_generate h hplan
  obtain rfl : found = reflected := Option.some.inj (hfound.symm.trans hreflected)
  rw [Object.writing, hkind] at hwriting
  cases hwriting
  have hearlier : object.id ∈ usage.visibleStructs ↔
      ∃ user ∈ earlier, graph.UsesStruct user.id object.id :=
    hrecord.holds_iff (.usedStruct object.id) trivial
  rw [← hearlier, ← graph.hasVisibleField_iff]
  apply Dump.annotates_of_expose (expose_structArguments hoptions usage object.id info)
  intro text htext
  exact hheading _ (beginsWith_declareStruct htext object.module found)

/-- An aggregate without fields. -/
def coin : StructInfo where
  flags := StructFlags.native

/-- An aggregate that holds another one. -/
def purse : StructInfo where
  flags := StructFlags.native
  fields := [
    { name := "Content", kind := .struct (some ⟨0⟩), flags := PropertyFlags.nativeAccessPublic }]

/-- The second aggregate has a field of the type of the first. -/
def satchel : Graph where
  objects := #[
    { name := "Coin", package := "/Script/Game", kind := .structType coin },
    { name := "Purse", package := "/Script/Game", kind := .structType purse }]

theorem struct_exposure_of_generate_satchel :
    ∃ dump, generate satchel objectFilesOnly = .ok dump ∧
      ∃ names planned, satchel.plan objectFilesOnly = .ok (names, planned) ∧
        ∀ earlier object later, planned = earlier ++ object :: later →
          ∀ reflected info, satchel.object? object.id = some reflected →
            reflected.kind = .structType info →
            dump.Annotates object "USTRUCT(" structSwitches
              (satchel.ShowsField object.id ∨
                ∃ user ∈ earlier, satchel.UsesStruct user.id object.id) := by
  have hruns : (generate satchel objectFilesOnly).toBool = true := by decide +kernel
  obtain ⟨dump, hdump⟩ := Outcome.exists_of_toBool hruns
  exact ⟨dump, hdump, struct_exposure_of_generate rfl hdump⟩

/-- The field of the second aggregate does not expose the first, which is written before. -/
theorem satchel_hides_coin :
    ∃ dump names planned, generate satchel objectFilesOnly = .ok dump ∧
      satchel.plan objectFilesOnly = .ok (names, planned) ∧
      planned = [⟨⟨0⟩, "Game", "Coin"⟩, ⟨⟨1⟩, "Game", "Purse"⟩] ∧
      satchel.UsesStruct ⟨1⟩ ⟨0⟩ ∧
      dump.file? "Game/Public/Coin.h" = some ⟨"Game/Public/Coin.h",
        "#pragma once\n#include \"CoreMinimal.h\"\n#include \"Coin.generated.h\"\n\n" ++
        "USTRUCT()\nstruct FCoin \x7b\n    GENERATED_BODY()\npublic:\n" ++
        "    GAME_API FCoin();\n\x7d;\n\n"⟩ := by
  have hruns : (generate satchel objectFilesOnly).toBool = true := by decide +kernel
  obtain ⟨dump, hdump⟩ := Outcome.exists_of_toBool hruns
  have hfile : dump.file? "Game/Public/Coin.h" =
      (generate satchel objectFilesOnly).toOption.bind (·.file? "Game/Public/Coin.h") := by
    rw [hdump]
    rfl
  refine ⟨dump, _, _, hdump, rfl, ?_, ?_, ?_⟩
  · decide +kernel
  · exact ⟨_, rfl, _, List.mem_cons_self, _, List.mem_cons_self, rfl⟩
  · rw [hfile]
    decide +kernel

/-! ## Enumerations -/

/-- The declaration of an enumeration uses no types. -/
theorem Graph.not_marks_of_enumType {graph : Graph} {id : ObjectId} {object : Object}
    {info : EnumInfo} (h : graph.object? id = some object) (hkind : object.kind = .enumType info)
    (demand : Demand) : ¬graph.Marks id demand := by
  rintro ⟨found, hfound, use, huse, -⟩
  obtain rfl : object = found := Option.some.inj (h.symm.trans hfound)
  simp [typeUses, Object.declaredFields, declaredFunctions, hkind] at huse

/-- Behind an enumeration only enumerations are planned. -/
theorem Graph.Lists.exists_enumType_of_mem {graph : Graph} {config : Config}
    {earlier later : List PlannedObject} {object other : PlannedObject} {reflected : Object}
    {info : EnumInfo} (h : graph.Lists config (earlier ++ object :: later))
    (hreflected : graph.object? object.id = some reflected)
    (hkind : reflected.kind = .enumType info) (hother : other ∈ later) :
    ∃ found info, graph.object? other.id = some found ∧ found.kind = .enumType info := by
  have heligible : ∀ planned ∈ earlier ++ object :: later,
      ∃ category, graph.IsEligible config planned.id category planned.module :=
    fun planned hplanned => (h.mem_iff _ _).mp ⟨planned, hplanned, rfl, rfl⟩
  obtain ⟨category, hcategory⟩ := heligible object (by simp)
  obtain ⟨last, hlast⟩ := heligible other (by simp [hother])
  have hprecedes : graph.Precedes config object.id other.id :=
    (List.pairwise_cons.mp (List.pairwise_append.mp h.ordered).2.1).1 other hother
  obtain rfl : category = .enumType := by
    obtain ⟨-, found, hfound, -, hof⟩ := hcategory
    obtain rfl : reflected = found := Option.some.inj (hreflected.symm.trans hfound)
    exact Option.some.inj ((Object.category?_eq_some.mpr hof).symm.trans
      (Object.category?_eq_some.mpr ⟨info, hkind⟩))
  obtain rfl : last = .enumType := by
    rcases hprecedes _ _ _ _ hcategory hlast with hrank | ⟨hsame, -⟩
    · cases last <;> exact absurd hrank (by decide)
    · exact hsame.symm
  obtain ⟨-, found, hfound, -, info, hinfo⟩ := hlast
  exact ⟨found, info, hfound, hinfo⟩

/-- What is planned behind an enumeration, and the enumeration itself, shows no values. -/
theorem Graph.Lists.exists_showsEnum_iff {graph : Graph} {config : Config}
    {earlier later : List PlannedObject} {object : PlannedObject} {reflected : Object}
    {info : EnumInfo} (h : graph.Lists config (earlier ++ object :: later))
    (hreflected : graph.object? object.id = some reflected)
    (hkind : reflected.kind = .enumType info) :
    (∃ user ∈ earlier ++ object :: later, graph.ShowsEnum user.id object.id) ↔
      ∃ user ∈ earlier, graph.ShowsEnum user.id object.id := by
  have hbehind : ∀ user ∈ object :: later, ¬graph.ShowsEnum user.id object.id := by
    intro user huser
    rcases List.mem_cons.mp huser with rfl | hlater
    · exact graph.not_marks_of_enumType hreflected hkind (.visibleEnum user.id)
    · obtain ⟨other, info, hother, hotherKind⟩ :=
        h.exists_enumType_of_mem hreflected hkind hlater
      exact graph.not_marks_of_enumType hother hotherKind (.visibleEnum object.id)
  constructor
  · rintro ⟨user, huser, hshows⟩
    rcases List.mem_append.mp huser with hbefore | hafter
    · exact ⟨user, hbefore, hshows⟩
    · exact absurd hshows (hbehind user hafter)
  · rintro ⟨user, huser, hshows⟩
    exact ⟨user, List.mem_append_left _ huser, hshows⟩

/-- The annotation of an enumeration exposes it where a planned object uses a type that shows its
values, and where the configuration exposes it and its recorded width allows that. -/
theorem annotates_enum_of_generate {graph : Graph} {config : Config} {dump : Dump}
    {names : NameRegistry} {earlier later : List PlannedObject} {object : PlannedObject}
    {reflected : Object} {info : EnumInfo} (h : generate graph config = .ok dump)
    (hplan : graph.plan config = .ok (names, earlier ++ object :: later))
    (hlists : graph.Lists config (earlier ++ object :: later))
    (hreflected : graph.object? object.id = some reflected)
    (hkind : reflected.kind = .enumType info) :
    ∃ usage, graph.IsRecordOf config.generator earlier usage ∧
      dump.Annotates object "UENUM(" enumSwitches
        ((∃ user ∈ earlier ++ object :: later, graph.ShowsEnum user.id object.id) ∨
          config.generator.exposeEnums = true ∧ info.fitsByte usage object.id = true) := by
  obtain ⟨found, usage, writing, hfound, hwriting, -, hrecord, hheading⟩ :=
    exists_writing_of_generate h hplan
  obtain rfl : found = reflected := Option.some.inj (hfound.symm.trans hreflected)
  rw [Object.writing, hkind] at hwriting
  cases hwriting
  have hearlier : object.id ∈ usage.visibleEnums ↔
      ∃ user ∈ earlier, graph.ShowsEnum user.id object.id :=
    hrecord.holds_iff (.visibleEnum object.id) trivial
  refine ⟨usage, hrecord, ?_⟩
  rw [hlists.exists_showsEnum_iff hreflected hkind, ← hearlier]
  apply Dump.annotates_of_expose (expose_enumArguments config.generator usage object.id info)
  intro text htext
  exact hheading _ (beginsWith_declareEnum htext found)

/-- An enumeration is exposed where any planned object, wherever it is planned, uses a type that
shows its values. -/
theorem enum_exposure_of_generate {graph : Graph} {config : Config} {dump : Dump}
    (hoptions : config.generator.exposeEnums = false) (h : generate graph config = .ok dump) :
    ∃ names planned, graph.plan config = .ok (names, planned) ∧
      ∀ object ∈ planned, ∀ reflected info, graph.object? object.id = some reflected →
        reflected.kind = .enumType info →
        dump.Annotates object "UENUM(" enumSwitches
          (∃ user ∈ planned, graph.ShowsEnum user.id object.id) := by
  obtain ⟨names, planned, hplan, hlists⟩ := graph.exists_plan config
  refine ⟨names, planned, hplan, ?_⟩
  intro object hobject reflected info hreflected hkind
  obtain ⟨earlier, later, rfl⟩ := List.append_of_mem hobject
  obtain ⟨usage, -, hannotates⟩ :=
    annotates_enum_of_generate h hplan hlists hreflected hkind
  simpa only [hoptions, Bool.false_eq_true, false_and, or_false] using hannotates

/-- An aggregate with a list of values that scripts can see one by one. -/
def brush : StructInfo where
  flags := StructFlags.native
  fields := [
    { name := "Hues", flags := PropertyFlags.nativeAccessPublic,
      kind := .array { name := "Hue", flags := PropertyFlags.blueprintVisible }
        (.byte (some ⟨0⟩)) }]

/-- Two enumerations, and behind them an aggregate with values of the first. -/
def palette : Graph where
  objects := #[
    { name := "EHue", package := "/Script/Game", kind := .enumType {} },
    { name := "EMood", package := "/Script/Game", kind := .enumType {} },
    { name := "Brush", package := "/Script/Game", kind := .structType brush }]

theorem enum_exposure_of_generate_palette :
    ∃ dump names planned, generate palette objectFilesOnly = .ok dump ∧
      palette.plan objectFilesOnly = .ok (names, planned) ∧
      ⟨⟨0⟩, "Game", "EHue"⟩ ∈ planned ∧ palette.ShowsEnum ⟨2⟩ ⟨0⟩ ∧
      dump.Annotates ⟨⟨0⟩, "Game", "EHue"⟩ "UENUM(" enumSwitches
        (∃ user ∈ planned, palette.ShowsEnum user.id ⟨0⟩) := by
  have hruns : (generate palette objectFilesOnly).toBool = true := by decide +kernel
  obtain ⟨dump, hdump⟩ := Outcome.exists_of_toBool hruns
  obtain ⟨names, planned, hplan, hexposure⟩ := enum_exposure_of_generate rfl hdump
  have hplanned : ⟨⟨0⟩, "Game", "EHue"⟩ ∈ planned := by
    have hsome : (palette.plan objectFilesOnly).toOption.any
        (fun result => result.2.contains ⟨⟨0⟩, "Game", "EHue"⟩) = true := by decide +kernel
    rw [hplan] at hsome
    exact List.contains_iff_mem.mp hsome
  refine ⟨dump, names, planned, hdump, hplan, hplanned, ?_, ?_⟩
  · exact ⟨_, rfl, _, List.mem_cons_self, _, List.mem_cons_of_mem _ List.mem_cons_self, by decide,
      rfl⟩
  · exact hexposure _ hplanned _ _ rfl rfl

end HeaderSynth
