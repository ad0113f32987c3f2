import HeaderSynth.Proofs.Dump.Files
import HeaderSynth.Proofs.Sorted.ByteOrder
import Mathlib.Data.List.Basic

/-!
# What a plan lists

A plan exists for every graph, well formed or not.  It lists each object that gets files once:
delegates, then classes and interfaces, then aggregates, then enumerations, and the objects of
one category in enumeration order.  A dump that succeeds writes exactly the files of its plan,
so that a list made from the plan alone tells what a dump would write.
-/

namespace HeaderSynth

theorem Text.afterPrefix?_eq_some {start text rest : String} :
    afterPrefix? start text = some rest ↔ text = start ++ rest := by
  rw [afterPrefix?, Option.map_eq_some_iff]
  constructor
  · rintro ⟨characters, hcharacters, rfl⟩
    have htext := List.isPrefixOf?_eq_some_iff_append_eq.mp hcharacters
    rw [← String.toList_inj, String.toList_append, String.toList_ofList, htext]
  · rintro rfl
    refine ⟨rest.toList, ?_, String.ofList_toList⟩
    rw [List.isPrefixOf?_eq_some_iff_append_eq, String.toList_append]

/-! ## Eligible objects -/

/-- What an object of a category is. -/
def Object.IsOf (object : Object) : Category → Prop
  | .delegate => object.outer = none ∧ object.isDelegateSignature = true
  | .classType => ∃ info, (object.kind = .classType info ∨ object.kind = .interfaceType info) ∧
      info.flags.contains ClassFlags.native = true
  | .structType => ∃ info, object.kind = .structType info ∧
      info.flags.contains StructFlags.native = true
  | .enumType => ∃ info, object.kind = .enumType info

/-- The place of a category in a plan. -/
def Category.rank : Category → Nat
  | .delegate => 0
  | .classType => 1
  | .structType => 2
  | .enumType => 3

/-- A package is that of a module that is not left out. -/
def Config.Generates (config : Config) (package module : String) : Prop :=
  package = Graph.scriptPackagePrefix ++ module ∧ module ≠ "" ∧ module ∉ config.ignoredModules

/-- An object gets files in `module`, among those of its category. -/
def Graph.IsEligible (graph : Graph) (config : Config) (id : ObjectId) (category : Category)
    (module : String) : Prop :=
  id ∈ graph.ids ∧ ∃ object, graph.object? id = some object ∧
    config.Generates object.package module ∧ object.IsOf category

theorem Object.category?_eq_some {object : Object} {category : Category} :
    object.category? = some category ↔ object.IsOf category := by
  cases hkind : object.kind with
  | function info =>
      cases hdelegate : info.flags.contains FunctionFlags.delegate <;> cases category <;>
        simp [category?, IsOf, isDelegateSignature, hkind, hdelegate]
  | _ => cases category <;> simp [category?, IsOf, isDelegateSignature, hkind]

namespace Graph

theorem moduleFor?_eq_some_iff {graph : Graph} {config : Config} {id : ObjectId} {module : String} :
    graph.moduleFor? config id = some module ↔
      ∃ object, graph.object? id = some object ∧ config.Generates object.package module := by
  have hignored : config.ignoresModule module = true ↔ module ∈ config.ignoredModules := by
    rw [Config.ignoresModule, Config.ignoredModules, SortedSet.mem_ofList, List.contains_iff_mem]
  have hmodule : graph.moduleFor? config id = some module ↔
      graph.moduleName id = module ∧ module ≠ "" ∧ module ∉ config.ignoredModules := by
    rw [moduleFor?, ← hignored]
    by_cases hname : graph.moduleName id = module
    · simp [hname]
    · simp [hname]
  rw [hmodule, moduleName]
  cases graph.object? id with
  | none =>
      simp only [Option.bind_none, Option.getD_none]
      constructor
      · rintro ⟨rfl, hempty, -⟩
        exact absurd rfl hempty
      · rintro ⟨object, hobject, -⟩
        cases hobject
  | some object =>
      simp only [Option.bind_some, Option.some.injEq, exists_eq_left', Config.Generates,
        ← Text.afterPrefix?_eq_some]
      cases Text.afterPrefix? scriptPackagePrefix object.package with
      | none =>
          simp only [Option.getD_none, reduceCtorEq, false_and, iff_false]
          rintro ⟨rfl, hempty, -⟩
          exact hempty rfl
      | some found => simp

theorem mem_eligible {graph : Graph} {config : Config} {category : Category} {id : ObjectId} :
    id ∈ graph.eligible config category ↔ ∃ module, graph.IsEligible config id category module := by
  simp only [eligible, List.mem_filter, Bool.and_eq_true, decide_eq_true_eq, IsEligible,
    Option.isSome_iff_exists, moduleFor?_eq_some_iff, Option.bind_eq_some_iff,
    Object.category?_eq_some]
  constructor
  · rintro ⟨hid, ⟨module, object, hobject, hmodule⟩, other, hother, hcategory⟩
    obtain rfl : object = other := Option.some.inj (hobject.symm.trans hother)
    exact ⟨module, hid, object, hobject, hmodule, hcategory⟩
  · rintro ⟨module, hid, object, hobject, hmodule, hcategory⟩
    exact ⟨hid, ⟨module, object, hobject, hmodule⟩, object, hobject, hcategory⟩

/-! ## The order of a plan -/

theorem pairwise_ids (graph : Graph) :
    graph.ids.Pairwise fun first second => first.index < second.index := by
  rw [ids, List.pairwise_map]
  have hbound := (UInt32.ofNat graph.size).toNat_lt
  refine List.pairwise_lt_range.imp_of_mem fun hfirst hsecond hlt => ?_
  rw [List.mem_range] at hfirst hsecond
  rw [ObjectId.index_ofIndex (hfirst.trans hbound), ObjectId.index_ofIndex (hsecond.trans hbound)]
  exact hlt

theorem mem_ids {graph : Graph} (h : graph.size < UInt32.size) (id : ObjectId) :
    id ∈ graph.ids ↔ (graph.object? id).isSome := by
  have hcount : (UInt32.ofNat graph.size).toNat = graph.size := UInt32.toNat_ofNat_of_lt h
  rw [ids, hcount, List.mem_map, object?, isSome_getElem?]
  constructor
  · rintro ⟨index, hindex, rfl⟩
    rw [List.mem_range] at hindex
    rwa [ObjectId.index_ofIndex (hindex.trans h)]
  · intro hid
    exact ⟨id.index, List.mem_range.mpr hid,
      ObjectId.index_injective (ObjectId.index_ofIndex id.number.toNat_lt)⟩

/-- One object stands before another: by category, and then by enumeration. -/
def Precedes (graph : Graph) (config : Config) (first second : ObjectId) : Prop :=
  ∀ category module other module',
    graph.IsEligible config first category module → graph.IsEligible config second other module' →
      category.rank < other.rank ∨ category = other ∧ first.index < second.index

theorem IsEligible.category_unique {graph : Graph} {config : Config} {id : ObjectId}
    {category other : Category} {module module' : String}
    (h : graph.IsEligible config id category module)
    (hother : graph.IsEligible config id other module') : category = other := by
  obtain ⟨-, object, hobject, -, hcategory⟩ := h
  obtain ⟨-, found, hfound, -, hotherCategory⟩ := hother
  obtain rfl : object = found := Option.some.inj (hobject.symm.trans hfound)
  rw [← Object.category?_eq_some] at hcategory hotherCategory
  exact Option.some.inj (hcategory.symm.trans hotherCategory)

theorem pairwise_eligible (graph : Graph) (config : Config) (category : Category) :
    (graph.eligible config category).Pairwise (graph.Precedes config) := by
  refine (graph.pairwise_ids.filter _).imp_of_mem fun {first second} hfirst hsecond hlt => ?_
  obtain ⟨module, hfirst⟩ := mem_eligible.mp hfirst
  obtain ⟨module', hsecond⟩ := mem_eligible.mp hsecond
  intro found _ other _ hfound hother
  obtain rfl := hfirst.category_unique hfound
  obtain rfl := hsecond.category_unique hother
  exact .inr ⟨rfl, hlt⟩

theorem pairwise_processingOrder (graph : Graph) (config : Config) :
    (graph.processingOrder config).Pairwise (graph.Precedes config) := by
  rw [processingOrder, List.pairwise_flatMap]
  refine ⟨fun category _ => graph.pairwise_eligible config category, ?_⟩
  have hranks : Category.all.Pairwise fun category other => category.rank < other.rank := by
    decide
  refine hranks.imp fun {category other} hrank first hfirst second hsecond => ?_
  obtain ⟨_, hfirst⟩ := mem_eligible.mp hfirst
  obtain ⟨_, hsecond⟩ := mem_eligible.mp hsecond
  intro found _ foundOther _ hfound hfoundOther
  obtain rfl := hfirst.category_unique hfound
  obtain rfl := hsecond.category_unique hfoundOther
  exact .inl hrank

theorem mem_processingOrder_iff {graph : Graph} {config : Config} {id : ObjectId} :
    id ∈ graph.processingOrder config ↔
      ∃ category module, graph.IsEligible config id category module := by
  rw [processingOrder, List.mem_flatMap]
  constructor
  · rintro ⟨category, -, hid⟩
    exact ⟨category, mem_eligible.mp hid⟩
  · rintro ⟨category, hid⟩
    exact ⟨category, by cases category <;> decide, mem_eligible.mpr hid⟩

theorem nodup_processingOrder (graph : Graph) (config : Config) :
    (graph.processingOrder config).Nodup := by
  refine (graph.pairwise_processingOrder config).imp_of_mem fun {first second} hfirst _ hlt => ?_
  rintro rfl
  obtain ⟨category, module, hfirst⟩ := mem_processingOrder_iff.mp hfirst
  rcases hlt category module category module hfirst hfirst with hrank | ⟨-, hindex⟩
  · exact absurd hrank (Nat.lt_irrefl _)
  · exact absurd hindex (Nat.lt_irrefl _)

/-! ## Planning never fails -/

/-- An object that gets files has a header name. -/
theorem headerName_of_isEligible {graph : Graph} {config : Config} {id : ObjectId}
    {category : Category} {module : String} (h : graph.IsEligible config id category module) :
    ∃ base, graph.headerName id = .ok base := by
  obtain ⟨-, object, hobject, -, hcategory⟩ := h
  have hget : graph.get id = .ok object := get_eq_ok.mpr hobject
  rw [headerName, hget]
  cases hkind : object.kind with
  | function info =>
      have hsignature : object.isDelegateSignature = true := by
        cases category <;> simp_all [Object.IsOf]
      exact ⟨delegateBaseName object.name ++ "Delegate",
        by simp [bind, Except.bind, hkind, hsignature, pure, Except.pure]⟩
  | instanceOf type => cases category <;> simp_all [Object.IsOf, Object.isDelegateSignature]
  | _ => exact ⟨object.name, by simp [bind, Except.bind, hkind, pure, Except.pure]⟩

/-- Objects that get files can all be planned, from any registry. -/
theorem exists_planObjects {graph : Graph} {config : Config} {ids : List ObjectId}
    (h : ∀ id ∈ ids, id ∈ graph.processingOrder config) (names : NameRegistry) :
    ∃ final planned, graph.planObjects config names ids = .ok (final, planned) ∧
      planned.map (·.id) = ids := by
  induction ids generalizing names with
  | nil => exact ⟨names, [], rfl, rfl⟩
  | cons id rest ih =>
      have hid := h id List.mem_cons_self
      obtain ⟨category, module, heligible⟩ := mem_processingOrder_iff.mp hid
      obtain ⟨base, hbase⟩ := headerName_of_isEligible heligible
      have hmodule : graph.moduleFor? config id = some module := by
        obtain ⟨-, object, hobject, hgenerates, -⟩ := heligible
        exact moduleFor?_eq_some_iff.mpr ⟨object, hobject, hgenerates⟩
      have howner := headerOwner_of_mem_processingOrder hid
      obtain ⟨final, planned, hplanned, hids⟩ :=
        ih (fun other hother => h other (List.mem_cons_of_mem id hother)) (names.claim base id).1
      refine ⟨final, ⟨id, module, (names.claim base id).2⟩ :: planned, ?_,
        by rw [List.map_cons, hids]⟩
      rw [planObjects, hmodule]
      simp only [howner, hbase, bind, Except.bind, hplanned, pure, Except.pure]

/-- A list of planned objects: each that gets files, once, in order, and in its module. -/
structure Lists (graph : Graph) (config : Config) (planned : List PlannedObject) : Prop where
  mem_iff : ∀ id module, (∃ object ∈ planned, object.id = id ∧ object.module = module) ↔
    ∃ category, graph.IsEligible config id category module
  nodup : (planned.map (·.id)).Nodup
  ordered : planned.Pairwise fun first second => graph.Precedes config first.id second.id

theorem exists_plan (graph : Graph) (config : Config) :
    ∃ names planned, graph.plan config = .ok (names, planned) ∧ graph.Lists config planned := by
  obtain ⟨names, planned, hplan, hids⟩ :=
    exists_planObjects (fun id (hid : id ∈ graph.processingOrder config) => hid) NameRegistry.empty
  refine ⟨names, planned, hplan, ?_, ?_, ?_⟩
  · intro id module
    constructor
    · rintro ⟨object, hobject, rfl, rfl⟩
      obtain ⟨hid, hmodule⟩ := mem_planObjects hplan object hobject
      obtain ⟨category, module, henumerated, found, hfound, -, hcategory⟩ :=
        mem_processingOrder_iff.mp hid
      obtain ⟨reflected, hreflected, hgenerates⟩ := moduleFor?_eq_some_iff.mp hmodule
      obtain rfl : found = reflected := Option.some.inj (hfound.symm.trans hreflected)
      exact ⟨category, henumerated, found, hfound, hgenerates, hcategory⟩
    · rintro ⟨category, heligible⟩
      have hid : id ∈ planned.map (·.id) :=
        hids ▸ mem_processingOrder_iff.mpr ⟨category, module, heligible⟩
      obtain ⟨object, hobject, rfl⟩ := List.mem_map.mp hid
      obtain ⟨-, hmodule⟩ := mem_planObjects hplan object hobject
      obtain ⟨-, found, hfound, hgenerates, -⟩ := heligible
      have hsame := moduleFor?_eq_some_iff.mpr ⟨found, hfound, hgenerates⟩
      exact ⟨object, hobject, rfl, Option.some.inj (hmodule.symm.trans hsame)⟩
  · rw [hids]
    exact graph.nodup_processingOrder config
  · have hordered := graph.pairwise_processingOrder config
    rw [← hids, List.pairwise_map] at hordered
    exact hordered

end Graph

/-! ## Plans and dumps -/

/-- A dump holds the files of its plan: a header for each object, a source behind it for a
class or aggregate, and the build files of the modules with a planned object. -/
structure Dump.Follows (dump : Dump) (graph : Graph) (config : Config)
    (planned : List PlannedObject) : Prop where
  paths : dump.files.map (·.path) = planned.flatMap graph.objectPaths ++
    if config.output.buildFiles then
      dump.modules.keys.flatMap fun module => [descriptorPath module, registrationPath module]
    else []
  mem_modules : ∀ module, module ∈ dump.modules.keys ↔ ∃ object ∈ planned, object.module = module
  modules_inByteOrder : Text.InByteOrder dump.modules.keys

/-- Every graph has a plan, which lists the objects that get files, and a dump follows it. -/
theorem exists_plan_followed_by_generate (graph : Graph) (config : Config) :
    (graph.size < UInt32.size → ∀ id, id ∈ graph.ids ↔ (graph.object? id).isSome) ∧
      ∃ names planned, graph.plan config = .ok (names, planned) ∧ graph.Lists config planned ∧
        ∀ dump, generate graph config = .ok dump → dump.Follows graph config planned := by
  obtain ⟨names, planned, hplan, hlists⟩ := graph.exists_plan config
  refine ⟨Graph.mem_ids, names, planned, hplan, hlists, ?_⟩
  intro dump hdump
  obtain ⟨_, _, hsame, hmodules, hpaths⟩ := paths_of_generate hdump
  obtain ⟨rfl, rfl⟩ := Prod.mk.inj (Except.ok.inj (hplan.symm.trans hsame))
  refine ⟨hpaths, ?_, (Text.inByteOrder_iff_ascending _).mpr dump.modules.ascending⟩
  intro module
  rw [hmodules, List.mem_map]

/-- Objects of every category over two modules, out of order, and two that get no files. -/
def armory : Graph where
  objects := #[
    { name := "EGrip", package := "/Script/Game", kind := .enumType {} },
    { name := "Hero", package := "/Script/Game",
      kind := .classType { flags := ClassFlags.native } },
    { name := "Blade", package := "/Script/Arms",
      kind := .structType { flags := StructFlags.native } },
    { name := "Actor", package := "/Script/Engine",
      kind := .classType { flags := ClassFlags.native } },
    { name := "Wielder", package := "/Script/Arms",
      kind := .interfaceType { flags := ClassFlags.native } },
    { name := "Drawn__DelegateSignature", package := "/Script/Arms",
      kind := .function { flags := FunctionFlags.delegate } },
    { name := "Sheath", package := "/Game/Arms", kind := .enumType {} }]

theorem exists_plan_followed_by_generate_armory :
    armory.size < UInt32.size ∧ (∀ id, id ∈ armory.ids ↔ (armory.object? id).isSome) ∧
      ∃ names planned dump, armory.plan {} = .ok (names, planned) ∧
        generate armory {} = .ok dump ∧ armory.Lists {} planned ∧
        dump.Follows armory {} planned := by
  have hsize : armory.size < UInt32.size := by decide
  have hruns : (generate armory {}).toBool = true := by decide +kernel
  obtain ⟨dump, hdump⟩ := Outcome.exists_of_toBool hruns
  obtain ⟨hids, names, planned, hplan, hlists, hfollows⟩ :=
    exists_plan_followed_by_generate armory {}
  exact ⟨hsize, hids hsize, names, planned, dump, hplan, hdump, hlists, hfollows dump hdump⟩

example : (armory.processingOrder {}).map (·.index) = [5, 1, 4, 2, 0] := by decide +kernel

end HeaderSynth
