import HeaderSynth.Proofs.Declaration.Signatures
import HeaderSynth.Proofs.Reflection.Walks
import HeaderSynth.Proofs.Text.LetterCase
import Mathlib.Data.List.Pairwise

/-!
# Names of parameters

A parameter that is called like a member of its class gets another name, letter case aside.  That
name is compared neither with the members nor with the other parameters, so the names of a
parameter list keep apart exactly where no new name meets a member or another parameter.
-/

namespace HeaderSynth

/-! ## Names -/

/-- The names differ in letter case at most. -/
def SameName (first second : String) : Prop :=
  Text.toLower first = Text.toLower second

instance : DecidableRel SameName := fun first second =>
  inferInstanceAs (Decidable (Text.toLower first = Text.toLower second))

theorem SameName.symm {first second : String} (h : SameName first second) :
    SameName second first :=
  Eq.symm h

instance (change : String → String) :
    Std.Symm fun first second => ¬SameName (change first) (change second) where
  symm _ _ h hsame := h hsame.symm

/-- The name of a parameter that would hide a member. -/
def renamed (name : String) : String :=
  "New" ++ Text.capitalize name

/-- Names of ASCII characters are not brought together by the capital that they get. -/
theorem sameName_renamed_iff {first second : String} (hfirst : Text.IsAscii first)
    (hsecond : Text.IsAscii second) :
    SameName (renamed first) (renamed second) ↔ SameName first second := by
  have hstart : Text.IsAscii "New" := by decide
  rw [SameName, SameName, renamed, renamed, Text.toLower_append_capitalize hstart hfirst,
    Text.toLower_append_capitalize hstart hsecond]
  exact String.append_right_inj _

/-! ## Members of a type -/

/-- The type or a super type has a field of that name, or the class declares a method of that
name; letter case does not count. -/
def Graph.HasMember (graph : Graph) (id : ObjectId) (name : String) : Prop :=
  (∃ ancestor object, Graph.Reaches graph.super? id ancestor ∧
    graph.object? ancestor = some object ∧ ∃ field ∈ object.fields, SameName field.name name) ∨
  ∃ object info, graph.object? id = some object ∧ object.classInfo? = some info ∧
    ∃ function ∈ info.functions, ∃ method, graph.object? function = some method ∧
      SameName method.name name

theorem Graph.mem_allFields_iff (graph : Graph) (id : ObjectId) (field : Field) :
    field ∈ graph.allFields id ↔ ∃ ancestor object, Graph.Reaches graph.super? id ancestor ∧
      graph.object? ancestor = some object ∧ field ∈ object.fields := by
  rw [allFields, List.mem_flatMap]
  apply exists_congr
  intro ancestor
  rw [superChain, mem_chain graph.leadsOn_super?]
  cases graph.object? ancestor with
  | none => simp
  | some object => simp

theorem Graph.mem_ownFunctions_iff (graph : Graph) (id : ObjectId) (method : Object) :
    method ∈ graph.ownFunctions id ↔ ∃ object info, graph.object? id = some object ∧
      object.classInfo? = some info ∧
      ∃ function ∈ info.functions, graph.object? function = some method := by
  rw [ownFunctions]
  cases hobject : graph.object? id with
  | none => simp
  | some object =>
      cases hinfo : object.classInfo? with
      | none => simp [hinfo]
      | some info => simp [hinfo]

/-- The reserved names of a class are those of its members. -/
theorem Graph.contains_reservedNames_iff (graph : Graph) (id : ObjectId) (name : String) :
    (graph.reservedNames id true).contains name = true ↔ graph.HasMember id name := by
  have hnames : (graph.reservedNames id true).contains name = true ↔
      (∃ field ∈ graph.allFields id, SameName field.name name) ∨
        ∃ method ∈ graph.ownFunctions id, SameName method.name name := by
    simp [ReservedNames.contains, reservedNames, SameName]
  rw [hnames]
  apply or_congr
  · simp only [mem_allFields_iff]
    constructor
    · rintro ⟨field, ⟨ancestor, object, hreaches, hobject, hfield⟩, hsame⟩
      exact ⟨ancestor, object, hreaches, hobject, field, hfield, hsame⟩
    · rintro ⟨ancestor, object, hreaches, hobject, field, hfield, hsame⟩
      exact ⟨field, ⟨ancestor, object, hreaches, hobject, hfield⟩, hsame⟩
  · simp only [mem_ownFunctions_iff]
    constructor
    · rintro ⟨method, ⟨object, info, hobject, hinfo, function, hfunction, hmethod⟩, hsame⟩
      exact ⟨object, info, hobject, hinfo, function, hfunction, method, hmethod, hsame⟩
    · rintro ⟨object, info, hobject, hinfo, function, hfunction, method, hmethod, hsame⟩
      exact ⟨method, ⟨object, info, hobject, hinfo, function, hfunction, hmethod⟩, hsame⟩

instance (graph : Graph) (id : ObjectId) (name : String) : Decidable (graph.HasMember id name) :=
  decidable_of_iff _ (graph.contains_reservedNames_iff id name)

/-! ## Parameter lists -/

/-- The name that a parameter gets. -/
def ReservedNames.avoid (reserved : ReservedNames) (name : String) : String :=
  if reserved.contains name then renamed name else name

/-- The names that the parameters of a method get. -/
def parameterNames (reserved : ReservedNames) (method : MethodInfo) : List String :=
  (method.parameters.map (·.name)).map reserved.avoid

/-- The text is a list of parameters with the given names. -/
def ListsNames (list : String) (names : List String) : Prop :=
  ∃ parts, list = String.intercalate ", " parts ∧
    List.Forall₂ (fun name part => ∃ type : String, part = type ++ " " ++ name) names parts

/-- The text of a parameter ends with its name. -/
theorem exists_of_parameterText {graph : Graph} {owner : String} {role : FileRole}
    {separator : String} {reserved : ReservedNames} {param : Field} {text : String}
    (h : (parameterText graph owner role separator reserved param).result = .ok text) :
    ∃ type : String, text = type ++ separator ++ reserved.avoid param.name := by
  obtain ⟨mark, -, h⟩ := Logged.result_bind_eq_ok.mp h
  obtain ⟨type, -, h⟩ := Logged.result_bind_eq_ok.mp h
  cases h
  exact ⟨_, rfl⟩

/-- A parameter list has the names of its parameters, whatever stands before them. -/
theorem listsNames_parameterList {graph : Graph} {owner : String} {role : FileRole}
    {reserved : ReservedNames} {method : MethodInfo} {list : String}
    (h : (parameterList graph owner role reserved method).result = .ok list) :
    ListsNames list (parameterNames reserved method) := by
  obtain ⟨parts, hparts, hlist⟩ := parameterList_eq_ok.mp h
  refine ⟨parts, hlist, ?_⟩
  have htexts := Logged.forall₂_of_mapM_eq_ok hparts
  rw [parameterNames, List.forall₂_map_left_iff, List.forall₂_map_left_iff]
  exact htexts.imp fun _ _ htext => exists_of_parameterText htext

/-! ## Clashes -/

/-- The names keep apart from each other and from the members of the class. -/
structure Graph.KeepsApart (graph : Graph) (id : ObjectId) (names : List String) : Prop where
  distinct : names.Pairwise fun first second => ¬SameName first second
  free : ∀ name ∈ names, ¬graph.HasMember id name

/-- The names that parameters get instead of those of members are no names of members or of
other parameters. -/
structure Graph.RenamesFreely (graph : Graph) (id : ObjectId) (names : List String) : Prop where
  free : ∀ name ∈ names, graph.HasMember id name → ¬graph.HasMember id (renamed name)
  apart : ∀ name ∈ names, graph.HasMember id name →
    ∀ other ∈ names, ¬graph.HasMember id other → ¬SameName (renamed name) other

/-- Different names of members do not become the same. -/
def Graph.RenamesDistinctly (graph : Graph) (id : ObjectId) (names : List String) : Prop :=
  names.Pairwise fun first second => graph.HasMember id first → graph.HasMember id second →
    ¬SameName (renamed first) (renamed second)

section

variable {graph : Graph} {id : ObjectId} {names : List String}

theorem avoid_of_hasMember {name : String} (h : graph.HasMember id name) :
    (graph.reservedNames id true).avoid name = renamed name :=
  if_pos ((graph.contains_reservedNames_iff id name).mpr h)

theorem avoid_of_not_hasMember {name : String} (h : ¬graph.HasMember id name) :
    (graph.reservedNames id true).avoid name = name :=
  if_neg fun hcontains => h ((graph.contains_reservedNames_iff id name).mp hcontains)

theorem Graph.KeepsApart.renamesFreely
    (h : graph.KeepsApart id (names.map (graph.reservedNames id true).avoid)) :
    graph.RenamesFreely id names := by
  constructor
  · intro name hname hmember
    rw [← avoid_of_hasMember hmember]
    exact h.free _ (List.mem_map_of_mem hname)
  · intro name hname hmember other hother hfree
    have hdifferent : name ≠ other := by
      rintro rfl
      exact hfree hmember
    have happart := (List.pairwise_map.mp h.distinct).forall hname hother hdifferent
    rwa [avoid_of_hasMember hmember, avoid_of_not_hasMember hfree] at happart

theorem Graph.KeepsApart.renamesDistinctly
    (h : graph.KeepsApart id (names.map (graph.reservedNames id true).avoid)) :
    graph.RenamesDistinctly id names := by
  apply (List.pairwise_map.mp h.distinct).imp
  intro first second happart hfirst hsecond
  rwa [avoid_of_hasMember hfirst, avoid_of_hasMember hsecond] at happart

/-- A new name that is free does not clash, and a name that is kept does not either. -/
theorem Graph.RenamesFreely.keepsApart (h : graph.RenamesFreely id names)
    (hdistinct : graph.RenamesDistinctly id names)
    (hnames : names.Pairwise fun first second => ¬SameName first second) :
    graph.KeepsApart id (names.map (graph.reservedNames id true).avoid) := by
  constructor
  · rw [List.pairwise_map]
    apply (hnames.and hdistinct).imp_of_mem
    intro first second hfirst hsecond hdifferent
    by_cases hmember : graph.HasMember id first
    · rw [avoid_of_hasMember hmember]
      by_cases hother : graph.HasMember id second
      · rw [avoid_of_hasMember hother]
        exact hdifferent.2 hmember hother
      · rw [avoid_of_not_hasMember hother]
        exact h.apart first hfirst hmember second hsecond hother
    · rw [avoid_of_not_hasMember hmember]
      by_cases hother : graph.HasMember id second
      · rw [avoid_of_hasMember hother]
        intro hsame
        exact h.apart second hsecond hother first hfirst hmember hsame.symm
      · rw [avoid_of_not_hasMember hother]
        exact hdifferent.1
  · intro name hname
    obtain ⟨source, hsource, rfl⟩ := List.mem_map.mp hname
    by_cases hmember : graph.HasMember id source
    · rw [avoid_of_hasMember hmember]
      exact h.free source hsource hmember
    · rw [avoid_of_not_hasMember hmember]
      exact hmember

theorem renamesDistinctly_of_isAscii (graph : Graph) (id : ObjectId)
    (hnames : names.Pairwise fun first second => ¬SameName first second)
    (hascii : ∀ name ∈ names, Text.IsAscii name) : graph.RenamesDistinctly id names := by
  apply hnames.imp_of_mem
  intro first second hfirst hsecond hdifferent _ _ hsame
  exact hdifferent ((sameName_renamed_iff (hascii first hfirst) (hascii second hsecond)).mp hsame)

end

/-- The parameters of a method have different names, letter case aside. -/
def MethodInfo.HasDistinctParameters (method : MethodInfo) : Prop :=
  (method.parameters.map (·.name)).Pairwise fun first second => ¬SameName first second

/-- Parameter lists have the names of the parameters, changed where they are those of members of
the class.  These names keep apart from each other and from the members exactly where no new
name is that of a member or another parameter; two new names can only meet where the
parameters are not named in ASCII. -/
theorem parameterNames_keepApart_iff (graph : Graph) (id : ObjectId) {method : MethodInfo}
    (h : method.HasDistinctParameters) :
    let names := method.parameters.map (·.name)
    let reserved := graph.reservedNames id true
    (∀ owner role list, (parameterList graph owner role reserved method).result = .ok list →
      ListsNames list (parameterNames reserved method)) ∧
    (graph.KeepsApart id (parameterNames reserved method) ↔
      graph.RenamesFreely id names ∧ graph.RenamesDistinctly id names) ∧
    ((∀ name ∈ names, Text.IsAscii name) →
      (graph.KeepsApart id (parameterNames reserved method) ↔ graph.RenamesFreely id names)) := by
  intro names reserved
  have hexact : graph.KeepsApart id (parameterNames reserved method) ↔
      graph.RenamesFreely id names ∧ graph.RenamesDistinctly id names := by
    constructor
    · intro happart
      exact ⟨happart.renamesFreely, happart.renamesDistinctly⟩
    · intro hrenames
      exact hrenames.1.keepsApart hrenames.2 h
  refine ⟨fun owner role list hlist => listsNames_parameterList hlist, hexact, ?_⟩
  intro hascii
  rw [hexact]
  exact and_iff_left (renamesDistinctly_of_isAscii graph id h hascii)

/-- A method with two parameters. -/
def heal (second : String) : MethodInfo where
  flags := FunctionFlags.native ||| FunctionFlags.accessPublic
  params := [
    { name := "Health", kind := .int32, flags := PropertyFlags.parm },
    { name := second, kind := .int32, flags := PropertyFlags.parm }]

/-- A class with a field and the method, whose first parameter is called like the field. -/
def infirmary (second : String) : Graph where
  objects := #[
    { name := "Hero", package := "/Script/Game",
      kind := .classType {
        flags := ClassFlags.native
        fields := [
          { name := "Health", kind := .int32, flags := PropertyFlags.nativeAccessPublic }]
        functions := [⟨1⟩] } },
    { name := "Heal", package := "/Script/Game", outer := some ⟨0⟩,
      kind := .function (heal second) }]

theorem parameterNames_keepApart_iff_infirmary :
    (heal "Amount").HasDistinctParameters ∧
      parameterNames ((infirmary "Amount").reservedNames ⟨0⟩ true) (heal "Amount") =
        ["NewHealth", "Amount"] ∧
      (infirmary "Amount").KeepsApart ⟨0⟩
        (parameterNames ((infirmary "Amount").reservedNames ⟨0⟩ true) (heal "Amount")) := by
  have hdistinct : (heal "Amount").HasDistinctParameters := by
    unfold MethodInfo.HasDistinctParameters
    decide +kernel
  have hascii : ∀ name ∈ (heal "Amount").parameters.map (·.name), Text.IsAscii name := by
    decide +kernel
  have hfree : (infirmary "Amount").RenamesFreely ⟨0⟩ ((heal "Amount").parameters.map (·.name)) :=
    ⟨by decide +kernel, by decide +kernel⟩
  have hexact := (parameterNames_keepApart_iff (infirmary "Amount") ⟨0⟩ hdistinct).2.2 hascii
  exact ⟨hdistinct, by decide +kernel, hexact.mpr hfree⟩

/-- The new name of a parameter can be the name of another one. -/
theorem infirmary_repeats_parameter :
    (heal "NewHealth").HasDistinctParameters ∧
      (parameterList (infirmary "NewHealth") "Hero" .declaration
        ((infirmary "NewHealth").reservedNames ⟨0⟩ true) (heal "NewHealth")).result =
          .ok "int32 NewHealth, int32 NewHealth" ∧
      ¬(infirmary "NewHealth").KeepsApart ⟨0⟩
        (parameterNames ((infirmary "NewHealth").reservedNames ⟨0⟩ true) (heal "NewHealth")) := by
  refine ⟨?_, by decide +kernel, ?_⟩
  · unfold MethodInfo.HasDistinctParameters
    decide +kernel
  · intro happart
    have hdistinct := happart.distinct
    revert hdistinct
    decide +kernel

end HeaderSynth
