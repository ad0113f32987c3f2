import HeaderSynth.Proofs.Declaration.AccessLevels

/-!
# Members under their levels

A class declares its delegates, fields, constructor and methods one after the other, and then the
stubs for its interfaces; a contract declares delegates and methods, an aggregate fields and a
constructor.  Read back from the lines of the declaration, each field and each method stands at
the level that its flags ask for and is public without such flags, and so is everything else.
-/

namespace HeaderSynth

open Emit (KeepsLevel StandsBelow)

/-! ## What a type declares -/

/-- The members that a type declares for itself, in order. -/
def Object.ownMembers (graph : Graph) (options : GeneratorOptions) (module : String)
    (id : ObjectId) (object : Object) : List Member :=
  match object.kind with
  | .classType info =>
    ⟨.publicLevel, declareNestedDelegates graph options info.functions⟩ ::
      info.fields.map (fieldMember graph options object.name) ++
      [⟨.publicLevel, declareConstructor (graph.className id) info⟩] ++
      (graph.methods info.functions).map
        (methodMember graph options object.name .member (graph.reservedNames id true))
  | .interfaceType info =>
    ⟨.publicLevel, declareNestedDelegates graph options info.functions⟩ ::
      (graph.methods info.functions).map
        (methodMember graph options object.name .contract (graph.reservedNames id false))
  | .structType info =>
    info.fields.map (fieldMember graph options object.name) ++
      [⟨.publicLevel,
        Emit.line s!"{exportMacro module (!info.isExported)}{graph.structName id}();"⟩]
  | _ => []

/-- The stubs that a class declares for the methods of its interfaces. -/
def Object.stubMembers (graph : Graph) (options : GeneratorOptions) (id : ObjectId)
    (object : Object) : List Member :=
  match object.kind with
  | .classType info =>
    (info.interfaces.flatMap (graph.missingMethods info)).map
      (methodMember graph options object.name .override (graph.reservedNames id true))
  | _ => []

/-- The lines before the stubs of a class with interfaces. -/
def Object.stubRemark (depth : Nat) (object : Object) : List String :=
  match object.kind with
  | .classType info =>
    if info.interfaces.isEmpty then []
    else ["", indentation depth ++ "// Fix for true pure virtual functions not being implemented"]
  | _ => []

/-- Classes, interfaces and aggregates declare members. -/
def Object.declaresMembers (object : Object) : Bool :=
  match object.kind with
  | .classType _ => true
  | .interfaceType _ => true
  | .structType _ => true
  | _ => false

/-! ## Bodies of members -/

variable {graph : Graph} {options : GeneratorOptions} {depth : Nat}

theorem keepsLevel_declareField (owner : String) (field : Field) :
    (declareField graph options owner field).KeepsLevel (depth + 1) := by
  rw [declareField]
  apply (KeepsLevel.of_silent (silent_annotationText _)).bind
  intro annotations _
  apply (KeepsLevel.of_silent (silent_memberTypeText owner field)).bind
  intro type _
  apply (KeepsLevel.indentedLine _).bind
  intro _ _
  exact (KeepsLevel.indentedLine _).bind fun _ _ => KeepsLevel.blank

theorem keepsLevel_declareMethod (owner : String) (place : MethodPlace) (reserved : ReservedNames)
    (object : Object) :
    (declareMethod graph options owner place reserved object).KeepsLevel (depth + 1) := by
  rw [declareMethod]
  apply (KeepsLevel.of_silent (silent_methodOf object)).bind
  intro method _
  apply (KeepsLevel.of_silent (silent_returnType owner method)).bind
  intro returned _
  apply (KeepsLevel.of_silent (silent_pureVirtualEnding owner place object method)).bind
  intro ending _
  apply (KeepsLevel.of_silent (silent_parameterList owner .declaration reserved method)).bind
  intro params _
  apply (KeepsLevel.of_silent (silent_annotationText _)).bind
  intro annotations _
  apply (KeepsLevel.indentedLine _).bind
  intro _ _
  exact (KeepsLevel.indentedLine _).bind fun _ _ => KeepsLevel.blank

theorem keepsLevel_declareDelegate (topLevel : Bool) (id : ObjectId) :
    (declareDelegate graph options topLevel id).KeepsLevel (depth + 1) := by
  have hget : ∀ {α : Type} (result : Except GenerateError α),
      KeepsLevel (depth + 1) (Logged.ofExcept result) := fun _ => .ofExcept fun _ _ => trivial
  rw [declareDelegate]
  apply (hget _).bind
  intro object _
  apply (hget _).bind
  intro method _
  apply (KeepsLevel.of_silent (silent_delegateMark ..)).bind
  intro annotation _
  apply (KeepsLevel.of_silent (silent_delegateArguments ..)).bind
  intro arguments _
  exact KeepsLevel.indentedLine _

theorem keepsLevel_declareSignatures (ids : List ObjectId) :
    (declareSignatures graph options ids).KeepsLevel (depth + 1) := by
  induction ids with
  | nil => exact .pure _
  | cons id rest ih =>
      rw [declareSignatures]
      apply Logged.Within.bind (.ofExcept fun _ _ => trivial)
      intro object _
      split
      · apply (keepsLevel_declareDelegate false id).bind
        intro _ _
        exact ih.bind fun _ _ => .pure _
      · exact ih

theorem keepsLevel_declareNestedDelegates (ids : List ObjectId) :
    (declareNestedDelegates graph options ids).KeepsLevel (depth + 1) := by
  rw [declareNestedDelegates]
  apply (keepsLevel_declareSignatures ids).bind
  intro count _
  split
  · exact .pure _
  · exact KeepsLevel.blank

theorem keepsLevel_declareConstructor (name : String) (info : ClassInfo) :
    (declareConstructor name info).KeepsLevel (depth + 1) := by
  rw [declareConstructor]
  apply (KeepsLevel.indentedLine _).bind
  intro _ _
  split
  · exact .pure _
  · exact (KeepsLevel.indentedLine _).bind fun _ _ => KeepsLevel.blank

/-! ## Sections of members -/

theorem shows_fieldSection (owner : String) (field : Field) :
    (fieldSection graph options owner field).Shows (depth + 1)
      (fieldMember graph options owner field) :=
  shows_memberSection (keepsLevel_declareField owner field) owner field.name
    (PropertyFlags.access? field.flags)

theorem shows_methodSection (owner : String) (place : MethodPlace) (reserved : ReservedNames)
    (object : Object) :
    (methodSection graph options owner place reserved object).Shows (depth + 1)
      (methodMember graph options owner place reserved object) :=
  shows_memberSection (keepsLevel_declareMethod owner place reserved object) owner object.name
    (FunctionFlags.access? object.methodFlags)

/-- The sections behind the own members of a class hold its stubs, below a remark that stands at
the level in effect. -/
theorem placeSections_overrideSections {object : Object} {info : ClassInfo} {id : ObjectId}
    (hkind : object.kind = .classType info) (current : Option AccessLevel) :
    let sections := overrideSections graph options object.name (graph.reservedNames id true) info
    (∀ part ∈ sections, part.body.KeepsLevel (depth + 1)) ∧
      placeSections (depth + 1) current sections =
        (object.stubRemark (depth + 1)).map (current, ·) ++
          (object.stubMembers graph options id).flatMap (·.placed (depth + 1)) := by
  have hstubs : SectionsShow (depth + 1) (object.stubMembers graph options id)
      ((info.interfaces.flatMap (graph.missingMethods info)).map
        (methodSection graph options object.name .override (graph.reservedNames id true))) := by
    rw [Object.stubMembers, hkind]
    exact .map (fun method => shows_methodSection object.name .override _ method) _
  rw [overrideSections, Object.stubRemark, hkind]
  dsimp only
  split
  · rename_i hempty
    rw [List.isEmpty_iff.mp hempty] at hstubs
    refine ⟨List.forall_mem_nil _, ?_⟩
    rw [← hstubs.placeSections_eq current]
    rfl
  · refine ⟨List.forall_mem_cons.mpr ⟨?_, hstubs.keeps⟩, ?_⟩
    · exact KeepsLevel.blank.bind fun _ _ => KeepsLevel.indentedLine _
    · rw [placeSections, hstubs.placeSections_eq]
      rfl

/-! ## Declarations -/

/-- The lines of the members of a type, each with its level.  The remark before the stubs stands at
the level `before`. -/
def Object.placedMembers (graph : Graph) (options : GeneratorOptions) (module : String)
    (id : ObjectId) (depth : Nat) (before : Option AccessLevel) (object : Object) :
    List (Option AccessLevel × String) :=
  (object.ownMembers graph options module id).flatMap (·.placed depth) ++
    (object.stubRemark depth).map (before, ·) ++
    (object.stubMembers graph options id).flatMap (·.placed depth)

/-- The lines in the brackets of a type are those of its sections. -/
theorem standsBelow_brackets {sections : List Section}
    (h : ∀ part ∈ sections, part.body.KeepsLevel (depth + 1)) :
    (do
      Emit.indented do
        Emit.line generatedBody
        writeSections none sections
      Emit.line "\x7d;" : Emit Unit).StandsBelow depth (lastLevel none sections)
        (placeSections (depth + 1) none sections ++
          [(lastLevel none sections, indentation depth ++ "\x7d;")]) := by
  refine .bind_line (.indented ?_) (by decide)
  exact .bind (.of_keepsLevel (.indentedLine generatedBody)) fun _ =>
    .of_standsAs (standsAs_writeSections h none)

/-- A line that begins with another letter than the markers belongs to the lines above. -/
theorem standsBelow_line {text : String} {first : Char} (h : text.toList.head? = some first)
    (hfirst : first ≠ 'p') : (Emit.line text).StandsBelow depth none [] :=
  .of_keepsLevel (.line (AccessLevel.ofMarker?_of_head h hfirst))

theorem standsBelow_declareClass {object : Object} {info : ClassInfo}
    (hkind : object.kind = .classType info) (module : String) (id : ObjectId) (depth : Nat) :
    ∃ before last, (declareClass graph options module id object info).StandsBelow depth last
      (object.placedMembers graph options module id (depth + 1) before ++
        [(last, indentation depth ++ "\x7d;")]) := by
  let ownSections :=
    publicSection (declareNestedDelegates graph options info.functions) ::
      info.fields.map (fieldSection graph options object.name) ++
      [publicSection (declareConstructor (graph.className id) info)] ++
      (graph.methods info.functions).map
        (methodSection graph options object.name .member (graph.reservedNames id true))
  have hown : SectionsShow (depth + 1) (object.ownMembers graph options module id)
      ownSections := by
    rw [Object.ownMembers, hkind]
    apply SectionsShow.append
    · apply SectionsShow.append
      · exact .cons (shows_publicSection (keepsLevel_declareNestedDelegates info.functions))
          (SectionsShow.map (shows_fieldSection object.name) info.fields)
      · exact .cons (shows_publicSection (keepsLevel_declareConstructor _ info)) .nil
    · exact SectionsShow.map (shows_methodSection object.name .member _) _
  let stubSections :=
    overrideSections graph options object.name (graph.reservedNames id true) info
  obtain ⟨hstubs, hplaced⟩ : (∀ part ∈ stubSections, part.body.KeepsLevel (depth + 1)) ∧
      placeSections (depth + 1) (lastLevel none ownSections) stubSections =
        (object.stubRemark (depth + 1)).map (lastLevel none ownSections, ·) ++
          (object.stubMembers graph options id).flatMap (·.placed (depth + 1)) :=
    placeSections_overrideSections hkind (lastLevel none ownSections)
  have hsections : placeSections (depth + 1) none (ownSections ++ stubSections) =
      object.placedMembers graph options module id (depth + 1) (lastLevel none ownSections) := by
    rw [placeSections_append, hown.placeSections_eq, hplaced, Object.placedMembers,
      List.append_assoc]
  refine ⟨lastLevel none ownSections, lastLevel none (ownSections ++ stubSections), ?_⟩
  rw [← hsections, declareClass]
  apply StandsBelow.silent_bind (.ofExcept fun _ _ => trivial)
  intro arguments
  apply StandsBelow.silent_bind (silent_annotationText arguments)
  intro annotations
  apply StandsBelow.silent_bind (.forM fun _ _ => .write rfl)
  intro _
  apply StandsBelow.silent_bind (.forM fun _ _ => .write rfl)
  intro _
  apply (standsBelow_line (show _ = some 'U' by simp [toString]) (by decide)).bind
  intro _
  apply (standsBelow_line (show _ = some 'c' by simp [toString]) (by decide)).bind
  intro _
  exact standsBelow_brackets (List.forall_mem_append.mpr ⟨hown.keeps, hstubs⟩)

theorem standsBelow_declareInterface {object : Object} {info : ClassInfo}
    (hkind : object.kind = .interfaceType info) (module : String) (id : ObjectId) (depth : Nat) :
    ∃ last, (declareInterface graph options module id object info).StandsBelow depth last
      (object.placedMembers graph options module id (depth + 1) none ++
        [(last, indentation depth ++ "\x7d;")]) := by
  let sections :=
    publicSection (declareNestedDelegates graph options info.functions) ::
      (graph.methods info.functions).map
        (methodSection graph options object.name .contract (graph.reservedNames id false))
  have hshow : SectionsShow (depth + 1) (object.ownMembers graph options module id) sections := by
    rw [Object.ownMembers, hkind]
    exact .cons (shows_publicSection (keepsLevel_declareNestedDelegates info.functions))
      (SectionsShow.map (shows_methodSection object.name .contract _) _)
  have hplaced : placeSections (depth + 1) none sections =
      object.placedMembers graph options module id (depth + 1) none := by
    rw [hshow.placeSections_eq, Object.placedMembers, Object.stubRemark, Object.stubMembers, hkind]
    simp
  have hbracket : AccessLevel.ofMarker? "\x7d;" = none := by decide
  refine ⟨lastLevel none sections, ?_⟩
  rw [← hplaced, declareInterface]
  apply StandsBelow.silent_bind (silent_annotationText _)
  intro annotations
  rcases info.superClass with _ | parent
  on_goal 2 =>
    apply StandsBelow.silent_bind (.write rfl)
    intro _
  all_goals
    apply StandsBelow.silent_bind (.pure _)
    rintro ⟨classBase, contractBase⟩
    -- The class that reflects the interface stands above the contract.
    apply (standsBelow_line (show _ = some 'U' by simp [toString]) (by decide)).bind
    intro _
    apply (standsBelow_line (show _ = some 'c' by simp [toString]) (by decide)).bind
    intro _
    apply (StandsBelow.indented (.of_keepsLevel (KeepsLevel.indentedLine generatedBody))).bind
    intro _
    apply (StandsBelow.of_keepsLevel (KeepsLevel.line hbracket)).bind
    intro _
    apply (StandsBelow.of_keepsLevel KeepsLevel.blank).bind
    intro _
    apply (standsBelow_line (show _ = some 'c' by simp [toString]) (by decide)).bind
    intro _
    exact standsBelow_brackets hshow.keeps

theorem standsBelow_declareStruct {object : Object} {info : StructInfo}
    (hkind : object.kind = .structType info) (module : String) (usage : TypeUsage) (id : ObjectId)
    (depth : Nat) :
    ∃ last, (declareStruct graph options module usage id object info).StandsBelow depth last
      (object.placedMembers graph options module id (depth + 1) none ++
        [(last, indentation depth ++ "\x7d;")]) := by
  let constructor := Emit.line s!"{exportMacro module (!info.isExported)}{graph.structName id}();"
  let memberSections := info.fields.map (fieldSection graph options object.name) ++
    [publicSection constructor]
  have hshow : SectionsShow (depth + 1) (object.ownMembers graph options module id)
      memberSections := by
    rw [Object.ownMembers, hkind]
    apply SectionsShow.append
    · exact SectionsShow.map (shows_fieldSection object.name) info.fields
    · exact .cons (shows_publicSection (KeepsLevel.indentedLine _)) .nil
  -- The first marker is written even if the first field has another level.
  let sections := publicSection (pure ()) :: memberSections
  have hkeeps : ∀ part ∈ sections, part.body.KeepsLevel (depth + 1) :=
    List.forall_mem_cons.mpr ⟨.pure (), hshow.keeps⟩
  have hplaced : placeSections (depth + 1) none sections =
      object.placedMembers graph options module id (depth + 1) none := by
    show placeSections (depth + 1) (some .publicLevel) memberSections = _
    rw [hshow.placeSections_eq, Object.placedMembers, Object.stubRemark, Object.stubMembers, hkind]
    simp
  refine ⟨lastLevel none sections, ?_⟩
  rw [← hplaced, declareStruct]
  apply StandsBelow.silent_bind (silent_annotationText _)
  intro annotations
  rcases info.superStruct with _ | parent
  on_goal 2 =>
    apply StandsBelow.silent_bind (.write rfl)
    intro _
  all_goals
    apply StandsBelow.silent_bind (.pure _)
    intro base
    apply (standsBelow_line (show _ = some 'U' by simp [toString]) (by decide)).bind
    intro _
    apply (standsBelow_line (show _ = some 's' by simp [toString]) (by decide)).bind
    intro _
    exact standsBelow_brackets hkeeps

/-- Every member of a class, contract or aggregate stands at the level that its own flags ask for:
the lines that a successful declaration appends, read back marker by marker, are those of the
heading, which stand before every marker, and then those of the members in order, each at the
level of its member; the remark before the stubs stands at whatever level is in effect.  No marker
repeats the level in effect. -/
theorem members_stand_at_own_levels {graph : Graph} {options : GeneratorOptions}
    {module : String} {usage : TypeUsage} {id : ObjectId} {object : Object} {writing : Writing}
    {file declaration : SourceFile} {run after : Run} (hmembers : object.declaresMembers = true)
    (hwriting : object.writing graph options module usage id = .ok writing)
    (h : file.write writing.declare run = (after, .ok declaration)) :
    let lines := appendedLines file.indent writing.declare.log
    declaration.body = file.body ++ SourceFile.joinLines lines ∧
      ∃ (heading : List String) (before last : Option AccessLevel), readLevels? none lines = some (
        heading.map (none, ·) ++
        (object.ownMembers graph options module id).flatMap (·.placed (file.indent + 1)) ++
        (object.stubRemark (file.indent + 1)).map (before, ·) ++
        (object.stubMembers graph options id).flatMap (·.placed (file.indent + 1)) ++
        [(last, indentation file.indent ++ "\x7d;")]) := by
  have hsucceeds : writing.declare.Succeeds := SourceFile.succeeds_of_write h
  have hbody : declaration.body =
      file.body ++ SourceFile.joinLines (appendedLines file.indent writing.declare.log) := by
    obtain ⟨_, -, hdeclaration⟩ := Outcome.map_eq_ok.mp (congrArg Prod.snd h)
    rw [← hdeclaration, file.body_applyAll]
  have hstands : ∃ before last, writing.declare.StandsBelow file.indent last
      (object.placedMembers graph options module id (file.indent + 1) before ++
        [(last, indentation file.indent ++ "\x7d;")]) := by
    rw [Object.writing] at hwriting
    rw [Object.declaresMembers] at hmembers
    cases hkind : object.kind with
    | classType info =>
        rw [hkind] at hwriting
        cases hwriting
        exact standsBelow_declareClass hkind module id file.indent
    | interfaceType info =>
        rw [hkind] at hwriting
        cases hwriting
        exact ⟨none, standsBelow_declareInterface hkind module id file.indent⟩
    | structType info =>
        rw [hkind] at hwriting
        cases hwriting
        exact ⟨none, standsBelow_declareStruct hkind module usage id file.indent⟩
    | _ =>
        rw [hkind] at hmembers
        cases hmembers
  obtain ⟨before, last, hplaced⟩ := hstands
  obtain ⟨heading, hlines⟩ := hplaced hsucceeds
  refine ⟨hbody, heading, before, last, ?_⟩
  have hread := hlines []
  rw [List.append_nil] at hread
  rw [hread, Object.placedMembers]
  simp [appendedLines, readLevels?]

/-- A class with a private field, a protected method and a delegate, whose interface asks for a
private method. -/
def vaultInfo : ClassInfo where
  flags := ClassFlags.native
  interfaces := [⟨1⟩]
  fields := [
    { name := "Code", kind := .int32,
      flags := PropertyFlags.nativeAccessPrivate ||| PropertyFlags.net },
    { name := "Label", kind := .str }]
  functions := [⟨2⟩, ⟨3⟩]

def vault : Object where
  name := "Vault"
  package := "/Script/Game"
  kind := .classType vaultInfo

def vaultGraph : Graph where
  objects := #[
    vault,
    { name := "Guarded"
      package := "/Script/Game"
      kind := .interfaceType { flags := ClassFlags.native, functions := [⟨4⟩] } },
    { name := "Opened__DelegateSignature"
      package := "/Script/Game"
      outer := some ⟨0⟩
      kind := .function { flags := FunctionFlags.delegate } },
    { name := "Lock"
      package := "/Script/Game"
      outer := some ⟨0⟩
      kind := .function { flags := FunctionFlags.native ||| FunctionFlags.accessProtected } },
    { name := "Alarm"
      package := "/Script/Game"
      outer := some ⟨1⟩
      kind := .function { flags := FunctionFlags.native ||| FunctionFlags.accessPrivate } }]

/-- The header of the class. -/
def vaultHeader : Emit Unit :=
  declareClass vaultGraph {} "Game" ⟨0⟩ vault vaultInfo

def vaultFile : SourceFile where
  object := ⟨0⟩
  module := "Game"
  baseName := "Vault"
  role := .declaration

theorem members_stand_at_own_levels_vault :
    vault.declaresMembers = true ∧
      (∃ writing, vault.writing vaultGraph {} "Game" .empty ⟨0⟩ = .ok writing ∧
        writing.declare = vaultHeader) ∧
      (∃ after declaration, vaultFile.write vaultHeader .empty = (after, .ok declaration)) ∧
      (vault.ownMembers vaultGraph {} "Game" ⟨0⟩).map (·.level) =
        [.publicLevel, .privateLevel, .publicLevel, .publicLevel, .protectedLevel] ∧
      (vault.stubMembers vaultGraph {} ⟨0⟩).map (·.level) = [.privateLevel] ∧
      ∃ (heading : List String) (before last : Option AccessLevel),
        readLevels? none (appendedLines 0 vaultHeader.log) = some (
          heading.map (none, ·) ++
          (vault.ownMembers vaultGraph {} "Game" ⟨0⟩).flatMap (·.placed 1) ++
          (vault.stubRemark 1).map (before, ·) ++
          (vault.stubMembers vaultGraph {} ⟨0⟩).flatMap (·.placed 1) ++
          [(last, "\x7d;")]) := by
  have hresult : vaultHeader.result = .ok () := by decide +kernel
  have hwriting : vault.writing vaultGraph {} "Game" .empty ⟨0⟩ = .ok
      { declare := vaultHeader, define := some (defineClass vaultGraph ⟨0⟩ vault vaultInfo) } := rfl
  have hwrite : vaultFile.write vaultHeader .empty =
      (Run.empty.applyAll vaultHeader.log, .ok (vaultFile.applyAll vaultHeader.log)) := by
    rw [SourceFile.write, hresult]
    rfl
  obtain ⟨-, hread⟩ := members_stand_at_own_levels rfl hwriting hwrite
  exact ⟨rfl, ⟨_, hwriting, rfl⟩, ⟨_, _, hwrite⟩, by decide +kernel, by decide +kernel, hread⟩

/-- The levels change back and forth, and the stub of the interface is private in the class. -/
example : (readLevels? none (appendedLines 0 vaultHeader.log)).map (·.map Prod.fst) = some (
    List.replicate 3 none ++ List.replicate 2 (some .publicLevel) ++
      List.replicate 3 (some .privateLevel) ++ List.replicate 6 (some .publicLevel) ++
      List.replicate 5 (some .protectedLevel) ++ List.replicate 4 (some .privateLevel)) := by
  decide +kernel

end HeaderSynth
