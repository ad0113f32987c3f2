import HeaderSynth.Proofs.Dump.Headings
import HeaderSynth.Proofs.Dump.Listing

/-!
# Hashes of map keys

An aggregate that is the key of a map needs a hash.  Which aggregates are keys is known only
when everything has been written, so the hash is added to the header when it is rendered: it
stands behind the closing bracket of the aggregate, without indentation, and there is one
however many maps ask for it.
-/

namespace HeaderSynth

/-! ## Declarations that end with a line -/

/-- Whenever the computation succeeds, it leaves the indentation as it was. -/
def Emit.Balanced {α : Type} (emission : Emit α) : Prop :=
  emission.Succeeds → ∀ file : SourceFile, (file.applyAll emission.log).indent = file.indent

/-- Whenever the computation succeeds, its last line is the given one, at the indentation at
which the computation began. -/
def Emit.EndsWith {α : Type} (closing : String) (emission : Emit α) : Prop :=
  emission.Succeeds → ∀ file : SourceFile, ∃ front,
    (file.applyAll emission.log).body = front ++ indentation file.indent ++ closing ++ "\n" ∧
      (file.applyAll emission.log).indent = file.indent

theorem SourceFile.applyAll_append (file : SourceFile) (first second : List Emission) :
    file.applyAll (first ++ second) = (file.applyAll first).applyAll second :=
  List.foldl_append

namespace Emit.Balanced

variable {α β : Type}

theorem pure (value : α) : Emit.Balanced (Pure.pure value) := fun _ _ => rfl

theorem ofExcept (result : Except GenerateError α) : Emit.Balanced (Logged.ofExcept result) :=
  fun _ _ => rfl

theorem line (text : String) : (Emit.line text).Balanced := fun _ _ => rfl

theorem flush (text : String) : (Emit.flush text).Balanced := fun _ _ => rfl

theorem depend (id : ObjectId) (level : Level) : (Emit.depend id level).Balanced := fun _ _ => rfl

theorem diagnose (object member message : String) :
    (Emit.diagnose object member message).Balanced := fun _ _ => rfl

theorem ofDemands (computation : Logged Demand GenerateError α) :
    (Emit.ofDemands computation).Balanced :=
  fun _ file => (file.applyAll_demands computation.log).2

theorem bind {first : Emit α} {next : α → Emit β} (h : first.Balanced)
    (hnext : ∀ value, (next value).Balanced) : (first >>= next).Balanced := by
  rintro ⟨value, hvalue⟩ file
  obtain ⟨middle, hfirst, hrest⟩ := Logged.result_bind_eq_ok.mp hvalue
  rw [Logged.bind_ok hfirst, SourceFile.applyAll_append, hnext middle ⟨value, hrest⟩,
    h ⟨middle, hfirst⟩]

theorem indented {body : Emit Unit} (h : body.Balanced) : (Emit.indented body).Balanced := by
  intro hsucceeds file
  have hbody : body.Succeeds := requires_indented id hsucceeds
  have hinner := h hbody file.beginIndent
  rw [Emit.log_indented hbody, ← List.singleton_append, SourceFile.applyAll_append,
    SourceFile.applyAll_append]
  show ((file.beginIndent.applyAll body.log).indent - 1) = file.indent
  rw [hinner]
  rfl

end Emit.Balanced

namespace Emit.EndsWith

variable {α β : Type} {closing : String}

theorem line (closing : String) : (Emit.line closing).EndsWith closing :=
  fun _ file => ⟨file.body, rfl, rfl⟩

theorem bind {first : Emit α} {next : α → Emit β} (h : first.Balanced)
    (hnext : ∀ value, (next value).EndsWith closing) : (first >>= next).EndsWith closing := by
  rintro ⟨value, hvalue⟩ file
  obtain ⟨middle, hfirst, hrest⟩ := Logged.result_bind_eq_ok.mp hvalue
  have hindent := h ⟨middle, hfirst⟩ file
  obtain ⟨front, hbody, hsame⟩ :=
    hnext middle ⟨value, hrest⟩ (file.applyAll first.log)
  rw [hindent] at hbody hsame
  refine ⟨front, ?_, ?_⟩
  · rw [Logged.bind_ok hfirst, SourceFile.applyAll_append, hbody]
  · rw [Logged.bind_ok hfirst, SourceFile.applyAll_append, hsame]

end Emit.EndsWith

open Emit.Balanced

theorem balanced_writeSections {sections : List Section}
    (h : ∀ part ∈ sections, part.body.Balanced) (current : Option AccessLevel) :
    (writeSections current sections).Balanced := by
  induction sections generalizing current with
  | nil => exact pure _
  | cons part rest ih =>
      obtain ⟨hpart, hrest⟩ := List.forall_mem_cons.mp h
      obtain ⟨level, body⟩ := part
      cases level with
      | none => exact bind hpart fun _ => ih hrest current
      | some level =>
          have hlevel : (enterLevel current level).Balanced := by
            rw [enterLevel]
            split
            · exact flush _
            · exact pure _
          exact bind hlevel fun _ => bind hpart fun _ => ih hrest _

theorem balanced_fieldSection (graph : Graph) (options : GeneratorOptions) (owner : String)
    (field : Field) : (fieldSection graph options owner field).body.Balanced := by
  have hfield : (declareField graph options owner field).Balanced := by
    refine bind (ofExcept _) fun _ => bind (ofDemands _) fun _ => ?_
    exact bind (line _) fun _ => bind (line _) fun _ => flush _
  rw [fieldSection]
  cases PropertyFlags.access? field.flags with
  | none => exact bind (diagnose _ _ _) fun _ => hfield
  | some level => exact hfield

/-- The declaration of an aggregate ends with its closing bracket. -/
theorem endsWith_declareStruct (graph : Graph) (options : GeneratorOptions) (module : String)
    (usage : TypeUsage) (id : ObjectId) (object : Object) (info : StructInfo) :
    (declareStruct graph options module usage id object info).EndsWith "\x7d;" := by
  have hsections : ∀ constructorLine, ∀ part ∈ publicSection (Pure.pure ()) ::
      info.fields.map (fieldSection graph options object.name) ++
        [publicSection (Emit.line constructorLine)], part.body.Balanced := by
    intro constructorLine
    simp only [List.forall_mem_append, List.forall_mem_cons, List.forall_mem_map]
    exact ⟨⟨pure _, fun field _ => balanced_fieldSection graph options object.name field⟩, line _,
      by simp⟩
  rw [declareStruct]
  refine .bind (ofExcept _) fun annotations => ?_
  rcases info.superStruct with _ | parent
  on_goal 2 => refine .bind (depend parent .full) fun _ => ?_
  all_goals
    refine .bind (pure _) fun base => .bind (line _) fun _ => .bind (line _) fun _ => ?_
    refine .bind (indented (bind (line _) fun _ => ?_)) fun _ => .line _
    exact balanced_writeSections (hsections _) none

/-! ## Keys of maps -/

/-- A field of the class or aggregate `user` is a map whose keys are the aggregate `key`.  Fields
of interfaces do not count, and neither do parameters and maps inside other types. -/
def Graph.HasMapKeyedBy (graph : Graph) (user key : ObjectId) : Prop :=
  ∃ object, graph.object? user = some object ∧ ∃ field ∈ object.declaredFields,
    ∃ keySlot valueSlot value, field.kind = .map keySlot (.struct (some key)) valueSlot value

/-- The fields of a declaration are the only places where a map leaves the mark of a hash. -/
theorem Graph.marks_hashedKey_iff (graph : Graph) (user key : ObjectId) :
    graph.Marks user (.hashedKey key) ↔ graph.HasMapKeyedBy user key := by
  have huses : ∀ object : Object,
      (∃ use ∈ graph.typeUses object, use.Marks (.hashedKey key)) ↔
        ∃ field ∈ object.declaredFields, ∃ keySlot valueSlot value,
          field.kind = .map keySlot (.struct (some key)) valueSlot value := by
    intro object
    constructor
    · rintro ⟨use, huse, hmember, hmap⟩
      rcases List.mem_append.mp huse with hmemberUse | hsignature
      · obtain ⟨field, hfield, rfl⟩ := List.mem_map.mp hmemberUse
        exact ⟨field, hfield, hmap⟩
      · obtain ⟨function, -, huse⟩ := List.mem_flatMap.mp hsignature
        obtain ⟨slot, -, rfl⟩ := List.mem_map.mp huse
        cases hmember
    · rintro ⟨field, hfield, hmap⟩
      exact ⟨field.memberUse, List.mem_append_left _ (List.mem_map_of_mem hfield), rfl, hmap⟩
  simp only [Marks, HasMapKeyedBy, huses]

/-! ## Headers with hashes -/

/-- The header of an object before anything is written to it. -/
def PlannedObject.emptyHeader (object : PlannedObject) : SourceFile :=
  { object := object.id, module := object.module, baseName := object.baseName,
    role := .declaration }

theorem hashStub_struct (name : String) :
    hashStub ("F" ++ name) =
      "FORCEINLINE uint32 GetTypeHash(const F" ++ name ++ ") \x7b return 0; \x7d" := by
  rfl

theorem SourceFile.withHash_of_struct {file : SourceFile} {graph : Graph} {usage : TypeUsage}
    {object : Object} {info : StructInfo} (h : graph.object? file.object = some object)
    (hkind : object.kind = .structType info) :
    file.withHash graph usage = .ok (if file.object ∈ usage.hashedKeys then
      file.appendLine (hashStub ("F" ++ object.name)) else file) := by
  have hname : graph.structName file.object = "F" ++ object.name := by
    rw [Graph.structName, h]
    rfl
  rw [withHash]
  split
  · refine Outcome.bind_eq_ok.mpr ⟨object, Graph.get_eq_ok.mpr h, ?_⟩
    rw [hkind, hname]
    rfl
  · rfl

/-- The hash is a line of its own behind the closing bracket. -/
theorem SourceFile.body_withHash {file later : SourceFile} {graph : Graph} {usage : TypeUsage}
    {object : Object} {info : StructInfo} {front : String}
    (hobject : graph.object? file.object = some object) (hkind : object.kind = .structType info)
    (hbody : file.body = front ++ "\x7d;\n") (hindent : file.indent = 0)
    (h : file.withHash graph usage = .ok later) :
    later.body = front ++ joinLines ("\x7d;" ::
      if file.object ∈ usage.hashedKeys then [hashStub ("F" ++ object.name)] else []) := by
  rw [withHash_of_struct hobject hkind] at h
  obtain rfl := Except.ok.inj h
  split
  · rw [appendLine, hbody, hindent, joinLines_cons, joinLines_cons, joinLines_nil]
    simp [indentation, String.append_assoc]
  · rw [hbody, joinLines_cons, joinLines_nil]
    simp

/-- Behind the declaration of an aggregate stands one hash if a planned class or aggregate,
wherever it is planned, has a map with the aggregate as its key, and nothing otherwise. -/
theorem hash_of_generate {graph : Graph} {config : Config} {dump : Dump}
    (h : generate graph config = .ok dump) :
    ∃ names planned, graph.plan config = .ok (names, planned) ∧
      ∀ object ∈ planned, ∀ reflected info, graph.object? object.id = some reflected →
        reflected.kind = .structType info →
        ∃ usage front hash,
          (object.emptyHeader.applyAll (declareStruct graph config.generator object.module usage
            object.id reflected info).log).body = front ++ "\x7d;\n" ∧
          dump.HasBody object (front ++ SourceFile.joinLines ("\x7d;" :: hash)) ∧
          ((∃ user ∈ planned, graph.HasMapKeyedBy user.id object.id) ∧
              hash = ["FORCEINLINE uint32 GetTypeHash(const F" ++ reflected.name ++
                ") \x7b return 0; \x7d"] ∨
            (¬∃ user ∈ planned, graph.HasMapKeyedBy user.id object.id) ∧ hash = []) := by
  obtain ⟨names, planned, hplan, -⟩ := graph.exists_plan config
  refine ⟨names, planned, hplan, ?_⟩
  intro object hobject reflected info hreflected hkind
  obtain ⟨earlier, later, rfl⟩ := List.append_of_mem hobject
  obtain ⟨before, next, run, files, result, hsynthesize, -, hrender, hrecord, houtput⟩ :=
    exists_files_of_generate h hplan
  have hkey : object.id ∈ run.usage.hashedKeys ↔
      ∃ user ∈ earlier ++ object :: later, graph.HasMapKeyedBy user.id object.id := by
    simp only [← Graph.marks_hashedKey_iff]
    exact hrecord.holds_iff (.hashedKey object.id) trivial
  -- What is rendered is the file that the declaration was written to.
  obtain ⟨found, writing, middle, hfound, hwriting, hdeclare, -⟩ := synthesize_eq_ok hsynthesize
  obtain rfl : found = reflected := Option.some.inj (hfound.symm.trans hreflected)
  rw [Object.writing, hkind] at hwriting
  cases hwriting
  obtain ⟨_, -, hwritten⟩ := Outcome.map_eq_ok.mp (congrArg Prod.snd hdeclare)
  have hheader : object.emptyHeader.applyAll (declareStruct graph config.generator object.module
      before.usage object.id found info).log = files.declaration := hwritten
  obtain ⟨front, hfront, hindent⟩ := endsWith_declareStruct graph config.generator object.module
    before.usage object.id found info (SourceFile.succeeds_of_write hdeclare) object.emptyHeader
  have hstart : object.emptyHeader.indent = 0 := rfl
  rw [hstart] at hfront hindent
  have hdeclared : (object.emptyHeader.applyAll (declareStruct graph config.generator object.module
      before.usage object.id found info).log).body = front ++ "\x7d;\n" := by
    simpa [indentation, String.append_assoc] using hfront
  -- The hash is decided by the record of the whole run.
  have hfiles := areWritten_synthesize hsynthesize
  have hid : files.declaration.object = object.id := hfiles.declaration.object
  obtain ⟨declaration, hhash, hbody⟩ := Dump.exists_hasBody_of_render hfiles hrender houtput
  rw [← hid] at hreflected
  rw [SourceFile.body_withHash hreflected hkind (hheader ▸ hdeclared) (hheader ▸ hindent) hhash,
    hid] at hbody
  refine ⟨before.usage, front, _, hdeclared, hbody, ?_⟩
  by_cases hneeded : object.id ∈ run.usage.hashedKeys
  · refine .inl ⟨hkey.mp hneeded, ?_⟩
    rw [if_pos hneeded, hashStub_struct]
  · exact .inr ⟨fun huser => hneeded (hkey.mpr huser), if_neg hneeded⟩

/-- A class with a map from amounts to purses, and a list of maps from purses. -/
def ledger : ClassInfo where
  flags := ClassFlags.native
  fields := [
    { name := "Totals", flags := PropertyFlags.nativeAccessPublic,
      kind := .mapOf (.struct (some ⟨0⟩)) (.struct (some ⟨1⟩)) },
    { name := "Pages", flags := PropertyFlags.nativeAccessPublic,
      kind := .arrayOf (.mapOf (.struct (some ⟨1⟩)) .int32) }]

/-- Two aggregates, and a class that has maps with both of them as keys. -/
def countingHouse : Graph where
  objects := #[
    { name := "Amount", package := "/Script/Game",
      kind := .structType { flags := StructFlags.native } },
    { name := "Purse", package := "/Script/Game",
      kind := .structType { flags := StructFlags.native } },
    { name := "Ledger", package := "/Script/Game", kind := .classType ledger }]

theorem hash_of_generate_countingHouse :
    ∃ dump names planned, generate countingHouse objectFilesOnly = .ok dump ∧
      countingHouse.plan objectFilesOnly = .ok (names, planned) ∧
      ⟨⟨0⟩, "Game", "Amount"⟩ ∈ planned ∧
      ∃ front, dump.HasBody ⟨⟨0⟩, "Game", "Amount"⟩
        (front ++ "\x7d;\nFORCEINLINE uint32 GetTypeHash(const FAmount) \x7b return 0; \x7d\n") := by
  have hruns : (generate countingHouse objectFilesOnly).toBool = true := by decide +kernel
  obtain ⟨dump, hdump⟩ := Outcome.exists_of_toBool hruns
  obtain ⟨names, planned, hplan, hhashes⟩ := hash_of_generate hdump
  have hsome : (countingHouse.plan objectFilesOnly).toOption.any
      (fun result => result.2.contains ⟨⟨0⟩, "Game", "Amount"⟩ &&
        result.2.contains ⟨⟨2⟩, "Game", "Ledger"⟩) = true := by decide +kernel
  rw [hplan] at hsome
  obtain ⟨hamount, hledger⟩ := Bool.and_eq_true_iff.mp hsome
  have hplanned := List.contains_iff_mem.mp hamount
  have hkey : ∃ user ∈ planned, countingHouse.HasMapKeyedBy user.id ⟨0⟩ :=
    ⟨_, List.contains_iff_mem.mp hledger, _, rfl, _, List.mem_cons_self, _, _, _, rfl⟩
  obtain ⟨usage, front, hash, -, hbody, ⟨-, rfl⟩ | ⟨hnone, -⟩⟩ := hhashes _ hplanned _ _ rfl rfl
  · refine ⟨dump, names, planned, hdump, hplan, hplanned, front, ?_⟩
    rwa [SourceFile.joinLines_cons, SourceFile.joinLines_cons, SourceFile.joinLines_nil] at hbody
  · exact absurd hkey hnone

end HeaderSynth
