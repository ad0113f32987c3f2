import HeaderSynth.Declaration.DefaultValue
import HeaderSynth.Proofs.Declaration.TypeDemands
import HeaderSynth.Proofs.Sorted.Lookups

/-!
# Types that are written again

Methods write the types of their slots twice, once for the declaration and once for the body of a
stub.  The second time changes nothing: what a type demands, whatever the parts ask for on the
way, is already met.  An enumeration may stand at several places of one type over different
numeric types, so the record of what is under it passes through several texts; it is the last of
them that stays, both times.
-/

namespace HeaderSynth

/-! ## Actions -/

/-- An action that is done again makes its earlier occurrence superfluous, with another action in
between or none. -/
structure Supersedes {σ α : Type} (act : σ → α → σ) : Prop where
  twice : ∀ state action, act (act state action) action = act state action
  earlier : ∀ state action other,
    act (act (act state action) other) action = act (act state other) action

namespace Supersedes

variable {σ α : Type} {act : σ → α → σ}

/-- An action that is done at the end need not be done at the beginning. -/
theorem act_foldl (h : Supersedes act) (state : σ) (action : α) (between : List α) :
    act (between.foldl act (act state action)) action = act (between.foldl act state) action := by
  induction between generalizing state with
  | nil => exact h.twice state action
  | cons other rest ih =>
      -- The action can be put back behind its neighbour, from where the rest makes it superfluous.
      calc act (rest.foldl act (act (act state action) other)) action
          = act (rest.foldl act (act (act (act state action) other) action)) action :=
            (ih (act (act state action) other)).symm
        _ = act (rest.foldl act (act (act state other) action)) action := by rw [h.earlier]
        _ = act (rest.foldl act (act state other)) action := ih (act state other)

/-- Actions that are done at the end need not be done at the beginning. -/
theorem foldl_foldl_foldl (h : Supersedes act) (state : σ) (actions between : List α) :
    actions.foldl act (between.foldl act (actions.foldl act state)) =
      actions.foldl act (between.foldl act state) := by
  induction actions generalizing state between with
  | nil => rfl
  | cons action rest ih =>
      have hfirst : act (between.foldl act (rest.foldl act (act state action))) action =
          (between ++ [action]).foldl act (rest.foldl act state) := by
        rw [← List.foldl_append, h.act_foldl, List.foldl_append, List.foldl_append]
        rfl
      rw [List.foldl_cons, List.foldl_cons, hfirst, ih, List.foldl_append]
      rfl

/-- After some actions, the last of them in their order change nothing. -/
theorem foldl_of_suffix (h : Supersedes act) (state : σ) {actions last : List α}
    (hlast : last <:+ actions) :
    last.foldl act (actions.foldl act state) = actions.foldl act state := by
  obtain ⟨front, rfl⟩ := hlast
  rw [List.foldl_append]
  exact h.foldl_foldl_foldl (front.foldl act state) last []

end Supersedes

/-! ## Levels and records -/

@[simp]
theorem Level.max_self (level : Level) : level.max level = level := by
  cases level <;> rfl

namespace Dependencies

theorem get?_register (dependencies : Dependencies) (id other : ObjectId) (level : Level) :
    (dependencies.register id level).get? other =
      if other = id then some ((dependencies.level other).max level)
      else dependencies.get? other := by
  rw [register, SortedMap.get?_alter, Dependencies.level]
  split_ifs with hother
  · rw [hother]
  · rfl

theorem level_register (dependencies : Dependencies) (id other : ObjectId) (level : Level) :
    (dependencies.register id level).level other =
      if other = id then (dependencies.level other).max level else dependencies.level other := by
  rw [Dependencies.level, get?_register]
  split_ifs <;> rfl

theorem register_twice (dependencies : Dependencies) (id : ObjectId) (level : Level) :
    (dependencies.register id level).register id level = dependencies.register id level := by
  apply SortedMap.ext_get?
  intro other
  simp only [get?_register, level_register]
  split_ifs
  · rw [Level.max_assoc, Level.max_self]
  · rfl

theorem register_earlier (dependencies : Dependencies) (id between : ObjectId)
    (level later : Level) :
    ((dependencies.register id level).register between later).register id level =
      (dependencies.register between later).register id level := by
  have hbetween : (level.max later).max level = later.max level := by
    cases level <;> cases later <;> rfl
  apply SortedMap.ext_get?
  intro other
  simp only [get?_register, level_register]
  split_ifs
  · rw [Level.max_assoc, Level.max_assoc, ← Level.max_assoc level, hbetween, ← Level.max_assoc]
  · rw [Level.max_assoc, Level.max_self]
  · rfl
  · rfl

end Dependencies

/-- A file meets a demand once and for all. -/
theorem SourceFile.supersedes_meet : Supersedes SourceFile.meet where
  twice file demand := by
    cases demand <;>
      simp [meet, depend, addInclude, Dependencies.register_twice, SortedSet.insert_twice]
  earlier file demand other := by
    cases demand <;> cases other <;>
      simp [meet, depend, addInclude, Dependencies.register_twice, SortedSet.insert_twice,
        Dependencies.register_earlier, SortedSet.insert_earlier]

/-- What a demand leaves in the record is what it leaves the last time. -/
theorem TypeUsage.supersedes_record : Supersedes TypeUsage.record where
  twice usage demand := by
    cases demand <;> simp [record, SortedSet.insert_twice, SortedMap.insert_twice]
  earlier usage demand other := by
    cases demand <;> cases other <;>
      simp [record, SortedSet.insert_twice, SortedMap.insert_twice, SortedSet.insert_earlier,
        SortedMap.insert_earlier]

variable {graph : Graph}

/-! ## Zero values -/

/-- A computation that succeeds and leaves no more than diagnostics. -/
def Emit.OnlyDiagnoses {α : Type} (emission : Emit α) : Prop :=
  emission.Within (fun entry => ∃ diagnostic, entry = .diagnose diagnostic) fun _ => False

namespace Emit.OnlyDiagnoses

variable {α : Type} {emission : Emit α}

theorem succeeds (h : emission.OnlyDiagnoses) : emission.Succeeds := by
  cases hresult : emission.result with
  | error fault => exact (h.failure fault hresult).elim
  | ok value => exact ⟨value, hresult⟩

theorem exists_log_eq (h : emission.OnlyDiagnoses) :
    ∃ diagnostics : List Diagnostic, emission.log = diagnostics.map .diagnose := by
  have hlog := h.log
  generalize emission.log = log at hlog
  induction log with
  | nil => exact ⟨[], rfl⟩
  | cons entry rest ih =>
      obtain ⟨diagnostic, rfl⟩ := hlog entry List.mem_cons_self
      obtain ⟨diagnostics, rfl⟩ := ih fun other hother =>
        hlog other (List.mem_cons_of_mem _ hother)
      exact ⟨diagnostic :: diagnostics, rfl⟩

theorem applyAll_file (h : emission.OnlyDiagnoses) (file : SourceFile) :
    file.applyAll emission.log = file := by
  obtain ⟨diagnostics, hlog⟩ := h.exists_log_eq
  rw [hlog, SourceFile.applyAll, List.foldl_map]
  exact List.foldl_fixed _

/-- Diagnostics change nothing that is recorded of the types. -/
theorem usage_applyAll (h : emission.OnlyDiagnoses) (run : Run) :
    (run.applyAll emission.log).usage = run.usage := by
  obtain ⟨diagnostics, hlog⟩ := h.exists_log_eq
  rw [hlog]
  clear hlog
  induction diagnostics generalizing run with
  | nil => rfl
  | cons diagnostic rest ih => exact ih (run.apply (.diagnose diagnostic))

end Emit.OnlyDiagnoses

theorem onlyDiagnoses_enumLiteral (owner member : String) (id : ObjectId) (value : Int) :
    (enumLiteral graph owner member id value).OnlyDiagnoses := by
  rw [enumLiteral]
  split
  · exact .pure _
  · exact (Logged.Within.write ⟨_, rfl⟩).bind fun _ _ => .pure _

/-- The zero value of a type that can be written demands what the type demands, or nothing. -/
theorem zeroValue_demands (graph : Graph) {field : Field} (h : field.kind.IsWritable)
    (owner : String) :
    (zeroValue graph owner field).OnlyDiagnoses ∨
      (zeroValue graph owner field).Succeeds ∧
        (zeroValue graph owner field).log = (field.typeText graph owner).log := by
  have hcall : ((do return (← field.typeText graph owner) ++ "()") : Emit String).Succeeds ∧
      ((do return (← field.typeText graph owner) ++ "()") : Emit String).log =
        (field.typeText graph owner).log := by
    have hsucceeds : (typeText graph owner false field.toSlot field.kind).Succeeds :=
      (succeeds_typeText_iff owner false field.toSlot field.kind).mpr h
    obtain ⟨text, htext⟩ := hsucceeds
    have htype : (field.typeText graph owner).result = .ok text := htext
    rw [Logged.bind_ok htype]
    exact ⟨⟨text ++ "()", rfl⟩, List.append_nil _⟩
  rw [zeroValue]
  cases hkind : field.kind with
  | byte enumType =>
      cases enumType with
      | none => exact .inl (.pure _)
      | some id => exact .inl (onlyDiagnoses_enumLiteral ..)
  | enum enumType inner underlying =>
      cases enumType with
      | none =>
          rw [hkind] at h
          exact h.elim
      | some id => exact .inl (onlyDiagnoses_enumLiteral ..)
  | struct structType =>
      cases structType with
      | none =>
          rw [hkind] at h
          exact h.elim
      | some id => exact .inl (.pure _)
  | delegate signature multicast => exact .inr hcall
  | array inner element => exact .inr hcall
  | set inner element => exact .inr hcall
  | map keySlot key valueSlot value => exact .inr hcall
  | unsupported className =>
      rw [hkind] at h
      exact h.elim
  | _ => exact .inl (.pure _)

/-! ## Places behind types -/

theorem Run.applyAll_ofDemands {α : Type} (run : Run)
    (computation : Logged Demand GenerateError α) :
    run.applyAll (Emit.ofDemands computation).log =
      { run with usage := computation.log.foldl TypeUsage.record run.usage } := by
  show (computation.log.map Emission.demand).foldl Run.apply run = _
  generalize computation.log = demands
  induction demands generalizing run with
  | nil => rfl
  | cons demand rest ih => exact ih (run.apply (.demand demand))

/-- The hash of a key is recorded apart from everything that else is recorded. -/
theorem TypeUsage.foldl_record_hashedKey (usage : TypeUsage) (id : ObjectId)
    (demands : List Demand) :
    demands.foldl record (usage.record (.hashedKey id)) =
      (demands.foldl record usage).record (.hashedKey id) := by
  have hswap : ∀ (usage : TypeUsage) demand,
      (usage.record (.hashedKey id)).record demand =
        (usage.record demand).record (.hashedKey id) := by
    intro usage demand
    cases demand with
    | hashedKey other =>
        have hset : (usage.hashedKeys.insert id).insert other =
            (usage.hashedKeys.insert other).insert id := by
          ext key
          simp only [SortedSet.mem_insert]
          tauto
        simp only [record, hset]
    | _ => rfl
  induction demands generalizing usage with
  | nil => rfl
  | cons demand rest ih => rw [List.foldl_cons, hswap, ih, List.foldl_cons]

namespace TypeContext

/-- A place that has met some demands. -/
def meet (context : TypeContext) (demands : List Demand) : TypeContext :=
  { context with
    file := context.file.map fun file => demands.foldl SourceFile.meet file
    run := { context.run with usage := demands.foldl TypeUsage.record context.run.usage } }

theorem after_eq_meet (context : TypeContext) (field : Field) :
    context.after graph field = context.meet
      (typeText graph context.owner context.isMember field.toSlot field.kind).log := by
  rw [after, write_eq, Run.applyAll_ofDemands, meet]
  simp only [SourceFile.applyAll_ofDemands]

theorem meet_append (context : TypeContext) (first second : List Demand) :
    context.meet (first ++ second) = (context.meet first).meet second := by
  obtain ⟨owner, file, run, isMember⟩ := context
  cases file <;> simp [meet]

/-- What was met last is met again without any change. -/
theorem meet_of_suffix (context : TypeContext) {demands last : List Demand}
    (h : last <:+ demands) : (context.meet demands).meet last = context.meet demands := by
  obtain ⟨owner, file, run, isMember⟩ := context
  simp only [meet, TypeUsage.supersedes_record.foldl_of_suffix run.usage h, Option.map_map,
    Function.comp_def, SourceFile.supersedes_meet.foldl_of_suffix _ h]

theorem meet_hashedKey (context : TypeContext) (id : ObjectId) (demands : List Demand) :
    (context.meet [.hashedKey id]).meet demands = (context.meet demands).meet [.hashedKey id] := by
  obtain ⟨owner, file, run, isMember⟩ := context
  simp only [meet, List.foldl_cons, List.foldl_nil, TypeUsage.foldl_record_hashedKey]
  cases file <;> rfl

/-- What a field demands only where it is a member: a hash for the aggregate that is its key. -/
def marks (isMember : Bool) (field : Field) : List Demand :=
  if isMember then field.kind.hashedKey?.toList.map .hashedKey else []

theorem after_eq_meet_append {context : TypeContext} {field : Field}
    (h : field.kind.IsWritable) : context.after graph field =
      context.meet (marks context.isMember field ++ field.kind.demands graph field.toSlot) := by
  rw [after_eq_meet, log_typeText ((succeeds_typeText_iff ..).mpr h)]
  rfl

/-- Demands that have been met are met again, and only a mark that is new is added. -/
theorem meet_again (context : TypeContext) (before now : Bool) (field : Field)
    (demands : List Demand) :
    (context.meet (marks before field ++ demands)).meet (marks now field ++ demands) =
      if now && !before then (context.meet (marks before field ++ demands)).meet (marks now field)
      else context.meet (marks before field ++ demands) := by
  cases now with
  | false => exact context.meet_of_suffix (List.suffix_append _ _)
  | true =>
      cases before with
      | true => exact context.meet_of_suffix (List.suffix_refl _)
      | false =>
          have hnew : (context.meet demands).meet (marks true field ++ demands) =
              (context.meet demands).meet (marks true field) := by
            rw [marks, if_pos rfl]
            cases field.kind.hashedKey? with
            | none =>
                show (context.meet demands).meet demands = (context.meet demands).meet []
                rw [context.meet_of_suffix (List.suffix_refl demands),
                  context.meet_of_suffix List.nil_suffix]
            | some id =>
                show (context.meet demands).meet ([.hashedKey id] ++ demands) =
                  (context.meet demands).meet [.hashedKey id]
                rw [meet_append, meet_hashedKey, context.meet_of_suffix (List.suffix_refl demands)]
          exact hnew

end TypeContext

/-- A type that has been written can be written again, in the same place with the same text, and
its zero value can be written too.  That changes neither the file nor anything that is recorded of
the types; only a type that is that of a member now, and was not before, marks the key of a map
besides. -/
theorem write_again {context : TypeContext} {field : Field} {text : String}
    (h : (context.write graph field).result = .ok text) :
    let once := context.after graph field
    ((once.write graph field).result = .ok text ∧ once.after graph field = once) ∧
    (∀ owner isMember,
      let again : TypeContext := { once with owner, isMember }
      (again.write graph field).Succeeds ∧
        again.after graph field =
          if isMember && !context.isMember
          then again.meet (TypeContext.marks isMember field) else again) ∧
    ∀ owner,
      (zeroValue graph owner field).Succeeds ∧
        once.file.map (·.applyAll (zeroValue graph owner field).log) = once.file ∧
        (once.run.applyAll (zeroValue graph owner field).log).usage = once.run.usage := by
  have hwritable : field.kind.IsWritable := by
    rw [TypeContext.write_eq] at h
    exact (succeeds_typeText_iff context.owner context.isMember field.toSlot field.kind).mp
      ⟨text, h⟩
  have hagain : ∀ owner isMember,
      let again : TypeContext := { context.after graph field with owner, isMember }
      again.after graph field = if isMember && !context.isMember
        then again.meet (TypeContext.marks isMember field) else again := by
    intro owner isMember
    let place : TypeContext := { context with owner, isMember }
    have hmeet := place.meet_again context.isMember isMember field
      (field.kind.demands graph field.toSlot)
    simp only [TypeContext.after_eq_meet_append hwritable]
    exact hmeet
  have hsame : (context.after graph field).after graph field = context.after graph field := by
    have hplace := hagain context.owner context.isMember
    dsimp only at hplace
    rw [Bool.and_not_self] at hplace
    exact hplace
  refine ⟨⟨?_, hsame⟩, ?_, ?_⟩
  · rw [TypeContext.write_eq] at h ⊢
    exact h
  · intro owner isMember
    refine ⟨?_, hagain owner isMember⟩
    rw [TypeContext.write_eq]
    exact (succeeds_typeText_iff owner isMember field.toSlot field.kind).mpr hwritable
  · intro owner
    obtain hsilent | ⟨hsucceeds, hlog⟩ := zeroValue_demands graph hwritable owner
    · refine ⟨hsilent.succeeds, ?_, hsilent.usage_applyAll _⟩
      simp only [hsilent.applyAll_file, Option.map_id']
    · -- The zero value writes the type where it is not that of a member.
      have hplace := hagain owner false
      rw [hlog]
      exact ⟨hsucceeds, congrArg TypeContext.file hplace,
        congrArg (fun place : TypeContext => place.run.usage) hplace⟩

/-- The colours of a paint box. -/
def paintBox : Graph where
  objects := #[{ name := "EHue", package := "/Script/Game", kind := .enumType {} }]

/-- A member that maps colours to colours, which stand over a byte there and over a wider type
here. -/
def shades : Field where
  name := "Shades"
  kind := .mapOf (.enum (some ⟨0⟩) { name := "UnderlyingType" } (.byte none))
    (.enum (some ⟨0⟩) { name := "UnderlyingType" } .int32)

def brushFile : SourceFile where
  object := ⟨1⟩
  module := "Game"
  baseName := "Brush"
  role := .declaration

def brushMember : TypeContext := ⟨"Brush", some brushFile, .empty, true⟩

theorem write_again_shades :
    (brushMember.write paintBox shades).result = .ok "TMap<EHue, EHue>" ∧
      let once := brushMember.after paintBox shades
      once.run.usage.underlying.get? ⟨0⟩ = some "int32" ∧
        (once.write paintBox shades).result = .ok "TMap<EHue, EHue>" ∧
        once.after paintBox shades = once ∧
        (zeroValue paintBox "Brush" shades).Succeeds ∧
        (once.run.applyAll (zeroValue paintBox "Brush" shades).log).usage = once.run.usage := by
  have htext : (brushMember.write paintBox shades).result = .ok "TMap<EHue, EHue>" := by decide
  obtain ⟨⟨hwrite, hafter⟩, -, hzero⟩ := write_again htext
  obtain ⟨hsucceeds, -, husage⟩ := hzero "Brush"
  exact ⟨htext, by decide, hwrite, hafter, hsucceeds, husage⟩

end HeaderSynth
