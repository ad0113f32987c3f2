import HeaderSynth.Proofs.Dump.Inclusions
import HeaderSynth.Proofs.Dump.Usage

/-!
# Headings

The body of a header begins with the annotation of its type, or with the macro of a delegate.
Before it stand only includes, comments and the names of other types, so the heading is the
first line of another kind.
-/

namespace HeaderSynth

/-! ## Logs that begin with a line -/

/-- Whenever the computation succeeds, its log has only demands before the given line. -/
def Emit.BeginsWith {α : Type} (heading : String) (emission : Emit α) : Prop :=
  ∀ value, emission.result = .ok value → ∃ (demands : List Demand) (rest : List Emission),
    emission.log = demands.map .demand ++ .line heading :: rest

namespace Emit.BeginsWith

variable {α β : Type} {heading : String}

theorem line (heading : String) : (Emit.line heading).BeginsWith heading :=
  fun _ _ => ⟨[], [], rfl⟩

theorem bind_left {first : Emit α} (h : first.BeginsWith heading) (next : α → Emit β) :
    (first >>= next).BeginsWith heading := by
  intro value hvalue
  obtain ⟨middle, hmiddle, -⟩ := Logged.result_bind_eq_ok.mp hvalue
  obtain ⟨demands, rest, hlog⟩ := h middle hmiddle
  refine ⟨demands, rest ++ (next middle).log, ?_⟩
  rw [Logged.bind_ok hmiddle, hlog, List.append_assoc, List.cons_append]

theorem bind_right {first : Emit α} (demands : List Demand)
    (hfirst : first.log = demands.map .demand) {next : α → Emit β}
    (h : ∀ value, first.result = .ok value → (next value).BeginsWith heading) :
    (first >>= next).BeginsWith heading := by
  intro value hvalue
  obtain ⟨middle, hmiddle, hrest⟩ := Logged.result_bind_eq_ok.mp hvalue
  obtain ⟨others, rest, hlog⟩ := h middle hmiddle value hrest
  refine ⟨demands ++ others, rest, ?_⟩
  rw [Logged.bind_ok hmiddle, hfirst, hlog, List.map_append, List.append_assoc]

end Emit.BeginsWith

/-! ## Bodies that begin with a line -/

namespace SourceFile

theorem exists_body_apply (file : SourceFile) (emission : Emission) :
    ∃ more, (file.apply emission).body = file.body ++ more := by
  cases emission with
  | line text => exact ⟨indentation file.indent ++ text ++ "\n", by
      simp [apply, appendLine, String.append_assoc]⟩
  | flush text => exact ⟨text ++ "\n", by simp [apply, appendFlush, String.append_assoc]⟩
  | demand needed => exact ⟨"", by cases needed <;> simp [apply, meet, depend, addInclude]⟩
  | _ => exact ⟨"", by simp [apply, beginIndent, endIndent]⟩

/-- Writing only adds to the body. -/
theorem exists_body_applyAll (file : SourceFile) (log : List Emission) :
    ∃ more, (file.applyAll log).body = file.body ++ more := by
  induction log generalizing file with
  | nil => exact ⟨"", by simp [applyAll]⟩
  | cons emission rest ih =>
      obtain ⟨first, hfirst⟩ := file.exists_body_apply emission
      obtain ⟨more, hmore⟩ := ih (file.apply emission)
      refine ⟨first ++ more, ?_⟩
      rw [← String.append_assoc, ← hfirst]
      exact hmore

/-- Demands change neither the body nor the indentation. -/
theorem applyAll_demands (file : SourceFile) (demands : List Demand) :
    (file.applyAll (demands.map .demand)).body = file.body ∧
      (file.applyAll (demands.map .demand)).indent = file.indent := by
  induction demands generalizing file with
  | nil => exact ⟨rfl, rfl⟩
  | cons demand rest ih =>
      have hmeet : (file.meet demand).body = file.body ∧
          (file.meet demand).indent = file.indent := by
        cases demand <;> exact ⟨rfl, rfl⟩
      have hrest := ih (file.meet demand)
      rw [hmeet.1, hmeet.2] at hrest
      exact hrest

theorem exists_body_of_beginsWith {file written : SourceFile} {emission : Emit Unit}
    {run after : Run} {heading : String} (hemission : emission.BeginsWith heading)
    (hbody : file.body = "") (hindent : file.indent = 0)
    (h : file.write emission run = (after, .ok written)) :
    ∃ more, written.body = heading ++ "\n" ++ more := by
  obtain ⟨value, hvalue, rfl⟩ := Outcome.map_eq_ok.mp (congrArg Prod.snd h)
  obtain ⟨demands, rest, hlog⟩ := hemission value hvalue
  obtain ⟨hsameBody, hsameIndent⟩ := file.applyAll_demands demands
  have hline : ((file.applyAll (demands.map .demand)).appendLine heading).body =
      heading ++ "\n" := by
    rw [appendLine, hsameBody, hsameIndent, hbody, hindent]
    simp [indentation]
  obtain ⟨more, hmore⟩ :=
    ((file.applyAll (demands.map .demand)).appendLine heading).exists_body_applyAll rest
  refine ⟨more, ?_⟩
  rw [hlog, ← hline, ← hmore, applyAll, List.foldl_append, List.foldl_cons]
  rfl

end SourceFile

/-! ## Lines before the body -/

/-- The beginnings of the lines before the body of a header. -/
def preambleMarks : List String :=
  ["#pragma once", "#include \"", "//CROSS-MODULE INCLUDE V2: -ModuleName=", "class ", "struct "]

/-- A line before the body of a header: an include, the stub of one, the name of a type, or
nothing. -/
def IsPreamble (line : String) : Prop :=
  line = "" ∨ ∃ mark ∈ preambleMarks, ∃ rest, line = mark ++ rest

/-- The text of a header whose body begins with `heading`. -/
def HasHeading (text heading : String) : Prop :=
  ∃ lines rest, text = SourceFile.joinLines (lines ++ [heading]) ++ rest ∧
    ∀ line ∈ lines, IsPreamble line

theorem isPreamble_append {mark : String} (h : mark ∈ preambleMarks) (rest : String) :
    IsPreamble (mark ++ rest) :=
  .inr ⟨mark, h, rest, rfl⟩

theorem isPreamble_include (rest : String) : IsPreamble ("#include \"" ++ rest) :=
  isPreamble_append (by simp [preambleMarks]) rest

theorem isPreamble_class (rest : String) : IsPreamble ("class " ++ rest) :=
  isPreamble_append (by simp [preambleMarks]) rest

theorem isPreamble_struct (rest : String) : IsPreamble ("struct " ++ rest) :=
  isPreamble_append (by simp [preambleMarks]) rest

theorem isPreamble_stubLine (module object header : String) :
    IsPreamble (stubLine module object header) := by
  have hmark : "//CROSS-MODULE INCLUDE V2: -ModuleName=" ∈ preambleMarks := by
    simp [preambleMarks]
  unfold stubLine
  rw [String.append_assoc, String.append_assoc, String.append_assoc]
  exact isPreamble_append hmark _

theorem SourceFile.isPreamble_openingLines {file : SourceFile} (hrole : file.role = .declaration) :
    ∀ line ∈ file.openingLines none, IsPreamble line := by
  intro line hline
  simp only [openingLines, hrole] at hline
  simp only [List.mem_append, List.mem_cons, List.not_mem_nil, or_false, List.mem_map] at hline
  rcases hline with (rfl | rfl) | ⟨header, -, rfl⟩
  · have hmark : "#pragma once" ∈ preambleMarks := by simp [preambleMarks]
    exact isPreamble_append hmark ""
  · exact isPreamble_include "CoreMinimal.h\""
  · rw [String.append_assoc]
    exact isPreamble_include _

theorem SourceFile.isPreamble_inclusionLines (graph : Graph) (names : NameRegistry)
    (file : SourceFile) (id : ObjectId) :
    ∀ line ∈ file.inclusionLines graph names none id, IsPreamble line := by
  intro line hline
  rw [inclusionLines] at hline
  split at hline
  · rename_i mention hmention
    obtain ⟨_, header, -, -, ⟨-, rfl⟩ | ⟨-, -, rfl⟩ | ⟨-, -, top, -, rfl⟩⟩ :=
      includeOf_eq_ok hmention
    · cases hline
    · rw [List.mem_singleton.mp hline, includeLine, String.append_assoc]
      exact isPreamble_include _
    · rw [List.mem_singleton.mp hline]
      exact isPreamble_stubLine ..
  · cases hline

theorem Graph.isPreamble_forwardLines (graph : Graph) (id : ObjectId) :
    ∀ line ∈ graph.forwardLines id, IsPreamble line := by
  intro line hline
  rw [forwardLines] at hline
  split at hline
  · rw [List.mem_singleton.mp hline, String.append_assoc]
    exact isPreamble_class _
  · rcases List.mem_pair.mp hline with rfl | rfl
    · rw [String.append_assoc]
      exact isPreamble_class _
    · rw [String.append_assoc]
      exact isPreamble_class _
  · rw [List.mem_singleton.mp hline, String.append_assoc]
    exact isPreamble_struct _
  · cases hline

/-- The lines that declare types by their names, with an empty line behind them. -/
theorem SourceFile.exists_forwardText (graph : Graph) (ids : List ObjectId) :
    ∃ lines, (∀ line ∈ lines, IsPreamble line) ∧
      (let text := joinLines (ids.flatMap graph.forwardLines)
       if text.isEmpty then "" else text ++ "\n") = joinLines lines := by
  dsimp only
  split
  · exact ⟨[], by simp, joinLines_nil.symm⟩
  · refine ⟨ids.flatMap graph.forwardLines ++ [""], ?_, ?_⟩
    · simp only [List.forall_mem_append, List.forall_mem_flatMap, List.forall_mem_singleton]
      exact ⟨fun id _ => graph.isPreamble_forwardLines id, .inl rfl⟩
    · rw [joinLines_append, joinLines_cons, joinLines_nil, String.empty_append, String.append_empty]

/-- The text of a header: lines before the body, the body, and an empty line. -/
def HasBody (text body : String) : Prop :=
  ∃ lines, text = SourceFile.joinLines lines ++ body ++ "\n" ∧ ∀ line ∈ lines, IsPreamble line

theorem SourceFile.hasBody_text {file : SourceFile} (hrole : file.role = .declaration)
    (hcontent : file.hasContent = true) (graph : Graph) (names : NameRegistry) :
    HasBody (file.text graph names none) file.body := by
  have hbody : file.body.isEmpty = false := by
    rw [hasContent] at hcontent
    simpa using hcontent
  have hclosing : ∀ line ∈ file.closingLines, IsPreamble line := by
    intro line hline
    simp only [closingLines, hrole, List.mem_singleton] at hline
    rw [hline, String.append_assoc]
    exact isPreamble_include _
  obtain ⟨forward, hpreamble, hforward⟩ :=
    exists_forwardText graph (file.dependencies.withLevel .forward)
  refine ⟨file.openingLines none ++ (file.dependencies.withLevel .full).flatMap
    (file.inclusionLines graph names none) ++ file.closingLines ++ "" :: forward, ?_, ?_⟩
  · rw [text]
    dsimp only at hforward ⊢
    rw [hforward, hbody]
    simp only [joinLines_append, joinLines_cons, String.append_assoc, String.empty_append,
      Bool.false_eq_true, if_false]
  · simp only [List.forall_mem_append, List.forall_mem_cons, List.forall_mem_flatMap]
    exact ⟨⟨⟨isPreamble_openingLines hrole, fun id _ =>
      isPreamble_inclusionLines graph names file id⟩, hclosing⟩, .inl rfl, hpreamble⟩

/-- A header has the heading that its body begins with. -/
theorem HasBody.hasHeading {text body heading more : String} (h : HasBody text body)
    (hbody : body = heading ++ "\n" ++ more) : HasHeading text heading := by
  obtain ⟨lines, htext, hpreamble⟩ := h
  refine ⟨lines, more ++ "\n", ?_, hpreamble⟩
  rw [htext, hbody, SourceFile.joinLines_append, SourceFile.joinLines_cons,
    SourceFile.joinLines_nil]
  simp only [String.append_assoc, String.append_empty]

/-! ## Headers of a dump -/

/-- The header of `object` in a dump has the given heading. -/
def Dump.HasHeading (dump : Dump) (object : PlannedObject) (heading : String) : Prop :=
  ∃ output ∈ dump.files, output.path = object.headerPath ∧
    HeaderSynth.HasHeading output.contents heading

/-- The header of `object` in a dump has the given body. -/
def Dump.HasBody (dump : Dump) (object : PlannedObject) (body : String) : Prop :=
  ∃ output ∈ dump.files, output.path = object.headerPath ∧
    HeaderSynth.HasBody output.contents body

/-- The body of a header is what its declaration wrote, with the line of a hash behind it. -/
theorem Dump.exists_hasBody_of_render {dump : Dump} {graph : Graph} {names : NameRegistry}
    {usage : TypeUsage} {object : PlannedObject} {files : ObjectFiles} {result : RenderedObject}
    (hfiles : files.AreWritten graph object)
    (hrender : files.render graph names usage = .ok result)
    (houtput : ∀ output ∈ result.files, output ∈ dump.files) :
    ∃ declaration, files.declaration.withHash graph usage = .ok declaration ∧
      dump.HasBody object declaration.body := by
  obtain ⟨declaration, header, sources, mentioned, hdeclaration, hheader, -, rfl⟩ :=
    ObjectFiles.render_eq_ok hfiles.declaration.content hrender
  have hfile := hfiles.declaration.withHash hdeclaration
  refine ⟨declaration, hdeclaration, _, houtput _ List.mem_cons_self, hfile.path_declaration, ?_⟩
  rw [(SourceFile.render_eq_ok hheader).1]
  exact SourceFile.hasBody_text hfile.role hfile.content graph names

theorem Dump.hasHeading_of_render {dump : Dump} {graph : Graph} {names : NameRegistry}
    {usage : TypeUsage} {object : PlannedObject} {files : ObjectFiles} {result : RenderedObject}
    {heading more : String} (hfiles : files.AreWritten graph object)
    (hrender : files.render graph names usage = .ok result)
    (houtput : ∀ output ∈ result.files, output ∈ dump.files)
    (hbody : files.declaration.body = heading ++ "\n" ++ more) :
    dump.HasHeading object heading := by
  obtain ⟨declaration, hdeclaration, output, hmem, hpath, htext⟩ :=
    exists_hasBody_of_render hfiles hrender houtput
  refine ⟨output, hmem, hpath, ?_⟩
  rcases SourceFile.withHash_eq_ok hdeclaration with rfl | ⟨line, rfl⟩
  · exact htext.hasHeading hbody
  · have hlonger : (files.declaration.appendLine line).body = heading ++ "\n" ++
        (more ++ (indentation files.declaration.indent ++ line ++ "\n")) := by
      rw [SourceFile.appendLine, hbody]
      simp only [String.append_assoc]
    exact htext.hasHeading hlonger

/-- How a dump comes to the files of an object: they are written when the objects planned
before it are recorded, and rendered when all are. -/
theorem exists_files_of_generate {graph : Graph} {config : Config} {dump : Dump}
    {names : NameRegistry} {earlier later : List PlannedObject} {object : PlannedObject}
    (h : generate graph config = .ok dump)
    (hplan : graph.plan config = .ok (names, earlier ++ object :: later)) :
    ∃ (before next run : Run) (files : ObjectFiles) (result : RenderedObject),
      synthesize graph config.generator object.id object.module object.baseName before =
        (next, .ok files) ∧
      graph.IsRecordOf config.generator earlier before.usage ∧
      files.render graph names run.usage = .ok result ∧
      graph.IsRecordOf config.generator (earlier ++ object :: later) run.usage ∧
      ∀ output ∈ result.files, output ∈ dump.files := by
  obtain ⟨_, _, run, written, rendered, hsame, hwritten, hrendered, houtput, -⟩ := generate_eq_ok h
  obtain ⟨rfl, rfl⟩ := Prod.mk.inj (Except.ok.inj (hplan.symm.trans hsame))
  obtain ⟨before, next, files, hfiles, hsynthesize, hbefore⟩ :=
    exists_synthesize_of_synthesizeAll hwritten
  obtain ⟨result, hresult, hrender⟩ := Outcome.exists_related_of_mem hrendered hfiles
  refine ⟨before, next, run, files, result, hsynthesize, hbefore, hrender,
    ⟨run, written, hwritten, rfl⟩, ?_⟩
  intro output hmem
  rw [houtput]
  exact List.mem_append_left _ (List.mem_flatMap.mpr ⟨result, hresult, hmem⟩)

/-- How a dump comes to the header of an object: its declaration is written when the objects
planned before it are recorded, and the header has the heading of the declaration. -/
theorem exists_writing_of_generate {graph : Graph} {config : Config} {dump : Dump}
    {names : NameRegistry} {earlier later : List PlannedObject} {object : PlannedObject}
    (h : generate graph config = .ok dump)
    (hplan : graph.plan config = .ok (names, earlier ++ object :: later)) :
    ∃ reflected usage writing, graph.object? object.id = some reflected ∧
      reflected.writing graph config.generator object.module usage object.id = .ok writing ∧
      writing.declare.Succeeds ∧
      graph.IsRecordOf config.generator earlier usage ∧
      ∀ heading, writing.declare.BeginsWith heading → dump.HasHeading object heading := by
  obtain ⟨before, next, run, files, result, hsynthesize, hrecord, hrender, -, houtput⟩ :=
    exists_files_of_generate h hplan
  obtain ⟨reflected, writing, middle, hreflected, hwriting, hdeclare, -⟩ :=
    synthesize_eq_ok hsynthesize
  refine ⟨reflected, before.usage, writing, hreflected, hwriting,
    SourceFile.succeeds_of_write hdeclare, hrecord, ?_⟩
  intro heading hheading
  obtain ⟨more, hbody⟩ := SourceFile.exists_body_of_beginsWith hheading rfl rfl hdeclare
  exact Dump.hasHeading_of_render (areWritten_synthesize hsynthesize) hrender houtput hbody

end HeaderSynth
