import HeaderSynth.Declaration.ObjectFiles
import HeaderSynth.Proofs.Declaration.OverrideStubs

/-!
# Access levels of members

A marker at the margin sets the level of all lines up to the next one.  Reading the lines of a
declaration back in this way, every member of a class, contract or aggregate stands at the level
that its own flags ask for, however the levels of its neighbours change, and no marker repeats
the level that is in effect already.
-/

namespace HeaderSynth

/-! ## Appended lines -/

/-- The lines that a log appends, one for each entry that writes.  The first of them stands at
`depth`. -/
def appendedLines : Nat → List Emission → List String
  | _, [] => []
  | depth, .line text :: rest => (indentation depth ++ text) :: appendedLines depth rest
  | depth, .flush text :: rest => text :: appendedLines depth rest
  | depth, .indent :: rest => appendedLines (depth + 1) rest
  | depth, .outdent :: rest => appendedLines (depth - 1) rest
  | depth, .demand _ :: rest => appendedLines depth rest
  | depth, .diagnose _ :: rest => appendedLines depth rest

/-- A log adds its lines to the body of the file. -/
theorem SourceFile.body_applyAll (file : SourceFile) (log : List Emission) :
    (file.applyAll log).body = file.body ++ joinLines (appendedLines file.indent log) := by
  induction log generalizing file with
  | nil => simp [applyAll, appendedLines, joinLines_nil]
  | cons emission rest ih =>
      have hrest : (file.applyAll (emission :: rest)).body = (file.apply emission).body ++
          joinLines (appendedLines (file.apply emission).indent rest) := ih (file.apply emission)
      rw [hrest]
      cases emission with
      | line text => simp [apply, appendLine, appendedLines, joinLines_cons, String.append_assoc]
      | flush text => simp [apply, appendFlush, appendedLines, joinLines_cons, String.append_assoc]
      | demand demand => cases demand <;> rfl
      | _ => rfl

/-! ## Reading levels back -/

/-- The level that a line sets if it is a marker. -/
def AccessLevel.ofMarker? (line : String) : Option AccessLevel :=
  if line = "public:" then some .publicLevel
  else if line = "protected:" then some .protectedLevel
  else if line = "private:" then some .privateLevel
  else none

/-- Reads lines behind the level `current`: each line that is no marker, with the level that it
stands at.  A marker must not repeat the level in effect. -/
def readLevels? (current : Option AccessLevel) :
    List String → Option (List (Option AccessLevel × String))
  | [] => some []
  | line :: rest =>
    match AccessLevel.ofMarker? line with
    | none => (readLevels? current rest).map ((current, line) :: ·)
    | some level => if current = some level then none else readLevels? (some level) rest

@[simp]
theorem AccessLevel.ofMarker?_label (level : AccessLevel) : ofMarker? level.label = some level := by
  cases level <;> decide

theorem AccessLevel.ofMarker?_of_head {line : String} {first : Char}
    (h : line.toList.head? = some first) (hfirst : first ≠ 'p') : ofMarker? line = none := by
  have hne : ∀ marker : String, marker.toList.head? = some 'p' → line ≠ marker := by
    rintro marker hmarker rfl
    exact hfirst (Option.some.inj (h.symm.trans hmarker))
  rw [ofMarker?, if_neg (hne _ rfl), if_neg (hne _ rfl), if_neg (hne _ rfl)]

/-- An indented line is no marker. -/
theorem AccessLevel.ofMarker?_indented (depth : Nat) (text : String) :
    ofMarker? (indentation (depth + 1) ++ text) = none := by
  have hhead : (indentation (depth + 1) ++ text).toList.head? = some ' ' := by
    simp [indentation, List.replicate_succ, indentUnit]
  exact ofMarker?_of_head hhead (by decide)

theorem AccessLevel.ofMarker?_line {text : String} (h : ofMarker? text = none) (depth : Nat) :
    ofMarker? (indentation depth ++ text) = none := by
  cases depth with
  | zero => simpa [indentation] using h
  | succ depth => exact ofMarker?_indented depth text

/-! ## Logs -/

/-- The lines of a log that begins at `depth` are read as `placed`, from the level `current` to
the level `next`, whatever lines follow. -/
def LinesStandAs (depth : Nat) (current next : Option AccessLevel)
    (placed : List (Option AccessLevel × String)) (log : List Emission) : Prop :=
  ∀ rest, readLevels? current (appendedLines depth (log ++ rest)) =
    (readLevels? next (appendedLines depth rest)).map (placed ++ ·)

namespace LinesStandAs

variable {depth : Nat} {current middle next : Option AccessLevel}
  {placed others : List (Option AccessLevel × String)} {first second log : List Emission}

theorem nil : LinesStandAs depth current current [] [] := by
  intro rest
  simp

theorem append (hfirst : LinesStandAs depth current middle placed first)
    (hsecond : LinesStandAs depth middle next others second) :
    LinesStandAs depth current next (placed ++ others) (first ++ second) := by
  intro rest
  rw [List.append_assoc, hfirst, hsecond, Option.map_map]
  simp only [Function.comp_def, List.append_assoc]

theorem marker {level : AccessLevel} (h : current ≠ some level) :
    LinesStandAs depth current (some level) [] [.flush level.label] := by
  intro rest
  simp [appendedLines, readLevels?, h]

theorem indented (h : LinesStandAs (depth + 1) current next placed log) :
    LinesStandAs depth current next placed (.indent :: (log ++ [.outdent])) := by
  intro rest
  rw [List.cons_append, List.append_assoc, appendedLines, h]
  rfl

end LinesStandAs

/-- An entry that writes no marker at `depth` and leaves the indentation alone. -/
def Emission.KeepsLevel (depth : Nat) : Emission → Prop
  | .line text => AccessLevel.ofMarker? (indentation depth ++ text) = none
  | .flush text => AccessLevel.ofMarker? text = none
  | .indent => False
  | .outdent => False
  | .demand _ => True
  | .diagnose _ => True

/-- Lines without markers all stand at the level that is in effect. -/
theorem linesStandAs_of_keepsLevel {depth : Nat} {log : List Emission}
    (h : ∀ entry ∈ log, entry.KeepsLevel depth) (current : Option AccessLevel) :
    LinesStandAs depth current current ((appendedLines depth log).map (current, ·)) log := by
  induction log with
  | nil => exact .nil
  | cons entry log ih =>
      intro rest
      obtain ⟨hentry, hlog⟩ := List.forall_mem_cons.mp h
      have hrest := ih hlog rest
      cases entry with
      | line text =>
          have htext : AccessLevel.ofMarker? (indentation depth ++ text) = none := hentry
          simp only [List.cons_append, appendedLines, readLevels?, htext, hrest, Option.map_map,
            Function.comp_def, List.map_cons]
      | flush text =>
          have htext : AccessLevel.ofMarker? text = none := hentry
          simp only [List.cons_append, appendedLines, readLevels?, htext, hrest, Option.map_map,
            Function.comp_def, List.map_cons]
      | indent => exact hentry.elim
      | outdent => exact hentry.elim
      | demand demand => exact hrest
      | diagnose diagnostic => exact hrest

/-! ## Computations -/

/-- A computation that writes no marker at `depth` and leaves the indentation alone. -/
abbrev Emit.KeepsLevel {α : Type} (depth : Nat) (emission : Emit α) : Prop :=
  emission.Within (Emission.KeepsLevel depth) fun _ => True

/-- Whenever the computation succeeds, its lines are read as `placed`. -/
def Emit.StandsAs {α : Type} (depth : Nat) (current next : Option AccessLevel)
    (placed : List (Option AccessLevel × String)) (emission : Emit α) : Prop :=
  emission.Succeeds → LinesStandAs depth current next placed emission.log

/-- Whenever the computation succeeds, its lines are read as `placed`, below lines that stand
before every marker. -/
def Emit.StandsBelow {α : Type} (depth : Nat) (next : Option AccessLevel)
    (placed : List (Option AccessLevel × String)) (emission : Emit α) : Prop :=
  emission.Succeeds → ∃ heading : List String,
    LinesStandAs depth none next (heading.map (none, ·) ++ placed) emission.log

section

variable {α β : Type} {depth : Nat} {current middle next : Option AccessLevel}
  {placed others : List (Option AccessLevel × String)}

namespace Emit.KeepsLevel

theorem of_silent {emission : Emit α} (h : emission.Silent) : emission.KeepsLevel depth where
  log entry hentry := by
    have hsilent := h.log entry hentry
    cases entry with
    | demand demand => trivial
    | diagnose diagnostic => trivial
    | _ => cases hsilent
  failure _ _ := trivial

theorem line {text : String} (h : AccessLevel.ofMarker? text = none) :
    (Emit.line text).KeepsLevel depth :=
  .write (AccessLevel.ofMarker?_line h depth)

theorem indentedLine (text : String) : (Emit.line text).KeepsLevel (depth + 1) :=
  .write (AccessLevel.ofMarker?_indented depth text)

theorem blank : Emit.blank.KeepsLevel depth :=
  .write (show AccessLevel.ofMarker? "" = none by decide)

theorem standsAs {emission : Emit α} (h : emission.KeepsLevel depth)
    (current : Option AccessLevel) :
    emission.StandsAs depth current current
      ((appendedLines depth emission.log).map (current, ·)) :=
  fun _ => linesStandAs_of_keepsLevel h.log current

end Emit.KeepsLevel

theorem Emit.StandsAs.bind {first : Emit α} {following : α → Emit β}
    (hfirst : first.StandsAs depth current middle placed)
    (hnext : ∀ value, (following value).StandsAs depth middle next others) :
    (first >>= following).StandsAs depth current next (placed ++ others) := by
  rintro ⟨result, hresult⟩
  obtain ⟨value, hvalue, hresult⟩ := Logged.result_bind_eq_ok.mp hresult
  rw [Logged.bind_ok hvalue]
  exact (hfirst ⟨value, hvalue⟩).append (hnext value ⟨result, hresult⟩)

namespace Emit.StandsBelow

theorem of_standsAs {emission : Emit α} (h : emission.StandsAs depth none next placed) :
    emission.StandsBelow depth next placed :=
  fun hsucceeds => ⟨[], h hsucceeds⟩

/-- A first step without markers belongs to the lines above. -/
theorem bind {first : Emit α} {following : α → Emit β}
    (hfirst : first.StandsBelow depth none [])
    (hnext : ∀ value, (following value).StandsBelow depth next placed) :
    (first >>= following).StandsBelow depth next placed := by
  rintro ⟨result, hresult⟩
  obtain ⟨value, hvalue, hresult⟩ := Logged.result_bind_eq_ok.mp hresult
  obtain ⟨heading, hheading⟩ := hfirst ⟨value, hvalue⟩
  obtain ⟨more, hmore⟩ := hnext value ⟨result, hresult⟩
  refine ⟨heading ++ more, ?_⟩
  have hlog := hheading.append hmore
  rw [List.append_nil, ← List.append_assoc, ← List.map_append] at hlog
  rw [Logged.bind_ok hvalue]
  exact hlog

theorem of_keepsLevel {emission : Emit α} (h : emission.KeepsLevel depth) :
    emission.StandsBelow depth none [] := by
  intro _
  refine ⟨appendedLines depth emission.log, ?_⟩
  rw [List.append_nil]
  exact linesStandAs_of_keepsLevel h.log none

theorem silent_bind {first : Emit α} {following : α → Emit β} (h : first.Silent)
    (hnext : ∀ value, (following value).StandsBelow depth next placed) :
    (first >>= following).StandsBelow depth next placed :=
  (of_keepsLevel (.of_silent h)).bind hnext

theorem indented {body : Emit Unit} (h : body.StandsBelow (depth + 1) next placed) :
    (Emit.indented body).StandsBelow depth next placed := by
  intro hsucceeds
  have hbody : body.Succeeds := requires_indented id hsucceeds
  obtain ⟨heading, hlines⟩ := h hbody
  rw [Emit.log_indented hbody]
  exact ⟨heading, hlines.indented⟩

/-- A last line that is no marker stands at the level that is in effect. -/
theorem bind_line {first : Emit Unit} {text : String} (h : first.StandsBelow depth next placed)
    (htext : AccessLevel.ofMarker? text = none) :
    (do first; Emit.line text : Emit Unit).StandsBelow depth next
      (placed ++ [(next, indentation depth ++ text)]) := by
  rintro ⟨result, hresult⟩
  obtain ⟨value, hvalue, -⟩ := Logged.result_bind_eq_ok.mp hresult
  obtain ⟨heading, hheading⟩ := h ⟨value, hvalue⟩
  have hline : LinesStandAs depth next next [(next, indentation depth ++ text)] [.line text] :=
    linesStandAs_of_keepsLevel (Emit.KeepsLevel.line htext).log next
  refine ⟨heading, ?_⟩
  rw [Logged.bind_ok hvalue, ← List.append_assoc]
  exact hheading.append hline

end Emit.StandsBelow

end

/-! ## Sections -/

/-- The lines of sections that are written one after the other behind the level `current`, each
with its level. -/
def placeSections (depth : Nat) (current : Option AccessLevel) :
    List Section → List (Option AccessLevel × String)
  | [] => []
  | ⟨none, body⟩ :: rest =>
    (appendedLines depth body.log).map (current, ·) ++ placeSections depth current rest
  | ⟨some level, body⟩ :: rest =>
    (appendedLines depth body.log).map (some level, ·) ++ placeSections depth (some level) rest

/-- The level in effect behind sections. -/
def lastLevel (current : Option AccessLevel) (sections : List Section) : Option AccessLevel :=
  sections.foldl (fun current part => part.level.or current) current

theorem placeSections_append (depth : Nat) (current : Option AccessLevel)
    (first second : List Section) :
    placeSections depth current (first ++ second) =
      placeSections depth current first ++
        placeSections depth (lastLevel current first) second := by
  induction first generalizing current with
  | nil => rfl
  | cons part rest ih =>
      obtain ⟨level, body⟩ := part
      cases level with
      | none => rw [List.cons_append, placeSections, placeSections, ih, List.append_assoc]; rfl
      | some level => rw [List.cons_append, placeSections, placeSections, ih, List.append_assoc]; rfl

theorem standsAs_enterLevel (depth : Nat) (current : Option AccessLevel) (level : AccessLevel) :
    (enterLevel current level).StandsAs depth current (some level) [] := by
  intro _
  rw [enterLevel, AccessLevel.marker?]
  by_cases hsame : current = some level
  · rw [if_pos hsame, hsame]
    exact .nil
  · rw [if_neg hsame]
    exact .marker hsame

/-- Each section stands under its own level, and no marker repeats a level. -/
theorem standsAs_writeSections {depth : Nat} {sections : List Section}
    (h : ∀ part ∈ sections, part.body.KeepsLevel depth) (current : Option AccessLevel) :
    (writeSections current sections).StandsAs depth current (lastLevel current sections)
      (placeSections depth current sections) := by
  induction sections generalizing current with
  | nil => exact fun _ => .nil
  | cons part rest ih =>
      obtain ⟨hpart, hrest⟩ := List.forall_mem_cons.mp h
      obtain ⟨level, body⟩ := part
      have hbody : ∀ level, body.StandsAs depth level level
          ((appendedLines depth body.log).map (level, ·)) := hpart.standsAs
      cases level with
      | none => exact (hbody current).bind fun _ => ih hrest current
      | some level =>
          exact (standsAs_enterLevel depth current level).bind fun _ =>
            (hbody (some level)).bind fun _ => ih hrest (some level)

/-! ## Members -/

/-- A member with the level that it is to stand at. -/
structure Member where
  level : AccessLevel
  declaration : Emit Unit

/-- The lines of a member, each with the level. -/
def Member.placed (depth : Nat) (member : Member) : List (Option AccessLevel × String) :=
  (appendedLines depth member.declaration.log).map (some member.level, ·)

/-- A field stands at the level of its flags, or is public. -/
def fieldMember (graph : Graph) (options : GeneratorOptions) (owner : String) (field : Field) :
    Member where
  level := (PropertyFlags.access? field.flags).getD .publicLevel
  declaration := declareField graph options owner field

/-- A method stands at the level of its flags, or is public. -/
def methodMember (graph : Graph) (options : GeneratorOptions) (owner : String)
    (place : MethodPlace) (reserved : ReservedNames) (object : Object) : Member where
  level := (FunctionFlags.access? object.methodFlags).getD .publicLevel
  declaration := declareMethod graph options owner place reserved object

/-- A section that holds the lines of a member under its level. -/
structure Section.Shows (depth : Nat) (member : Member) (part : Section) : Prop where
  level : part.level = some member.level
  lines : appendedLines depth part.body.log = appendedLines depth member.declaration.log
  keeps : part.body.KeepsLevel depth

/-- Sections hold members one by one. -/
abbrev SectionsShow (depth : Nat) : List Member → List Section → Prop :=
  List.Forall₂ (Section.Shows depth)

namespace SectionsShow

variable {depth : Nat} {members : List Member} {sections : List Section}

theorem keeps (h : SectionsShow depth members sections) :
    ∀ part ∈ sections, part.body.KeepsLevel depth := by
  induction h with
  | nil => exact List.forall_mem_nil _
  | cons hpart _ ih => exact List.forall_mem_cons.mpr ⟨hpart.keeps, ih⟩

theorem placeSections_eq (h : SectionsShow depth members sections)
    (current : Option AccessLevel) :
    placeSections depth current sections = members.flatMap (·.placed depth) := by
  induction h generalizing current with
  | nil => rfl
  | @cons member part _ _ hpart _ ih =>
      obtain ⟨level, body⟩ := part
      obtain rfl : level = some member.level := hpart.level
      have hlines : appendedLines depth body.log = appendedLines depth member.declaration.log :=
        hpart.lines
      rw [placeSections, ih, List.flatMap_cons, Member.placed, hlines]

theorem append {others : List Member} {second : List Section}
    (hfirst : SectionsShow depth members sections) (hsecond : SectionsShow depth others second) :
    SectionsShow depth (members ++ others) (sections ++ second) :=
  List.rel_append hfirst hsecond

theorem map {ι : Type} {memberOf : ι → Member} {sectionOf : ι → Section}
    (h : ∀ item, (sectionOf item).Shows depth (memberOf item)) (items : List ι) :
    SectionsShow depth (items.map memberOf) (items.map sectionOf) := by
  rw [SectionsShow, List.forall₂_map_left_iff, List.forall₂_map_right_iff, List.forall₂_same]
  exact fun item _ => h item

end SectionsShow

theorem shows_publicSection {depth : Nat} {body : Emit Unit} (h : body.KeepsLevel depth) :
    (publicSection body).Shows depth ⟨.publicLevel, body⟩ :=
  ⟨rfl, rfl, h⟩

/-- A member without a level of its own is public, and the diagnostic writes no line. -/
theorem shows_memberSection {depth : Nat} {body : Emit Unit} (h : body.KeepsLevel depth)
    (owner name : String) (level : Option AccessLevel) :
    (memberSection owner name level body).Shows depth ⟨level.getD .publicLevel, body⟩ := by
  cases level with
  | none => exact ⟨rfl, rfl, Logged.Within.bind (.write trivial) fun _ _ => h⟩
  | some level => exact ⟨rfl, rfl, h⟩

end HeaderSynth
