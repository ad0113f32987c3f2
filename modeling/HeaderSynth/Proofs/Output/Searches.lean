import HeaderSynth.Proofs.Output.Reachability
import HeaderSynth.Proofs.Sorted.Lookups

/-!
# Searches with a stack

The modules that a module leads to can also be found with a stack of modules whose references
have not been looked at.  Every step takes one module from the stack, and every module is put
there at most once, so a search comes to an end whatever cycles the references make.  It then
has seen exactly the modules that the rounds find, and these are the ones that the recorded
references lead to.
-/

namespace HeaderSynth.ModuleReferences

/-! ## Recorded references -/

/-- A call that adds to the references between modules. -/
inductive Call where
  | ensure (module : String)
  | record (module other : String)
deriving DecidableEq, Repr

def perform (references : ModuleReferences) : Call → ModuleReferences
  | .ensure module => references.ensure module
  | .record module other => references.record module other

/-- What calls one after the other leave behind. -/
def ofCalls (calls : List Call) : ModuleReferences :=
  calls.foldl perform .empty

/-- One of the calls records that a module refers to another one. -/
def IsRecorded (calls : List Call) (module other : String) : Prop :=
  .record module other ∈ calls ∧ other ≠ "" ∧ other ≠ module

theorem refers_perform {references : ModuleReferences} {call : Call} {module other : String} :
    (references.perform call).Refers module other ↔
      IsRecorded [call] module other ∨ references.Refers module other := by
  cases call with
  | ensure entry =>
      rw [perform, refers_ensure]
      simp [IsRecorded]
  | record entry name =>
      have hcall : IsRecorded [.record entry name] module other ↔
          module = entry ∧ other = name ∧ name ≠ "" ∧ name ≠ entry := by
        simp only [IsRecorded, List.mem_singleton, Call.record.injEq]
        constructor
        · rintro ⟨⟨rfl, rfl⟩, hname⟩
          exact ⟨rfl, rfl, hname⟩
        · rintro ⟨rfl, rfl, hname⟩
          exact ⟨⟨rfl, rfl⟩, hname⟩
      rw [perform, refers_record, hcall]

theorem refers_foldl_perform {references : ModuleReferences} {calls : List Call}
    {module other : String} :
    (calls.foldl perform references).Refers module other ↔
      IsRecorded calls module other ∨ references.Refers module other := by
  induction calls generalizing references with
  | nil => simp [IsRecorded]
  | cons call rest ih =>
      have hcons : IsRecorded (call :: rest) module other ↔
          IsRecorded rest module other ∨ IsRecorded [call] module other := by
        simp only [IsRecorded, List.mem_cons, List.not_mem_nil, or_false]
        tauto
      rw [List.foldl_cons, ih, refers_perform, hcons, or_assoc]

/-- Calls leave exactly the references that they record. -/
theorem refers_ofCalls {calls : List Call} {module other : String} :
    (ofCalls calls).Refers module other ↔ IsRecorded calls module other := by
  rw [ofCalls, refers_foldl_perform, or_iff_left (not_refers_empty module other)]

/-! ## Steps of a search -/

/-- A search under way. -/
structure Search where
  /-- The modules whose references are still to be looked at. -/
  stack : List String
  seen : SortedSet String

namespace Search

/-- The search for what a module leads to begins at the module. -/
def begin (start : String) : Search :=
  ⟨[start], .empty⟩

/-- Comes across a module: it is put on the stack, unless the search began there or has seen it
before. -/
def meet (start : String) (search : Search) (found : String) : Search :=
  if found = start ∨ found ∈ search.seen then search
  else ⟨found :: search.stack, search.seen.insert found⟩

/-- Takes a module from the stack, and comes across everything that it refers to. -/
def step (references : ModuleReferences) (start : String) (search : Search) : Search :=
  match search.stack with
  | [] => search
  | module :: rest => (references.direct module).foldl (meet start) { search with stack := rest }

variable {references : ModuleReferences} {start module : String} {search : Search}

theorem mem_seen_meet {found : String} :
    module ∈ (search.meet start found).seen ↔
      module ∈ search.seen ∨ module = found ∧ module ≠ start := by
  rw [meet]
  split
  · rename_i hold
    constructor
    · exact .inl
    · rintro (hmem | ⟨rfl, hstart⟩)
      · exact hmem
      · exact hold.resolve_left hstart
  · rename_i hnew
    rw [SortedSet.mem_insert]
    constructor
    · rintro (rfl | hmem)
      · exact .inr ⟨rfl, fun hstart => hnew (.inl hstart)⟩
      · exact .inl hmem
    · rintro (hmem | ⟨rfl, -⟩)
      · exact .inr hmem
      · exact .inl rfl

theorem mem_stack_meet {found : String} :
    module ∈ (search.meet start found).stack ↔
      module ∈ search.stack ∨ module = found ∧ module ≠ start ∧ module ∉ search.seen := by
  rw [meet]
  split
  · rename_i hold
    constructor
    · exact .inl
    · rintro (hmem | ⟨rfl, hstart, hseen⟩)
      · exact hmem
      · exact absurd (hold.resolve_left hstart) hseen
  · rename_i hnew
    rw [List.mem_cons]
    constructor
    · rintro (rfl | hmem)
      · exact .inr ⟨rfl, fun hstart => hnew (.inl hstart), fun hseen => hnew (.inr hseen)⟩
      · exact .inl hmem
    · rintro (hmem | ⟨rfl, -⟩)
      · exact .inr hmem
      · exact .inl rfl

theorem mem_seen_foldl_meet {found : List String} :
    module ∈ (found.foldl (meet start) search).seen ↔
      module ∈ search.seen ∨ module ∈ found ∧ module ≠ start := by
  induction found generalizing search with
  | nil => simp
  | cons first rest ih =>
      rw [List.foldl_cons, ih, mem_seen_meet, List.mem_cons]
      tauto

theorem mem_stack_foldl_meet {found : List String} :
    module ∈ (found.foldl (meet start) search).stack ↔
      module ∈ search.stack ∨ module ∈ found ∧ module ≠ start ∧ module ∉ search.seen := by
  induction found generalizing search with
  | nil => simp
  | cons first rest ih =>
      rw [List.foldl_cons, ih, mem_stack_meet, mem_seen_meet, List.mem_cons]
      tauto

/-! ## What a search knows -/

/-- What holds of a search from `start` at every step. -/
structure IsSound (references : ModuleReferences) (start : String) (search : Search) : Prop where
  /-- Only modules that can be reached have been seen. -/
  reached : ∀ module ∈ search.seen,
    module ≠ start ∧ Relation.TransGen references.Refers start module
  /-- Only the start and modules that have been seen are on the stack. -/
  known : ∀ module ∈ search.stack, module = start ∨ module ∈ search.seen
  /-- Of the modules that are not on the stack any more, all references have been seen. -/
  explored : ∀ module, module = start ∨ module ∈ search.seen → module ∉ search.stack →
    ∀ other, references.Refers module other → other = start ∨ other ∈ search.seen

theorem isSound_begin (references : ModuleReferences) (start : String) :
    (begin start).IsSound references start where
  reached module hmodule := absurd hmodule (SortedSet.not_mem_empty module)
  known module hmodule := .inl (List.mem_singleton.mp hmodule)
  explored module hmodule hstack := by
    rcases hmodule with rfl | hseen
    · exact absurd List.mem_cons_self hstack
    · exact absurd hseen (SortedSet.not_mem_empty module)

/-- A step keeps what a search knows. -/
theorem IsSound.step (h : search.IsSound references start) :
    (search.step references start).IsSound references start := by
  rw [Search.step]
  split
  · exact h
  rename_i current rest hstack
  have hcurrent : current = start ∨ current ∈ search.seen :=
    h.known current (by rw [hstack]; exact List.mem_cons_self)
  have hreached : ∀ other, references.Refers current other →
      Relation.TransGen references.Refers start other := by
    intro other hother
    rcases hcurrent with rfl | hseen
    · exact .single hother
    · exact (h.reached current hseen).2.tail hother
  constructor
  · intro module hmodule
    rcases mem_seen_foldl_meet.mp hmodule with hseen | ⟨hfound, hstart⟩
    · exact h.reached module hseen
    · exact ⟨hstart, hreached module (mem_direct.mp hfound)⟩
  · intro module hmodule
    rw [mem_seen_foldl_meet]
    rcases mem_stack_foldl_meet.mp hmodule with hrest | ⟨hfound, hstart, -⟩
    · exact (h.known module (by rw [hstack]; exact List.mem_cons_of_mem _ hrest)).imp_right .inl
    · exact .inr (.inr ⟨hfound, hstart⟩)
  · intro module hmodule hleft other hother
    rw [mem_seen_foldl_meet] at hmodule ⊢
    rw [mem_stack_foldl_meet, not_or] at hleft
    -- The module whose turn it was is explored now, and the others were before.
    by_cases hturn : module = current
    · subst hturn
      by_cases hstart : other = start
      · exact .inl hstart
      · exact .inr (.inr ⟨mem_direct.mpr hother, hstart⟩)
    · have hbefore : module ∉ search.stack := by
        rw [hstack, List.mem_cons, not_or]
        exact ⟨hturn, hleft.1⟩
      have hknown : module = start ∨ module ∈ search.seen := by
        rcases hmodule with hstart | hseen | ⟨hfound, hstart⟩
        · exact .inl hstart
        · exact .inr hseen
        · exact .inr (by_contra fun hnew => hleft.2 ⟨hfound, hstart, hnew⟩)
      exact (h.explored module hknown hbefore other hother).imp_right .inl

theorem IsSound.iterate_step (h : search.IsSound references start) (steps : Nat) :
    ((Search.step references start)^[steps] search).IsSound references start := by
  induction steps with
  | zero => exact h
  | succ steps ih =>
      rw [Function.iterate_succ_apply']
      exact ih.step

/-- A search with nothing left on its stack has seen all that can be reached. -/
theorem IsSound.mem_seen_iff (h : search.IsSound references start) (hstack : search.stack = []) :
    module ∈ search.seen ↔ module ≠ start ∧ Relation.TransGen references.Refers start module := by
  have hexplored : ∀ source, source = start ∨ source ∈ search.seen → ∀ other,
      references.Refers source other → other = start ∨ other ∈ search.seen :=
    fun source hsource => h.explored source hsource (by simp [hstack])
  constructor
  · exact h.reached module
  · rintro ⟨hstart, hreach⟩
    have hseen : module = start ∨ module ∈ search.seen := by
      induction hreach with
      | single hfirst => exact hexplored start (.inl rfl) _ hfirst
      | @tail middle last _ hlast ih =>
          by_cases hmiddle : middle = start
          · exact hexplored middle (.inl hmiddle) last hlast
          · exact hexplored middle (ih hmiddle) last hlast
    exact hseen.resolve_left hstart

/-! ## The end of a search -/

/-- The modules that others refer to and that the search has not seen. -/
def unseen (references : ModuleReferences) (start : String) (search : Search) : Finset String :=
  (references.toList.flatMap (·.2.toList)).toFinset.filter
    fun module => module ≠ start ∧ module ∉ search.seen

/-- The steps that can be left: one for each module on the stack, and one for each module that
can still be put there. -/
def stepsLeft (references : ModuleReferences) (start : String) (search : Search) : Nat :=
  search.stack.length + (search.unseen references start).card

theorem mem_unseen {module : String} :
    module ∈ search.unseen references start ↔
      (∃ source, references.Refers source module) ∧ module ≠ start ∧ module ∉ search.seen := by
  have hmentioned : module ∈ references.toList.flatMap (·.2.toList) ↔
      ∃ source, references.Refers source module := by
    rw [List.mem_flatMap]
    constructor
    · rintro ⟨⟨source, others⟩, hentry, hmodule⟩
      exact ⟨source, others, SortedMap.mem_toList_iff.mp hentry, hmodule⟩
    · rintro ⟨source, others, hothers, hmodule⟩
      exact ⟨(source, others), SortedMap.mem_toList_iff.mpr hothers, hmodule⟩
  rw [unseen, Finset.mem_filter, List.mem_toFinset, hmentioned]

/-- A module that is put on the stack can be put there no more. -/
theorem stepsLeft_meet {found : String} (h : ∃ source, references.Refers source found) :
    (search.meet start found).stepsLeft references start = search.stepsLeft references start := by
  by_cases hold : found = start ∨ found ∈ search.seen
  · rw [meet, if_pos hold]
  · have hnew : found ∈ search.unseen references start :=
      mem_unseen.mpr ⟨h, fun hstart => hold (.inl hstart), fun hseen => hold (.inr hseen)⟩
    have hrest : (search.meet start found).unseen references start =
        (search.unseen references start).erase found := by
      ext module
      rw [Finset.mem_erase, mem_unseen, mem_unseen, mem_seen_meet]
      tauto
    have hcard := Finset.card_erase_add_one hnew
    rw [stepsLeft, stepsLeft, hrest, meet, if_neg hold, List.length_cons]
    omega

theorem stepsLeft_foldl_meet {found : List String}
    (h : ∀ module ∈ found, ∃ source, references.Refers source module) :
    (found.foldl (meet start) search).stepsLeft references start =
      search.stepsLeft references start := by
  induction found generalizing search with
  | nil => rfl
  | cons first rest ih =>
      obtain ⟨hfirst, hrest⟩ := List.forall_mem_cons.mp h
      rw [List.foldl_cons, ih hrest, stepsLeft_meet hfirst]

/-- Every step brings a search nearer to its end. -/
theorem stepsLeft_step (h : search.stack ≠ []) :
    (search.step references start).stepsLeft references start + 1 =
      search.stepsLeft references start := by
  obtain ⟨current, rest, hstack⟩ := List.exists_cons_of_ne_nil h
  rw [step, hstack]
  dsimp only
  rw [stepsLeft_foldl_meet fun module hmodule => ⟨current, mem_direct.mp hmodule⟩]
  rw [stepsLeft, stepsLeft, hstack, List.length_cons]
  show rest.length + (search.unseen references start).card + 1 = _
  omega

/-- Nothing is left on the stack when the last step is done. -/
theorem stack_iterate_step (references : ModuleReferences) (start : String) (search : Search) :
    ((step references start)^[search.stepsLeft references start] search).stack = [] := by
  induction hsteps : search.stepsLeft references start generalizing search with
  | zero => exact List.eq_nil_of_length_eq_zero (Nat.eq_zero_of_add_eq_zero_right hsteps)
  | succ steps ih =>
      by_cases hstack : search.stack = []
      · have hstays : search.step references start = search := by rw [step, hstack]
        rw [Function.iterate_fixed hstays]
        exact hstack
      · rw [Function.iterate_succ_apply]
        have hstep : (search.step references start).stepsLeft references start + 1 =
            search.stepsLeft references start := stepsLeft_step hstack
        exact ih _ (by omega)

end Search

/-! ## Modules that a module leads to -/

/-- Whatever calls the references come from, a search with a stack comes to an end and has then
seen exactly the transitive references of its start: the other modules that one recorded
reference or more lead to. -/
theorem search_finds_transitive (calls : List Call) (start : String) :
    let references := ofCalls calls
    (∃ steps, let last := (Search.step references start)^[steps] (.begin start)
      last.stack = [] ∧ last.seen = references.transitive start) ∧
    ∀ module, module ∈ references.transitive start ↔
      module ≠ start ∧ Relation.TransGen (IsRecorded calls) start module := by
  intro references
  have hrecorded : references.Refers = IsRecorded calls := by
    funext module other
    exact propext refers_ofCalls
  constructor
  · have hend := Search.stack_iterate_step references start (.begin start)
    have hsound := (Search.isSound_begin references start).iterate_step
      ((Search.begin start).stepsLeft references start)
    refine ⟨(Search.begin start).stepsLeft references start, hend, ?_⟩
    ext module
    rw [hsound.mem_seen_iff hend, mem_transitive]
  · intro module
    rw [mem_transitive, hrecorded]

example : ((ofCalls [.record "Game" "Combat", .record "Combat" "Inventory", .ensure "Editor",
    .record "Inventory" "Game", .record "Game" "Game"]).transitive "Game").toList =
      ["Combat", "Inventory"] := by decide

end HeaderSynth.ModuleReferences
