import HeaderSynth.Proofs.Outcome
import HeaderSynth.Proofs.Reflection.Walks

/-!
# Cycles of outer objects

The search for cycles walks outwards from one object after the other and keeps what it learns:
an object that is marked as ending lies in no cycle, and the objects that are marked as met lead
on to where the walk stands.  So a walk that meets such an object has found a cycle, and when no
walk does, the outer objects of every object come to an end, which is its top level.
-/

namespace HeaderSynth

namespace Graph

variable {graph : Graph}

/-! ## Outer objects by position -/

/-- The object at one position has the object at the other as its outer. -/
def LiesIn (graph : Graph) (inner outer : Nat) : Prop :=
  graph.outerIndex? inner = some outer

/-- The outers of the object at a position, and theirs, come to an end. -/
def ComesToEnd (graph : Graph) : Nat → Prop :=
  Acc fun outer inner => graph.LiesIn inner outer

/-- An object is nested in another one, however deep. -/
def LiesDeepIn (graph : Graph) : ObjectId → ObjectId → Prop :=
  Relation.TransGen fun inner outer => graph.outer? inner = some outer

theorem comesToEnd_iff {index : Nat} :
    graph.ComesToEnd index ↔
      ∀ outer, graph.outerIndex? index = some outer → graph.ComesToEnd outer := by
  constructor
  · intro h outer houter
    exact h.inv houter
  · intro h
    exact Acc.intro index h

/-- No position whose outers come to an end is on a cycle. -/
theorem ComesToEnd.not_cycle {index : Nat} (h : graph.ComesToEnd index) :
    ¬Relation.TransGen graph.LiesIn index index := by
  induction h with
  | intro index _ ih =>
      intro hcycle
      obtain ⟨outer, hfirst, hback⟩ := Relation.TransGen.head'_iff.mp hcycle
      -- The cycle passes through the outer as well, and begins there just as it does here.
      exact ih outer hfirst (Relation.TransGen.tail' hback hfirst)

theorem outerIndex?_index (graph : Graph) (id : ObjectId) :
    graph.outerIndex? id.index = (graph.outer? id).map ObjectId.index :=
  rfl

theorem liesIn_index_iff {inner : ObjectId} {outer : Nat} :
    graph.LiesIn inner.index outer ↔ ∃ id, graph.outer? inner = some id ∧ id.index = outer := by
  rw [LiesIn, outerIndex?_index, Option.map_eq_some_iff]

/-- Only objects that have an id are outers. -/
theorem LiesIn.exists_id {inner outer : Nat} (h : graph.LiesIn inner outer) :
    ∃ id : ObjectId, id.index = outer := by
  obtain ⟨id, -, hindex⟩ := Option.map_eq_some_iff.mp h
  exact ⟨id, hindex⟩

theorem transGen_liesIn_index_iff {inner : ObjectId} {outer : Nat} :
    Relation.TransGen graph.LiesIn inner.index outer ↔
      ∃ id, graph.LiesDeepIn inner id ∧ id.index = outer := by
  constructor
  · intro h
    induction h with
    | single hstep =>
        obtain ⟨id, houter, hindex⟩ := liesIn_index_iff.mp hstep
        exact ⟨id, .single houter, hindex⟩
    | tail _ hstep ih =>
        obtain ⟨between, hbetween, rfl⟩ := ih
        obtain ⟨id, houter, hindex⟩ := liesIn_index_iff.mp hstep
        exact ⟨id, hbetween.tail houter, hindex⟩
  · rintro ⟨id, hnested, rfl⟩
    exact Relation.TransGen.lift ObjectId.index
      (fun _ id houter => liesIn_index_iff.mpr ⟨id, houter, rfl⟩) _ _ hnested

/-- A cycle by positions is one of ids. -/
theorem exists_cycle_iff :
    (∃ index, Relation.TransGen graph.LiesIn index index) ↔ ∃ id, graph.LiesDeepIn id id := by
  constructor
  · rintro ⟨index, hcycle⟩
    obtain ⟨last, -, hlast⟩ := Relation.TransGen.tail'_iff.mp hcycle
    obtain ⟨id, rfl⟩ := hlast.exists_id
    obtain ⟨same, hnested, hindex⟩ := transGen_liesIn_index_iff.mp hcycle
    rw [ObjectId.index_injective hindex] at hnested
    exact ⟨id, hnested⟩
  · rintro ⟨id, hnested⟩
    exact ⟨id.index, transGen_liesIn_index_iff.mpr ⟨id, hnested, rfl⟩⟩

/-! ## One walk -/

/-- What the marks say is true while a walk has met the positions on `path`. -/
structure AreTrue (graph : Graph) (marks : graph.MarkTable) (path : List (Fin graph.size)) :
    Prop where
  ending : ∀ index : Fin graph.size, marks.get index = .ending → graph.ComesToEnd index
  onPath : ∀ index : Fin graph.size, marks.get index = .onPath → index ∈ path

/-- The positions on `path` lead on to `current`, so they come to an end if it does. -/
structure LeadsTo (graph : Graph) (path : List (Fin graph.size)) (current : Option Nat) :
    Prop where
  reaches : ∀ index, current = some index → ∀ met ∈ path,
    Relation.TransGen graph.LiesIn met index
  comesToEnd : (∀ index, current = some index → graph.ComesToEnd index) →
    ∀ met ∈ path, graph.ComesToEnd met

/-- A fault that is there. -/
def Suffers (graph : Graph) : WalkFault → Prop
  | .cycle _ target => Relation.TransGen graph.LiesIn target target
  | .outOfRange index => graph.size ≤ index ∧ ∃ inner, graph.LiesIn inner index

theorem leadsTo_nil (current : Option Nat) : graph.LeadsTo [] current where
  reaches _ _ _ hmet := absurd hmet List.not_mem_nil
  comesToEnd _ _ hmet := absurd hmet List.not_mem_nil

theorem LeadsTo.cons {path : List (Fin graph.size)} {index : Fin graph.size}
    (h : graph.LeadsTo path (some index.val)) :
    graph.LeadsTo (index :: path) (graph.outerIndex? index) where
  reaches outer houter := by
    have hlast : Relation.TransGen graph.LiesIn index outer := .single houter
    refine List.forall_mem_cons.mpr ⟨hlast, fun met hmet => ?_⟩
    exact (h.reaches index rfl met hmet).trans hlast
  comesToEnd hend := by
    have hindex : graph.ComesToEnd index := comesToEnd_iff.mpr hend
    refine List.forall_mem_cons.mpr ⟨hindex, h.comesToEnd ?_⟩
    rintro _ ⟨⟩
    exact hindex

theorem get_set_mark (marks : graph.MarkTable) (index other : Fin graph.size) (mark : Mark) :
    (marks.set index mark index.isLt).get other =
      if index = other then mark else marks.get other := by
  have hset : (marks.set index mark index.isLt).get other =
      if index.val = other.val then mark else marks.get other :=
    Vector.getElem_set index.isLt other.isLt
  simpa only [Fin.val_inj] using hset

theorem AreTrue.set_onPath {marks : graph.MarkTable} {path : List (Fin graph.size)}
    (h : graph.AreTrue marks path) (index : Fin graph.size) :
    graph.AreTrue (marks.set index .onPath index.isLt) (index :: path) where
  ending other hother := by
    rw [get_set_mark] at hother
    split at hother
    · cases hother
    · exact h.ending other hother
  onPath other hother := by
    rw [get_set_mark] at hother
    split at hother
    · rename_i hsame
      exact hsame ▸ List.mem_cons_self
    · exact List.mem_cons_of_mem index (h.onPath other hother)

/-- A walk leaves true marks and positions that come to an end, or fails over a fault that is
there. -/
theorem meets_walkOutwards {start : Nat} {marks : graph.MarkTable} {path : List (Fin graph.size)}
    {current : Option Nat} (hmarks : graph.AreTrue marks path) (hpath : graph.LeadsTo path current)
    (hcurrent : ∀ index, current = some index →
      index < graph.size ∨ ∃ inner, graph.LiesIn inner index) :
    Outcome.Meets graph.Suffers
      (fun later => graph.AreTrue later.1 later.2 ∧
        (∀ met : Fin graph.size, met ∈ later.2 → graph.ComesToEnd met) ∧
        ∀ index, current = some index → graph.ComesToEnd index)
      (graph.walkOutwards start marks path current) := by
  fun_induction walkOutwards graph start marks path current with
  | case1 marks path =>
      have hnone : ∀ index, none = some index → graph.ComesToEnd index := by simp
      exact ⟨hmarks, hpath.comesToEnd hnone, hnone⟩
  | case2 marks path index hindex hmark =>
      have hend : ∀ other, some index = some other → graph.ComesToEnd other := by
        rintro _ ⟨⟩
        exact hmarks.ending ⟨index, hindex⟩ hmark
      exact ⟨hmarks, hpath.comesToEnd hend, hend⟩
  | case3 marks path index hindex hmark =>
      exact hpath.reaches index rfl ⟨index, hindex⟩ (hmarks.onPath ⟨index, hindex⟩ hmark)
  | case4 marks path index hindex hmark ih =>
      have hextended : graph.LeadsTo (⟨index, hindex⟩ :: path) (graph.outerIndex? index) :=
        hpath.cons
      have hlater := ih (hmarks.set_onPath ⟨index, hindex⟩) hextended
        fun outer houter => .inr ⟨index, houter⟩
      refine hlater.imp (fun _ hfault => hfault) fun later hend => ⟨hend.1, hend.2.1, ?_⟩
      rintro _ ⟨⟩
      exact comesToEnd_iff.mpr hend.2.2
  | case5 marks path index hindex =>
      exact ⟨Nat.le_of_not_lt hindex, (hcurrent index rfl).resolve_left hindex⟩

/-! ## The search -/

theorem get_settle (path : List (Fin graph.size)) (marks : graph.MarkTable)
    (index : Fin graph.size) :
    (index ∈ path → (graph.settle path marks).get index = .ending) ∧
      (index ∉ path → (graph.settle path marks).get index = marks.get index) := by
  induction path generalizing marks with
  | nil => exact ⟨fun hmem => absurd hmem List.not_mem_nil, fun _ => rfl⟩
  | cons met rest ih =>
      obtain ⟨hmet, hother⟩ := ih (marks.set met .ending met.isLt)
      rw [get_set_mark] at hother
      rw [settle, List.foldl_cons, ← settle]
      constructor
      · intro hmem
        by_cases hrest : index ∈ rest
        · exact hmet hrest
        · obtain rfl := (List.mem_cons.mp hmem).resolve_right hrest
          exact (hother hrest).trans (if_pos rfl)
      · intro hmem
        obtain ⟨hne, hrest⟩ := not_or.mp (mt List.mem_cons.mpr hmem)
        exact (hother hrest).trans (if_neg (Ne.symm hne))

theorem AreTrue.settle {marks : graph.MarkTable} {path : List (Fin graph.size)}
    (h : graph.AreTrue marks path) (hpath : ∀ index ∈ path, graph.ComesToEnd index) :
    graph.AreTrue (graph.settle path marks) [] where
  ending index hindex := by
    by_cases hmet : index ∈ path
    · exact hpath index hmet
    · exact h.ending index (((get_settle path marks index).2 hmet).symm.trans hindex)
  onPath index hindex := by
    by_cases hmet : index ∈ path
    · have hmark : Mark.ending = .onPath :=
        ((get_settle path marks index).1 hmet).symm.trans hindex
      cases hmark
    · exact absurd (h.onPath index (((get_settle path marks index).2 hmet).symm.trans hindex)) hmet

theorem areTrue_unvisited (graph : Graph) :
    graph.AreTrue (Vector.replicate graph.size .unvisited) [] where
  ending index hindex := by
    have hmark : Mark.unvisited = .ending := (Vector.getElem_replicate index.isLt).symm.trans hindex
    cases hmark
  onPath index hindex := by
    have hmark : Mark.unvisited = .onPath := (Vector.getElem_replicate index.isLt).symm.trans hindex
    cases hmark

/-- The search proves that the objects come to an end, or fails over a fault that is there. -/
theorem meets_searchOuters {starts : List (Fin graph.size)} {marks : graph.MarkTable}
    (hmarks : graph.AreTrue marks []) :
    Outcome.Meets graph.Suffers (fun _ => ∀ start ∈ starts, graph.ComesToEnd start)
      (graph.searchOuters starts marks) := by
  induction starts generalizing marks with
  | nil => exact fun _ hstart => absurd hstart List.not_mem_nil
  | cons start rest ih =>
      have hstart : ∀ index, some start.val = some index →
          index < graph.size ∨ ∃ inner, graph.LiesIn inner index := by
        rintro _ ⟨⟩
        exact .inl start.isLt
      refine (meets_walkOutwards hmarks (leadsTo_nil _) hstart).bind fun later _ hwalk => ?_
      obtain ⟨hlater, hmet, hend⟩ := hwalk
      refine (ih (hlater.settle hmet)).imp (fun _ hfault => hfault) fun _ hrest => ?_
      exact List.forall_mem_cons.mpr ⟨hend start rfl, hrest⟩

theorem meets_checkOuters (graph : Graph) :
    Outcome.Meets graph.Suffers (fun _ => ∀ index < graph.size, graph.ComesToEnd index)
      graph.checkOuters := by
  refine (meets_searchOuters (areTrue_unvisited graph)).imp (fun _ hfault => hfault) ?_
  intro _ hend index hindex
  exact hend ⟨index, hindex⟩ (List.mem_finRange _)

/-! ## Graphs that keep their outers -/

/-- Every outer is an object of the graph. -/
def KeepsOuters (graph : Graph) : Prop :=
  ∀ object ∈ graph.objects, ∀ outer, object.outer = some outer → outer.index < graph.size

theorem KeepsOuters.lt_size (h : graph.KeepsOuters) {inner outer : Nat}
    (hlies : graph.LiesIn inner outer) : outer < graph.size := by
  obtain ⟨id, houter, rfl⟩ := Option.map_eq_some_iff.mp hlies
  obtain ⟨object, hobject, hid⟩ := Option.bind_eq_some_iff.mp houter
  exact h object (Array.mem_of_getElem? hobject) id hid

theorem KeepsOuters.checkOuters_ne_outOfRange (h : graph.KeepsOuters) (index : Nat) :
    graph.checkOuters ≠ .error (.outOfRange index) := by
  intro hcheck
  have hfault := meets_checkOuters graph
  rw [hcheck] at hfault
  obtain ⟨hsize, inner, hlies⟩ := hfault
  exact absurd (h.lt_size hlies) (Nat.not_lt_of_le hsize)

/-- Only objects have outers, so one that is nested in itself has a position in the graph. -/
theorem lt_size_of_transGen {inner outer : Nat}
    (h : Relation.TransGen graph.LiesIn inner outer) : inner < graph.size := by
  obtain ⟨next, hfirst, -⟩ := Relation.TransGen.head'_iff.mp h
  obtain ⟨id, houter, -⟩ := Option.map_eq_some_iff.mp hfirst
  obtain ⟨object, hobject, -⟩ := Option.bind_eq_some_iff.mp houter
  exact (Array.getElem?_eq_some_iff.mp hobject).1

theorem KeepsOuters.checkOuters_eq_ok_iff (h : graph.KeepsOuters) :
    graph.checkOuters = .ok () ↔ ∀ id, ¬graph.LiesDeepIn id id := by
  have hmeets := meets_checkOuters graph
  have hcycle : (∃ index, Relation.TransGen graph.LiesIn index index) ↔
      ∃ id, graph.LiesDeepIn id id := exists_cycle_iff
  cases hcheck : graph.checkOuters with
  | ok result =>
      rw [hcheck] at hmeets
      refine iff_of_true rfl (not_exists.mp fun hnested => ?_)
      obtain ⟨index, hloop⟩ := hcycle.mpr hnested
      exact (hmeets index (lt_size_of_transGen hloop)).not_cycle hloop
  | error fault =>
      rw [hcheck] at hmeets
      refine iff_of_false (by simp) (not_forall_not.mpr (hcycle.mp ?_))
      cases fault with
      | cycle start target => exact ⟨target, hmeets⟩
      | outOfRange index => exact absurd hcheck (h.checkOuters_ne_outOfRange index)

theorem IsTied.keepsOuters (h : graph.IsTied) : graph.KeepsOuters := by
  intro object hobject outer houter
  exact isSome_object?_iff.mp (h object hobject outer (.inl houter))

theorem keepsOuters_of_fault?_eq_none (h : graph.fault? = none) : graph.KeepsOuters :=
  (danglingLink?_eq_none_iff.mp (Option.or_eq_none_iff.mp h).1).keepsOuters

theorem checkOuters_of_fault?_eq_none (h : graph.fault? = none) : graph.checkOuters = .ok () := by
  have hcycle := (Option.or_eq_none_iff.mp h).2
  rw [outerCycle?] at hcycle
  split at hcycle
  · cases hcycle
  · rename_i hnocycle
    cases hcheck : graph.checkOuters with
    | ok => rfl
    | error fault =>
        cases fault with
        | cycle start target => exact absurd hcheck (hnocycle start target)
        | outOfRange index =>
            have hkeeps := keepsOuters_of_fault?_eq_none h
            exact absurd hcheck (hkeeps.checkOuters_ne_outOfRange index)

/-! ## Top levels -/

theorem leadsOn_outer? (graph : Graph) : graph.LeadsOn graph.outer? := by
  intro id successor hsuccessor
  obtain ⟨object, hobject, -⟩ := Option.bind_eq_some_iff.mp hsuccessor
  rw [hobject]
  rfl

theorem KeepsOuters.isSome_object? (h : graph.KeepsOuters) {id other : ObjectId}
    (hid : (graph.object? id).isSome) (hreaches : Reaches graph.outer? id other) :
    (graph.object? other).isSome := by
  induction hreaches with
  | refl => exact hid
  | tail _ hstep _ =>
      exact isSome_object?_iff.mpr (h.lt_size (liesIn_index_iff.mpr ⟨_, hstep, rfl⟩))

/-- Outers that come to an end do so at an object without an outer. -/
theorem ComesToEnd.exists_outermost {index : Nat} (h : graph.ComesToEnd index) {id : ObjectId}
    (hid : id.index = index) : ∃ top, Reaches graph.outer? id top ∧ graph.outer? top = none := by
  induction h generalizing id with
  | intro index _ ih =>
      cases houter : graph.outer? id with
      | none => exact ⟨id, .refl, houter⟩
      | some outer =>
          subst hid
          obtain ⟨top, hreaches, hnone⟩ :=
            ih outer.index (liesIn_index_iff.mpr ⟨outer, houter, rfl⟩) rfl
          exact ⟨top, .head houter hreaches, hnone⟩

/-- Where outers come to an end, the top level is the one object without an outer around `id`. -/
theorem ComesToEnd.topLevel_eq_iff {id : ObjectId} (h : graph.ComesToEnd id.index)
    (top : ObjectId) :
    graph.topLevel id = top ↔ Reaches graph.outer? id top ∧ graph.outer? top = none := by
  constructor
  · rintro rfl
    obtain ⟨last, hreaches, hnone⟩ := h.exists_outermost rfl
    have hlast : graph.topLevel id = last :=
      (chainEnd_eq_iff graph.leadsOn_outer? hnone).mpr hreaches
    rw [hlast]
    exact ⟨hreaches, hnone⟩
  · rintro ⟨hreaches, hnone⟩
    exact (chainEnd_eq_iff graph.leadsOn_outer? hnone).mpr hreaches

/-- If every outer is an object of the graph, the search stays in the graph, and it succeeds
exactly if no object is nested in itself.  In a valid graph the top level of an object is the one
object without an outer that the object lies in, or is. -/
theorem outers_lead_to_topLevel (graph : Graph) :
    (graph.KeepsOuters →
      (∀ index, graph.checkOuters ≠ .error (.outOfRange index)) ∧
        (graph.checkOuters = .ok () ↔ ∀ id, ¬graph.LiesDeepIn id id)) ∧
      (graph.fault? = none → ∀ id, (graph.object? id).isSome →
        (graph.object? (graph.topLevel id)).isSome ∧
          (∀ top, graph.topLevel id = top ↔
            Reaches graph.outer? id top ∧ graph.outer? top = none) ∧
          graph.topLevel (graph.topLevel id) = graph.topLevel id) := by
  constructor
  · intro hkeeps
    exact ⟨hkeeps.checkOuters_ne_outOfRange, hkeeps.checkOuters_eq_ok_iff⟩
  · intro hvalid id hid
    have hmeets := meets_checkOuters graph
    rw [checkOuters_of_fault?_eq_none hvalid] at hmeets
    have htop := (hmeets id.index (isSome_object?_iff.mp hid)).topLevel_eq_iff
    obtain ⟨hreaches, hnone⟩ := (htop (graph.topLevel id)).mp rfl
    refine ⟨?_, htop, ?_⟩
    · exact (keepsOuters_of_fault?_eq_none hvalid).isSome_object? hid hreaches
    · exact (chainEnd_eq_iff graph.leadsOn_outer? hnone).mpr .refl

end Graph

/-- Two delegates in one class, and one of a package. -/
def nestedDelegates : Graph where
  objects := #[
    { name := "OnOpen__DelegateSignature", package := "/Script/Game", outer := some ⟨1⟩,
      kind := .function { flags := FunctionFlags.delegate } },
    { name := "Door", package := "/Script/Game", kind := .classType { flags := .none } },
    { name := "OnShut__DelegateSignature", package := "/Script/Game", outer := some ⟨1⟩,
      kind := .function { flags := FunctionFlags.delegate } },
    { name := "OnLoad__DelegateSignature", package := "/Script/Game",
      kind := .function { flags := FunctionFlags.delegate } }]

theorem outers_lead_to_topLevel_nestedDelegates :
    nestedDelegates.KeepsOuters ∧ nestedDelegates.fault? = none ∧
      (nestedDelegates.object? ⟨2⟩).isSome ∧
      (nestedDelegates.checkOuters = .ok () ↔ ∀ id, ¬nestedDelegates.LiesDeepIn id id) ∧
      nestedDelegates.topLevel ⟨2⟩ = ⟨1⟩ ∧
      Graph.Reaches nestedDelegates.outer? ⟨2⟩ ⟨1⟩ ∧
      nestedDelegates.topLevel (nestedDelegates.topLevel ⟨2⟩) = nestedDelegates.topLevel ⟨2⟩ := by
  have hvalid : nestedDelegates.fault? = none := by decide +kernel
  have hkeeps := Graph.keepsOuters_of_fault?_eq_none hvalid
  have hobject : (nestedDelegates.object? ⟨2⟩).isSome := by decide
  have htop : nestedDelegates.topLevel ⟨2⟩ = ⟨1⟩ := by decide
  obtain ⟨hsearch, hlevels⟩ := Graph.outers_lead_to_topLevel nestedDelegates
  obtain ⟨-, hunique, hagain⟩ := hlevels hvalid ⟨2⟩ hobject
  exact ⟨hkeeps, hvalid, hobject, (hsearch hkeeps).2, htop, ((hunique ⟨1⟩).mp htop).1, hagain⟩

/-- A walk can run into a cycle that it does not begin on. -/
example : (nestedDelegates.setOuter? ⟨1⟩ (some ⟨2⟩)).map Graph.fault? =
    some (some (.outerCycle "OnOpen__DelegateSignature" "Door")) := by
  decide +kernel

end HeaderSynth
