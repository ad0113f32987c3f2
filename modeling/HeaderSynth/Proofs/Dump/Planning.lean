import HeaderSynth.Dump.Plan
import HeaderSynth.Proofs.Naming.Uniqueness
import HeaderSynth.Proofs.Outcome

/-!
# Planned names

Every planned object has a header of its own: no two base names are equal, and a
reference to the object leads to a name that was granted to it.  The registry keeps
these facts from claim to claim, so they hold of a whole plan.
-/

namespace HeaderSynth

/-! ## Owners of headers -/

namespace Graph

theorem chainEnd_of_none {graph : Graph} {next : ObjectId → Option ObjectId} {id : ObjectId}
    (h : next id = none) : graph.chainEnd next id = id := by
  have hchain : graph.chain next id = [id] := by
    rw [chain, chainFrom, h]
    rfl
  rw [chainEnd, hchain]
  rfl

theorem delegateOuter?_of_category? {graph : Graph} {id : ObjectId} {category : Category}
    (h : (graph.object? id).bind (·.category?) = some category) :
    graph.delegateOuter? id = none := by
  obtain ⟨object, hobject, hcategory⟩ := Option.bind_eq_some_iff.mp h
  rw [delegateOuter?, hobject]
  show (if object.isDelegateSignature then object.outer else none) = none
  split
  · rename_i hsignature
    cases hkind : object.kind with
    | function info =>
        simp only [Object.category?, hkind, Option.ite_none_right_eq_some, Bool.and_eq_true]
          at hcategory
        exact Option.isNone_iff_eq_none.mp hcategory.1.1
    | _ => simp [Object.isDelegateSignature, hkind] at hsignature
  · rfl

/-- What an object must be to get files. -/
theorem mem_processingOrder {graph : Graph} {config : Config} {id : ObjectId} :
    id ∈ graph.processingOrder config ↔
      id ∈ graph.ids ∧ (graph.moduleFor? config id).isSome ∧
        ((graph.object? id).bind (·.category?)).isSome := by
  simp only [processingOrder, eligible, List.mem_flatMap, List.mem_filter, Bool.and_eq_true,
    decide_eq_true_eq]
  constructor
  · rintro ⟨category, -, hid, hmodule, hcategory⟩
    exact ⟨hid, hmodule, by rw [hcategory]; rfl⟩
  · rintro ⟨hid, hmodule, hcategory⟩
    obtain ⟨category, hcategory⟩ := Option.isSome_iff_exists.mp hcategory
    exact ⟨category, by cases category <;> decide, hid, hmodule, hcategory⟩

/-- A delegate signature that gets files has no object around it. -/
theorem headerOwner_of_mem_processingOrder {graph : Graph} {config : Config} {id : ObjectId}
    (h : id ∈ graph.processingOrder config) : graph.headerOwner id = id := by
  obtain ⟨category, hcategory⟩ := Option.isSome_iff_exists.mp (mem_processingOrder.mp h).2.2
  exact chainEnd_of_none (delegateOuter?_of_category? hcategory)

theorem moduleFor?_eq_some {graph : Graph} {config : Config} {id : ObjectId} {module : String}
    (h : graph.moduleFor? config id = some module) :
    module = graph.moduleName id ∧ module ≠ "" := by
  simp only [moduleFor?] at h
  split at h
  · cases h
  · rename_i hmodule
    cases h
    refine ⟨rfl, fun hempty => hmodule ?_⟩
    simp [hempty]

/-- The two ways in which planning goes on after the first object. -/
theorem planObjects_cons_eq_ok {graph : Graph} {config : Config} {names final : NameRegistry}
    {id : ObjectId} {rest : List ObjectId} {planned : List PlannedObject}
    (h : graph.planObjects config names (id :: rest) = .ok (final, planned)) :
    (graph.moduleFor? config id = none ∧
      graph.planObjects config names rest = .ok (final, planned)) ∨
    ∃ module base others,
      graph.moduleFor? config id = some module ∧
      graph.headerName (graph.headerOwner id) = .ok base ∧
      graph.planObjects config (names.claim base (graph.headerOwner id)).1 rest =
        .ok (final, others) ∧
      planned = ⟨id, module, (names.claim base (graph.headerOwner id)).2⟩ :: others := by
  rw [planObjects] at h
  cases hmodule : graph.moduleFor? config id with
  | none =>
      rw [hmodule] at h
      exact .inl ⟨rfl, h⟩
  | some module =>
      rw [hmodule] at h
      right
      simp only [Outcome.bind_eq_ok, Outcome.pure_eq_ok, Prod.mk.injEq] at h
      obtain ⟨base, hbase, ⟨registry, others⟩, hothers, rfl, rfl⟩ := h
      exact ⟨module, base, others, rfl, hbase, hothers, rfl⟩

end Graph

/-! ## The registry of a plan -/

/-- An object that gets no files. -/
def IsUnplanned (planned : List PlannedObject) (id : ObjectId) : Prop :=
  ∀ object ∈ planned, object.id ≠ id

/-- What a registry knows when exactly the names of `planned` have been claimed. -/
structure NameRegistry.Records (names : NameRegistry) (graph : Graph)
    (planned : List PlannedObject) : Prop where
  mem_granted : ∀ name, name ∈ names.granted ↔ name ∈ planned.map (·.baseName)
  nodup : (planned.map (·.baseName)).Nodup
  /-- A planned object goes by a name that was planned for it. -/
  existing : ∀ object ∈ planned, ∀ base, graph.headerName object.id = .ok base →
    ∃ same ∈ planned, same.id = object.id ∧ names.existing base object.id = same.baseName
  unassigned : ∀ id, IsUnplanned planned id → names.assigned.get? id = none

namespace NameRegistry

theorem records_empty (graph : Graph) : empty.Records graph [] where
  mem_granted _ := by simp [empty]
  nodup := List.nodup_nil
  existing := by simp
  unassigned _ _ := rfl

/-- An object that gets no files goes by the name it has in the graph. -/
theorem Records.existing_of_isUnplanned {names : NameRegistry} {graph : Graph}
    {planned : List PlannedObject} (h : names.Records graph planned) {id : ObjectId}
    (hid : IsUnplanned planned id) (base : String) : names.existing base id = base := by
  rw [NameRegistry.existing, h.unassigned id hid]
  rfl

/-- One claim keeps the registry in step with the plan. -/
theorem Records.claim {names : NameRegistry} {graph : Graph} {planned : List PlannedObject}
    (h : names.Records graph planned) {id : ObjectId} {base : String} (module : String)
    (hbase : graph.headerName id = .ok base) :
    (names.claim base id).1.Records graph
      (planned ++ [⟨id, module, (names.claim base id).2⟩]) := by
  have hname : (names.claim base id).2 ∉ planned.map (·.baseName) := by
    intro hmem
    exact names.claim_not_mem base id ((h.mem_granted _).mpr hmem)
  have hlast : (⟨id, module, (names.claim base id).2⟩ : PlannedObject) ∈
      planned ++ [⟨id, module, (names.claim base id).2⟩] :=
    List.mem_append_right _ (List.mem_singleton_self _)
  constructor
  · intro name
    rw [names.mem_granted_claim base id name, h.mem_granted]
    simp [or_comm]
  · rw [List.map_append, List.nodup_append]
    refine ⟨h.nodup, List.nodup_singleton _, ?_⟩
    intro name hmem other hother hsame
    rw [List.map_singleton, List.mem_singleton] at hother
    rw [hsame, hother] at hmem
    exact hname hmem
  · intro object hobject base' hbase'
    by_cases hid : object.id = id
    · rw [hid] at hbase' ⊢
      obtain rfl : base = base' := Except.ok.inj (hbase.symm.trans hbase')
      rcases names.existing_claim base id with hgranted | ⟨hassigned, hkept⟩
      · exact ⟨_, hlast, rfl, hgranted⟩
      -- The id has a number, so it stands in the plan already.
      · have hplanned : ¬IsUnplanned planned id := fun hid => hassigned (h.unassigned id hid)
        simp only [IsUnplanned, not_forall, not_not] at hplanned
        obtain ⟨earlier, hearlier, rfl⟩ := hplanned
        obtain ⟨same, hsame, hsameId, hexisting⟩ := h.existing earlier hearlier base hbase
        exact ⟨same, List.mem_append_left _ hsame, hsameId, hkept.trans hexisting⟩
    · have hmem : object ∈ planned := by
        rcases List.mem_append.mp hobject with hmem | hmem
        · exact hmem
        · rw [List.mem_singleton] at hmem
          exact absurd (congrArg PlannedObject.id hmem) hid
      obtain ⟨same, hsame, hsameId, hexisting⟩ := h.existing object hmem base' hbase'
      refine ⟨same, List.mem_append_left _ hsame, hsameId, ?_⟩
      rwa [NameRegistry.existing, names.assigned_claim_of_ne base id hid]
  · intro other hother
    have hne : other ≠ id := fun hid => hother _ hlast hid.symm
    rw [names.assigned_claim_of_ne base id hne]
    exact h.unassigned other fun object hobject => hother object (List.mem_append_left _ hobject)

end NameRegistry

namespace Graph

/-- Planning keeps the registry in step with the plan. -/
theorem records_planObjects {graph : Graph} {config : Config} {ids : List ObjectId}
    {names final : NameRegistry} {earlier planned : List PlannedObject}
    (hids : ∀ id ∈ ids, graph.headerOwner id = id) (hnames : names.Records graph earlier)
    (h : graph.planObjects config names ids = .ok (final, planned)) :
    final.Records graph (earlier ++ planned) := by
  induction ids generalizing names earlier planned with
  | nil =>
      cases h
      rwa [List.append_nil]
  | cons id rest ih =>
      have hrest : ∀ other ∈ rest, graph.headerOwner other = other :=
        fun other hother => hids other (List.mem_cons_of_mem id hother)
      rcases planObjects_cons_eq_ok h with ⟨-, hothers⟩ | ⟨module, base, others, -, hbase, hothers, rfl⟩
      · exact ih hrest hnames hothers
      · rw [hids id List.mem_cons_self] at hbase hothers ⊢
        have hstep := ih hrest (hnames.claim module hbase) hothers
        rwa [List.append_assoc] at hstep

theorem records_plan {graph : Graph} {config : Config} {names : NameRegistry}
    {planned : List PlannedObject} (h : graph.plan config = .ok (names, planned)) :
    names.Records graph planned :=
  records_planObjects (fun _ hid => headerOwner_of_mem_processingOrder hid)
    (NameRegistry.records_empty graph) h

/-- Every planned object is one of those to plan, and lies in its own module. -/
theorem mem_planObjects {graph : Graph} {config : Config} {ids : List ObjectId}
    {names final : NameRegistry} {planned : List PlannedObject}
    (h : graph.planObjects config names ids = .ok (final, planned)) :
    ∀ object ∈ planned, object.id ∈ ids ∧
      graph.moduleFor? config object.id = some object.module := by
  induction ids generalizing names planned with
  | nil =>
      cases h
      simp
  | cons id rest ih =>
      rcases planObjects_cons_eq_ok h with
        ⟨-, hothers⟩ | ⟨module, base, others, hmodule, -, hothers, rfl⟩
      · intro object hobject
        have hstep := ih hothers object hobject
        exact ⟨List.mem_cons_of_mem id hstep.1, hstep.2⟩
      · intro object hobject
        rcases List.mem_cons.mp hobject with rfl | hobject
        · exact ⟨List.mem_cons_self, hmodule⟩
        · have hstep := ih hothers object hobject
          exact ⟨List.mem_cons_of_mem id hstep.1, hstep.2⟩

end Graph

end HeaderSynth
