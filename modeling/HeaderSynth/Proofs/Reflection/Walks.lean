import HeaderSynth.Proofs.Reflection.References
import Mathlib.Data.List.Nodup
import Mathlib.Data.List.Perm.Subperm
import Mathlib.Logic.Relation

/-!
# Walks

A walk follows a successor until there is none or an id comes up again.  Only objects have
successors, and there are no more ids to meet than objects, so the bound on the steps never
cuts a walk short: it meets exactly the ids that can be reached.
-/

namespace HeaderSynth

/-- A walk stays among the ids that its steps do not leave. -/
theorem chainFrom_induction {P : ObjectId → Prop} {next : ObjectId → Option ObjectId}
    (hnext : ∀ id successor, P id → next id = some successor → P successor) (fuel : Nat)
    (seen : List ObjectId) {start : ObjectId} (hstart : P start) :
    ∀ id ∈ chainFrom next fuel seen start, P id := by
  induction fuel generalizing seen start with
  | zero =>
      intro id hid
      cases hid
  | succ fuel ih =>
      intro id hid
      rw [chainFrom] at hid
      split at hid
      · cases hid
      split at hid
      · rw [List.mem_singleton.mp hid]
        exact hstart
      · rename_i successor hsuccessor
        rcases List.mem_cons.mp hid with rfl | hid
        · exact hstart
        · exact ih (start :: seen) (hnext start successor hstart hsuccessor) id hid

theorem mem_chainFrom_start (next : ObjectId → Option ObjectId) {fuel : Nat} (hfuel : 0 < fuel)
    (seen : List ObjectId) (start : ObjectId) :
    start ∈ seen ∨ start ∈ chainFrom next fuel seen start := by
  obtain ⟨fuel, rfl⟩ := Nat.exists_eq_add_one.mpr hfuel
  by_cases hseen : start ∈ seen
  · exact .inl hseen
  · right
    rw [chainFrom, if_neg (by simpa using hseen)]
    cases next start with
    | none => exact List.mem_singleton_self start
    | some successor => exact List.mem_cons_self

/-- An id without a successor can only be the last one of a walk. -/
theorem getLast?_chainFrom {next : ObjectId → Option ObjectId} {fuel : Nat}
    {seen : List ObjectId} {start id : ObjectId} (hid : id ∈ chainFrom next fuel seen start)
    (hnone : next id = none) : (chainFrom next fuel seen start).getLast? = some id := by
  induction fuel generalizing seen start with
  | zero => cases hid
  | succ fuel ih =>
      rw [chainFrom] at hid ⊢
      split at hid
      · cases hid
      rename_i hseen
      rw [if_neg hseen]
      split at hid
      · rw [List.mem_singleton.mp hid]
        rfl
      · rename_i successor hsuccessor
        rcases List.mem_cons.mp hid with rfl | hid
        · rw [hnone] at hsuccessor
          cases hsuccessor
        · rw [List.getLast?_cons, ih hid]
          rfl

/-- A walk to an id without a successor stays the same with more steps and fewer ids to avoid. -/
theorem chainFrom_eq_of_subset {next : ObjectId → Option ObjectId} {fuel more : Nat}
    {seen fewer : List ObjectId} {start last : ObjectId}
    (hlast : last ∈ chainFrom next fuel seen start) (hnone : next last = none)
    (hfuel : fuel ≤ more) (hseen : fewer ⊆ seen) :
    chainFrom next more fewer start = chainFrom next fuel seen start := by
  induction fuel generalizing more seen fewer start with
  | zero => cases hlast
  | succ fuel ih =>
      obtain ⟨more, rfl⟩ := Nat.exists_eq_add_of_le' hfuel
      rw [chainFrom] at hlast
      split at hlast
      · cases hlast
      rename_i hstart
      have hfewer : ¬fewer.contains start = true := by
        rw [List.contains_iff_mem] at hstart ⊢
        exact fun hmem => hstart (hseen hmem)
      rw [← Nat.add_assoc, chainFrom, chainFrom, if_neg hstart, if_neg hfewer]
      split at hlast
      · rfl
      · rename_i successor hsuccessor
        rcases List.mem_cons.mp hlast with rfl | hlast
        · rw [hnone] at hsuccessor
          cases hsuccessor
        · exact congrArg (start :: ·)
            (ih hlast (Nat.le_add_left ..) (List.cons_subset_cons start hseen))

namespace Graph

variable {graph : Graph} {next : ObjectId → Option ObjectId}

/-- Only objects have successors. -/
def LeadsOn (graph : Graph) (next : ObjectId → Option ObjectId) : Prop :=
  ∀ id successor, next id = some successor → (graph.object? id).isSome

/-- An id is met on the way along successors. -/
abbrev Reaches (next : ObjectId → Option ObjectId) : ObjectId → ObjectId → Prop :=
  Relation.ReflTransGen fun id successor => next id = some successor

theorem leadsOn_super? (graph : Graph) : graph.LeadsOn graph.super? := by
  intro id successor hsuccessor
  obtain ⟨object, hobject, -⟩ := Option.bind_eq_some_iff.mp hsuccessor
  rw [hobject]
  rfl

/-- Different ids of objects are no more than the objects. -/
theorem length_le_size {ids : List ObjectId} (hnodup : ids.Nodup)
    (hobjects : ∀ id ∈ ids, (graph.object? id).isSome) : ids.length ≤ graph.size := by
  have hindices : (ids.map (·.index)).Nodup :=
    List.Nodup.map (fun _ _ hsame => ObjectId.index_injective hsame) hnodup
  have hbelow : ids.map (·.index) ⊆ List.range graph.size := by
    intro index hindex
    obtain ⟨id, hid, rfl⟩ := List.mem_map.mp hindex
    exact List.mem_range.mpr (isSome_object?_iff.mp (hobjects id hid))
  calc ids.length = (ids.map (·.index)).length := (List.length_map ..).symm
    _ ≤ (List.range graph.size).length := (List.subperm_of_subset hindices hbelow).length_le
    _ = graph.size := List.length_range

/-- A walk does not end before a successor that it has not met. -/
theorem mem_chainFrom_of_next (hnext : graph.LeadsOn next) {fuel : Nat} {seen : List ObjectId}
    (hnodup : seen.Nodup) (hobjects : ∀ id ∈ seen, (graph.object? id).isSome)
    (hfuel : graph.size < fuel + seen.length) {start id successor : ObjectId}
    (hid : id ∈ chainFrom next fuel seen start) (hsuccessor : next id = some successor) :
    successor ∈ seen ∨ successor ∈ chainFrom next fuel seen start := by
  induction fuel generalizing seen start with
  | zero => cases hid
  | succ fuel ih =>
      rw [chainFrom] at hid ⊢
      split at hid
      · cases hid
      rename_i hstart
      rw [if_neg hstart]
      rw [List.contains_iff_mem] at hstart
      split at hid
      · rename_i hnone
        rw [List.mem_singleton.mp hid, hnone] at hsuccessor
        cases hsuccessor
      rename_i second hsecond
      have hlonger : (start :: seen).Nodup := List.nodup_cons.mpr ⟨hstart, hnodup⟩
      have hmet : ∀ id ∈ start :: seen, (graph.object? id).isSome :=
        List.forall_mem_cons.mpr ⟨hnext start second hsecond, hobjects⟩
      -- The ids met so far are different objects, so the bound leaves room for a step.
      have hroom := length_le_size hlonger hmet
      rw [List.length_cons] at hroom
      have hlater : successor ∈ start :: seen ∨
          successor ∈ chainFrom next fuel (start :: seen) second := by
        rcases List.mem_cons.mp hid with rfl | hid
        · obtain rfl : second = successor := Option.some.inj (hsecond.symm.trans hsuccessor)
          exact mem_chainFrom_start next (by omega) _ _
        · exact ih hlonger hmet (by rw [List.length_cons]; omega) hid
      rcases hlater with hmem | hmem
      · rcases List.mem_cons.mp hmem with rfl | hmem
        · exact .inr List.mem_cons_self
        · exact .inl hmem
      · exact .inr (List.mem_cons_of_mem start hmem)

/-- A walk meets exactly what can be reached. -/
theorem mem_chain (hnext : graph.LeadsOn next) {start id : ObjectId} :
    id ∈ graph.chain next start ↔ Reaches next start id := by
  constructor
  · exact chainFrom_induction (fun _ _ hreached hstep => hreached.tail hstep) _ _ .refl id
  · intro hreached
    induction hreached with
    | refl =>
        have hstart := mem_chainFrom_start next (Nat.succ_pos graph.size) [] start
        exact hstart.resolve_left List.not_mem_nil
    | tail _ hstep ih =>
        have hlater := mem_chainFrom_of_next hnext List.nodup_nil (by simp) (by simp) ih hstep
        exact hlater.resolve_left List.not_mem_nil

theorem chain_eq_singleton {start : ObjectId} (h : next start = none) :
    graph.chain next start = [start] := by
  simp [chain, chainFrom, h]

/-- A walk that ends goes on from a successor as if it began there. -/
theorem chain_eq_cons {start successor last : ObjectId} (hstep : next start = some successor)
    (hlast : last ∈ graph.chain next start) (hnone : next last = none) :
    graph.chain next start = start :: graph.chain next successor ∧
      last ∈ graph.chain next successor := by
  have hchain : graph.chain next start =
      start :: chainFrom next graph.size [start] successor := by
    simp [chain, chainFrom, hstep]
  rw [hchain] at hlast ⊢
  have hlater : last ∈ chainFrom next graph.size [start] successor := by
    rcases List.mem_cons.mp hlast with rfl | hlater
    · rw [hnone] at hstep
      cases hstep
    · exact hlater
  rw [chain, chainFrom_eq_of_subset hlater hnone (Nat.le_succ _) (List.nil_subset _)]
  exact ⟨rfl, hlater⟩

theorem chainEnd_induction {P : ObjectId → Prop} {next : ObjectId → Option ObjectId}
    (hnext : ∀ id successor, P id → next id = some successor → P successor) {id : ObjectId}
    (hid : P id) : P (graph.chainEnd next id) := by
  rw [chainEnd, chain, List.getLastD_eq_getLast?]
  cases hlast : (chainFrom next (graph.size + 1) [] id).getLast? with
  | none => exact hid
  | some last => exact chainFrom_induction hnext _ _ hid last (List.mem_of_getLast? hlast)

/-- A walk that can reach an id without a successor ends there. -/
theorem chainEnd_eq_iff (hnext : graph.LeadsOn next) {start last : ObjectId}
    (hlast : next last = none) : graph.chainEnd next start = last ↔ Reaches next start last := by
  constructor
  · rintro rfl
    exact chainEnd_induction (fun _ _ hreached hstep => hreached.tail hstep) .refl
  · intro hreached
    have hmem := (mem_chain hnext).mpr hreached
    rw [chainEnd, List.getLastD_eq_getLast?, chain, getLast?_chainFrom hmem hlast]
    rfl

end Graph

end HeaderSynth
