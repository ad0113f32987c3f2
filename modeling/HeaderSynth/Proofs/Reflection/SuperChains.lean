import HeaderSynth.Proofs.Reflection.Walks
import Mathlib.Data.List.Chain

/-!
# Chains of super types

Super types may lead back to a type that was met before, to an id without an object, or to an
object of another kind.  All the same the chain of super types lists what can be reached, the
nearest first and nothing twice: each id has at most one super type, so a walk that comes back to
where it was has nothing new to meet.
-/

namespace HeaderSynth

variable {next : ObjectId → Option ObjectId}

/-! ## Walks in order -/

theorem not_mem_seen_of_mem_chainFrom {fuel : Nat} {seen : List ObjectId} {start : ObjectId} :
    ∀ id ∈ chainFrom next fuel seen start, id ∉ seen := by
  induction fuel generalizing seen start with
  | zero => exact fun _ hid => absurd hid List.not_mem_nil
  | succ fuel ih =>
      intro id hid
      rw [chainFrom] at hid
      split at hid
      · cases hid
      rename_i hstart
      rw [List.contains_iff_mem] at hstart
      split at hid
      · exact List.mem_singleton.mp hid ▸ hstart
      · rcases List.mem_cons.mp hid with rfl | hid
        · exact hstart
        · exact fun hseen => ih id hid (List.mem_cons_of_mem start hseen)

/-- A walk meets nothing twice. -/
theorem nodup_chainFrom (next : ObjectId → Option ObjectId) (fuel : Nat) (seen : List ObjectId)
    (start : ObjectId) : (chainFrom next fuel seen start).Nodup := by
  induction fuel generalizing seen start with
  | zero => exact List.nodup_nil
  | succ fuel ih =>
      rw [chainFrom]
      split
      · exact List.nodup_nil
      split
      · exact List.nodup_singleton start
      · rename_i successor _
        refine List.nodup_cons.mpr ⟨fun hlater => ?_, ih (start :: seen) successor⟩
        exact not_mem_seen_of_mem_chainFrom start hlater List.mem_cons_self

theorem head?_chainFrom {fuel : Nat} {seen : List ObjectId} {start first : ObjectId}
    (h : (chainFrom next fuel seen start).head? = some first) : first = start := by
  cases fuel with
  | zero => cases h
  | succ fuel =>
      rw [chainFrom] at h
      split at h
      · cases h
      split at h <;> exact (Option.some.inj h).symm

/-- Each id that a walk meets is the successor of the one before it. -/
theorem isChain_chainFrom (next : ObjectId → Option ObjectId) (fuel : Nat) (seen : List ObjectId)
    (start : ObjectId) :
    (chainFrom next fuel seen start).IsChain fun id successor => next id = some successor := by
  induction fuel generalizing seen start with
  | zero => exact .nil
  | succ fuel ih =>
      rw [chainFrom]
      split
      · exact .nil
      split
      · exact .singleton start
      · rename_i successor hsuccessor
        refine List.isChain_cons.mpr ⟨fun first hfirst => ?_, ih (start :: seen) successor⟩
        rw [head?_chainFrom hfirst]
        exact hsuccessor

namespace Graph

variable {graph : Graph}

/-- A walk ends by itself: it has room for every object, so more steps change nothing. -/
theorem chainFrom_add (hnext : graph.LeadsOn next) {fuel : Nat} {seen : List ObjectId}
    (hnodup : seen.Nodup) (hobjects : ∀ id ∈ seen, (graph.object? id).isSome)
    (hfuel : graph.size < fuel + seen.length) (more : Nat) (start : ObjectId) :
    chainFrom next (fuel + more) seen start = chainFrom next fuel seen start := by
  induction fuel generalizing seen start with
  | zero =>
      have hroom := length_le_size hnodup hobjects
      omega
  | succ fuel ih =>
      rw [Nat.add_right_comm, chainFrom, chainFrom]
      split
      · rfl
      rename_i hstart
      rw [List.contains_iff_mem] at hstart
      cases hsuccessor : next start with
      | none => rfl
      | some successor =>
          have hlonger : (start :: seen).Nodup := List.nodup_cons.mpr ⟨hstart, hnodup⟩
          have hmet : ∀ id ∈ start :: seen, (graph.object? id).isSome :=
            List.forall_mem_cons.mpr ⟨hnext start successor hsuccessor, hobjects⟩
          have hlater : graph.size < fuel + (start :: seen).length := by
            rw [List.length_cons]
            omega
          exact congrArg (start :: ·) (ih hlonger hmet hlater successor)

theorem head?_chain (next : ObjectId → Option ObjectId) (start : ObjectId) :
    (graph.chain next start).head? = some start := by
  cases hsuccessor : next start <;> simp [chain, chainFrom, hsuccessor]

theorem isChildOf_iff {id : ObjectId} {package name : String} :
    graph.isChildOf id package name = true ↔
      ∃ ancestor object, Reaches graph.super? id ancestor ∧
        graph.object? ancestor = some object ∧ object.package = package ∧ object.name = name := by
  rw [isChildOf, List.any_eq_true]
  constructor
  · rintro ⟨ancestor, hancestor, hnamed⟩
    split at hnamed
    · rename_i object hobject
      obtain ⟨hname, hpackage⟩ := Bool.and_eq_true_iff.mp hnamed
      exact ⟨ancestor, object, (mem_chain graph.leadsOn_super?).mp hancestor, hobject,
        of_decide_eq_true hpackage, of_decide_eq_true hname⟩
    · cases hnamed
  · rintro ⟨ancestor, object, hreaches, hobject, rfl, rfl⟩
    refine ⟨ancestor, (mem_chain graph.leadsOn_super?).mpr hreaches, ?_⟩
    simp [hobject]

/-- Whatever a graph looks like, the chain of super types from an id comes to an end, and lists
that id and what can be reached from it, each with its super type behind it and nothing twice.  So
an object is a child of those that can be reached. -/
theorem superChain_lists_reachable (graph : Graph) (id : ObjectId) :
    (∀ more, chainFrom graph.super? (graph.size + 1 + more) [] id = graph.superChain id) ∧
      (graph.superChain id).Nodup ∧ (graph.superChain id).head? = some id ∧
      (graph.superChain id).IsChain (fun lower upper => graph.super? lower = some upper) ∧
      (∀ other, other ∈ graph.superChain id ↔ Reaches graph.super? id other) ∧
      ∀ package name, graph.isChildOf id package name = true ↔
        ∃ ancestor object, Reaches graph.super? id ancestor ∧
          graph.object? ancestor = some object ∧ object.package = package ∧
          object.name = name := by
  refine ⟨fun more => ?_, nodup_chainFrom _ _ _ _, head?_chain _ id, isChain_chainFrom _ _ _ _,
    fun other => mem_chain graph.leadsOn_super?, fun package name => isChildOf_iff⟩
  exact chainFrom_add graph.leadsOn_super? List.nodup_nil (by simp) (by simp) more id

end Graph

/-- A class and a struct that derive from each other, and a class whose super has no object. -/
example :
    let graph : Graph := ⟨#[
      { name := "Lantern", package := "/Script/Game",
        kind := .classType { flags := .none, superClass := some ⟨1⟩ } },
      { name := "Flame", package := "/Script/Game",
        kind := .structType { flags := .none, superStruct := some ⟨0⟩ } },
      { name := "Torch", package := "/Script/Game",
        kind := .classType { flags := .none, superClass := some ⟨9⟩ } }]⟩
    graph.superChain ⟨1⟩ = [⟨1⟩, ⟨0⟩] ∧ graph.superChain ⟨2⟩ = [⟨2⟩, ⟨9⟩] ∧
      graph.isChildOf ⟨1⟩ "/Script/Game" "Lantern" = true := by
  decide

end HeaderSynth
