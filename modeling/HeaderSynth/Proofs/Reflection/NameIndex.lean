import HeaderSynth.Reflection.Snapshot

/-!
# The index of a snapshot

A snapshot is indexed when its index leads to the first object of every name.  Objects that are
added or moved to another outer keep it so, and an index that is built anew makes it so, whatever
the old one held.
-/

namespace HeaderSynth

/-! ## Entries -/

namespace NameIndex

/-- An entry counts for the name of its object alone, and only if that name was free. -/
theorem get?_enter (index : NameIndex) (id : ObjectId) (object : Object) (package name : String) :
    (index.enter id object).get? (package, name) =
      (index.get? (package, name)).or (if object.isNamed package name then some id else none) := by
  rw [enter, SortedMap.get?_alter]
  by_cases hnamed : object.isNamed package name = true
  · have hkey : (package, name) = (object.package, object.name) := by
      obtain ⟨rfl, rfl⟩ := by simpa [Object.isNamed] using hnamed
      rfl
    rw [if_pos hkey, if_pos hnamed, hkey]
    cases index.get? (object.package, object.name) <;> rfl
  · have hkey : (package, name) ≠ (object.package, object.name) := by
      intro hkey
      cases hkey
      exact hnamed (by simp [Object.isNamed])
    rw [if_neg hkey, if_neg hnamed, Option.or_none]

/-- Entering objects one after the other finds the first of a name among them, unless the name
had been taken before. -/
theorem get?_enterAll (objects : List Object) (index : NameIndex) (position : Nat)
    (package name : String) :
    (index.enterAll position objects).get? (package, name) =
      (index.get? (package, name)).or
        ((objects.findIdx? (Object.isNamed package name)).map fun place =>
          ObjectId.ofIndex (position + place)) := by
  induction objects generalizing index position with
  | nil => simp [enterAll]
  | cons object rest ih =>
    rw [enterAll, ih, get?_enter, Option.or_assoc, List.findIdx?_cons]
    congr 1
    by_cases hnamed : object.isNamed package name = true
    · simp [hnamed]
    · rw [if_neg hnamed, if_neg hnamed, Option.none_or, Option.map_map]
      congr 1
      funext place
      show ObjectId.ofIndex (position + 1 + place) = ObjectId.ofIndex (position + (place + 1))
      rw [Nat.add_right_comm, Nat.add_assoc]

end NameIndex

/-! ## Snapshots -/

/-- The index leads to the first object of every name. -/
def Snapshot.IsIndexed (snapshot : Snapshot) : Prop :=
  ∀ package name, snapshot.find? package name = snapshot.graph.find? package name

namespace Snapshot

theorem isIndexed_empty : empty.IsIndexed := by
  intro package name
  rw [find?, empty, SortedMap.get?_empty, Graph.find?, Graph.empty, Array.findIdx?_empty]
  rfl

theorem IsIndexed.push {snapshot : Snapshot} (hindexed : snapshot.IsIndexed) (object : Object) :
    (snapshot.push object).1.IsIndexed := by
  intro package name
  show (snapshot.index.enter (.ofIndex snapshot.graph.size) object).get? (package, name) =
    ((snapshot.graph.objects.push object).findIdx? (Object.isNamed package name)).map
      ObjectId.ofIndex
  have hbefore : snapshot.index.get? (package, name) = snapshot.graph.find? package name :=
    hindexed package name
  rw [NameIndex.get?_enter, hbefore, Graph.find?, Array.findIdx?_push, Option.map_or]
  congr 1
  split <;> rfl

theorem IsIndexed.setOuter? {snapshot patched : Snapshot} (hindexed : snapshot.IsIndexed)
    {id : ObjectId} {outer : Option ObjectId} (hpatch : snapshot.setOuter? id outer = some patched) :
    patched.IsIndexed := by
  obtain ⟨graph, hgraph, rfl⟩ := Option.map_eq_some_iff.mp hpatch
  obtain ⟨object, hobject, rfl⟩ := Option.map_eq_some_iff.mp hgraph
  intro package name
  -- The patched object has the name that it had.
  have hsame : (snapshot.graph.objects.setIfInBounds id.index { object with outer }).map
      (Object.isNamed package name) = snapshot.graph.objects.map (Object.isNamed package name) := by
    rw [Array.map_setIfInBounds]
    apply Array.ext_getElem?
    intro place
    rw [Array.getElem?_setIfInBounds]
    split
    · rename_i hplace
      obtain ⟨hid, rfl⟩ := Array.getElem?_eq_some_iff.mp hobject
      subst hplace
      simp [hid, Object.isNamed]
    · rfl
  have hfind := hindexed package name
  rw [Graph.find?, ← Function.id_comp (Object.isNamed package name), ← Array.findIdx?_map] at hfind ⊢
  rw [hsame]
  exact hfind

/-- A snapshot into which objects are put one after the other, and moved to other outers. -/
inductive IsBuilt : Snapshot → Prop
  | empty : IsBuilt .empty
  | push {snapshot : Snapshot} (h : IsBuilt snapshot) (object : Object) :
      IsBuilt (snapshot.push object).1
  | setOuter? {snapshot patched : Snapshot} {id : ObjectId} {outer : Option ObjectId}
      (h : IsBuilt snapshot) (hpatch : snapshot.setOuter? id outer = some patched) :
      IsBuilt patched

/-- However a snapshot is built, its index leads to the first object of every name. -/
theorem IsBuilt.isIndexed {snapshot : Snapshot} (h : snapshot.IsBuilt) : snapshot.IsIndexed := by
  induction h with
  | empty => exact isIndexed_empty
  | push _ object ih => exact ih.push object
  | setOuter? _ hpatch ih => exact ih.setOuter? hpatch

/-- An index that is built anew leads to the first object of every name. -/
theorem isIndexed_rebuildIndex (snapshot : Snapshot) : snapshot.rebuildIndex.IsIndexed := by
  intro package name
  show (NameIndex.enterAll .empty 0 snapshot.graph.objects.toList).get? (package, name) =
    snapshot.graph.find? package name
  rw [NameIndex.get?_enterAll, SortedMap.get?_empty, Option.none_or, Graph.find?,
    ← List.findIdx?_toArray, Array.toArray_toList]
  simp only [Nat.zero_add]

end Snapshot

/-! ## What is found -/

/-- Whether `id` is the id of an object with the given package and name. -/
def Graph.IsNamed (graph : Graph) (package name : String) (id : ObjectId) : Prop :=
  ∃ object, graph.object? id = some object ∧ object.package = package ∧ object.name = name

theorem Graph.isNamed_iff (graph : Graph) (package name : String) (id : ObjectId) :
    graph.IsNamed package name id ↔ ∃ hid : id.index < graph.size,
      graph.objects[id.index].isNamed package name = true := by
  constructor
  · rintro ⟨object, hobject, hpackage, hname⟩
    obtain ⟨hid, rfl⟩ := Array.getElem?_eq_some_iff.mp hobject
    exact ⟨hid, by simp [Object.isNamed, hpackage, hname]⟩
  · rintro ⟨hid, hmatch⟩
    refine ⟨graph.objects[id.index], Array.getElem?_eq_getElem hid, ?_⟩
    simpa [Object.isNamed] using hmatch

/-- An object is found by package and name exactly if it is the first that has them. -/
theorem Graph.find?_eq_some_iff {graph : Graph} (hsize : graph.size < UInt32.size)
    (package name : String) (id : ObjectId) :
    graph.find? package name = some id ↔ graph.IsNamed package name id ∧
      ∀ other, graph.IsNamed package name other → id.index ≤ other.index := by
  rw [Graph.find?, Option.map_eq_some_iff]
  constructor
  · rintro ⟨index, hfind, rfl⟩
    obtain ⟨hindex, hmatch, hfirst⟩ := Array.findIdx?_eq_some_iff_getElem.mp hfind
    have hid := ObjectId.index_ofIndex (Nat.lt_trans hindex hsize)
    constructor
    · rw [Graph.isNamed_iff]
      simp only [hid]
      exact ⟨hindex, hmatch⟩
    · intro other hother
      obtain ⟨_, hearlier⟩ := (graph.isNamed_iff package name other).mp hother
      rw [hid]
      exact Nat.le_of_not_lt fun hlt => hfirst other.index hlt hearlier
  · rintro ⟨hnamed, hleast⟩
    obtain ⟨hindex, hmatch⟩ := (graph.isNamed_iff package name id).mp hnamed
    refine ⟨id.index, Array.findIdx?_eq_some_iff_getElem.mpr ⟨hindex, hmatch, ?_⟩, ?_⟩
    · intro index hlt hearlier
      have hid := ObjectId.index_ofIndex (Nat.lt_trans (Nat.lt_trans hlt hindex) hsize)
      have hother : graph.IsNamed package name (ObjectId.ofIndex index) := by
        rw [Graph.isNamed_iff]
        simp only [hid]
        exact ⟨Nat.lt_trans hlt hindex, hearlier⟩
      have hle := hleast _ hother
      omega
    · exact ObjectId.index_injective (ObjectId.index_ofIndex (Nat.lt_trans hindex hsize))

theorem Graph.find?_eq_none_iff {graph : Graph} (hsize : graph.size < UInt32.size)
    (package name : String) :
    graph.find? package name = none ↔ ∀ id, ¬ graph.IsNamed package name id := by
  rw [Graph.find?, Option.map_eq_none_iff, Array.findIdx?_eq_none_iff]
  constructor
  · intro hnone id hnamed
    obtain ⟨hindex, hmatch⟩ := (graph.isNamed_iff package name id).mp hnamed
    have hfalse := hnone _ (Array.getElem_mem hindex)
    rw [hmatch] at hfalse
    contradiction
  · intro hnone object hobject
    obtain ⟨index, hindex, rfl⟩ := Array.mem_iff_getElem.mp hobject
    have hid := ObjectId.index_ofIndex (Nat.lt_trans hindex hsize)
    apply Bool.eq_false_iff.mpr
    intro hmatch
    apply hnone (ObjectId.ofIndex index)
    rw [Graph.isNamed_iff]
    simp only [hid]
    exact ⟨hindex, hmatch⟩


namespace Snapshot

variable {snapshot : Snapshot} (hindexed : snapshot.IsIndexed)
  (hsize : snapshot.graph.size < UInt32.size) (package name : String)

include hindexed hsize

theorem IsIndexed.find?_eq_some_iff (id : ObjectId) :
    snapshot.find? package name = some id ↔ snapshot.graph.IsNamed package name id ∧
      ∀ other, snapshot.graph.IsNamed package name other → id.index ≤ other.index := by
  rw [hindexed]
  exact Graph.find?_eq_some_iff hsize package name id

theorem IsIndexed.find?_eq_none_iff :
    snapshot.find? package name = none ↔ ∀ id, ¬snapshot.graph.IsNamed package name id := by
  rw [hindexed]
  exact Graph.find?_eq_none_iff hsize package name

end Snapshot

end HeaderSynth
