import HeaderSynth.Reflection.Decoding

/-!
# References between objects

The ids of an object are of two sorts.  Those that tie it to its outer, its super type, its
members and its class are checked when a snapshot is read.  Those in the types of its fields
and parameters are not, at no depth, so a graph may mention ids that it has no objects for.
-/

namespace HeaderSynth

/-! ## Ties -/

/-- An object is tied to another one by its outer or its payload. -/
def Object.IsTiedTo (object : Object) (id : ObjectId) : Prop :=
  object.outer = some id ∨
    match object.kind with
    | .classType info => info.superClass = some id ∨ info.within = some id ∨
        id ∈ info.interfaces ∨ id ∈ info.functions
    | .interfaceType info => info.superClass = some id ∨ info.within = some id ∨
        id ∈ info.interfaces ∨ id ∈ info.functions
    | .structType info => info.superStruct = some id
    | .instanceOf type => type = some id
    | .enumType _ => False
    | .function _ => False

theorem Object.isTiedTo_iff {object : Object} {id : ObjectId} :
    object.IsTiedTo id ↔ ∃ role, (role, id) ∈ object.links := by
  rw [IsTiedTo, links]
  cases object.kind <;>
    simp [exists_or, or_assoc, or_comm, or_left_comm]

namespace Graph

theorem isSome_object?_iff {graph : Graph} {id : ObjectId} :
    (graph.object? id).isSome ↔ id.index < graph.size := by
  rw [object?, isSome_getElem?]
  rfl

theorem mem_objects_of_object? {graph : Graph} {id : ObjectId} {object : Object}
    (h : graph.object? id = some object) : object ∈ graph.objects :=
  Array.mem_of_getElem? h

/-- Every object that another one is tied to exists. -/
def IsTied (graph : Graph) : Prop :=
  ∀ object ∈ graph.objects, ∀ id, object.IsTiedTo id → (graph.object? id).isSome

theorem danglingLink?_eq_none_iff {graph : Graph} : graph.danglingLink? = none ↔ graph.IsTied := by
  have hlinks : ∀ object : Object,
      (object.links.find? fun link => graph.size ≤ link.2.index) = none ↔
        ∀ id, object.IsTiedTo id → (graph.object? id).isSome := by
    intro object
    simp only [List.find?_eq_none, decide_eq_true_eq, Nat.not_le, isSome_object?_iff,
      Object.isTiedTo_iff, Prod.forall]
    constructor
    · rintro h id ⟨role, hlink⟩
      exact h role id hlink
    · intro h role id hlink
      exact h id ⟨role, hlink⟩
  simp only [danglingLink?, List.findSome?_eq_none_iff, Option.map_eq_none_iff, hlinks, IsTied,
    Array.mem_toList_iff]

/-- A snapshot that is read without a fault has no loose ties. -/
theorem isTied_of_ofText {text : String} {graph : Graph} (h : Graph.ofText text = .ok graph) :
    graph.IsTied := by
  have hvalid : ∀ {before after : Graph}, before.validated = .ok after → after.fault? = none := by
    intro before after hafter
    rw [validated] at hafter
    split at hafter
    · cases hafter
    · cases hafter
      assumption
  have hfault : graph.fault? = none := by
    rw [ofText, Snapshot.ofText] at h
    split at h
    · rename_i value _
      rw [Snapshot.load] at h
      split at h
      · rename_i snapshot _
        rw [Snapshot.validated] at h
        cases hgraph : snapshot.rebuildIndex.graph.validated with
        | error fault =>
            rw [hgraph] at h
            cases h
        | ok valid =>
            rw [hgraph] at h
            cases h
            exact hvalid hgraph
      · cases h
    · cases h
  rw [fault?, Option.or_eq_none_iff] at hfault
  exact danglingLink?_eq_none_iff.mp hfault.1

end Graph

/-! ## Types of members -/

/-- The ids in a type, at any depth. -/
def FieldKind.targets : FieldKind → List ObjectId
  | .byte enumType => enumType.toList
  | .enum enumType _ underlying => enumType.toList ++ underlying.targets
  | .object _ target => target.toList
  | .classRef _ metaClass => metaClass.toList
  | .interface target => target.toList
  | .struct structType => structType.toList
  | .delegate signature _ => signature.toList
  | .array _ inner => inner.targets
  | .set _ element => element.targets
  | .map _ key _ value => key.targets ++ value.targets
  | _ => []

/-- The fields or parameters of an object. -/
def Object.memberFields (object : Object) : List Field :=
  match object.kind with
  | .classType info => info.fields
  | .interfaceType info => info.fields
  | .structType info => info.fields
  | .function info => info.params
  | .enumType _ => []
  | .instanceOf _ => []

/-- The type of a member names an id. -/
def Object.NamesInType (object : Object) (id : ObjectId) : Prop :=
  ∃ member ∈ object.memberFields, id ∈ member.kind.targets

namespace Graph

/-- An id that a declaration can refer to: of an object, or in the type of a member. -/
def Mentions (graph : Graph) (id : ObjectId) : Prop :=
  (graph.object? id).isSome ∨ ∃ object ∈ graph.objects, object.NamesInType id

theorem IsTied.mentions {graph : Graph} (h : graph.IsTied) {object : Object}
    (hobject : object ∈ graph.objects) {id : ObjectId} (hid : object.IsTiedTo id) :
    graph.Mentions id :=
  .inl (h object hobject id hid)

theorem mentions_of_mem_memberFields {graph : Graph} {object : Object}
    (hobject : object ∈ graph.objects) {member : Field} (hmember : member ∈ object.memberFields)
    {id : ObjectId} (hid : id ∈ member.kind.targets) : graph.Mentions id :=
  .inr ⟨object, hobject, member, hmember, hid⟩

end Graph

end HeaderSynth
