import HeaderSynth.Error
import HeaderSynth.Naming.Native
import HeaderSynth.Reflection.ObjectId
import HeaderSynth.Sorted.Map

/-!
# Header names

A type is declared in a header of its own name.  A delegate signature is declared
with the object around it, and in a header of its own where there is none.

No two headers of one dump share a name.  The first claim of a name is granted as
it stands; a later one gets the next free number behind it, and the object that
got it is remembered.
-/

namespace HeaderSynth

/-! ## Headers of types -/

namespace Graph

def get (graph : Graph) (id : ObjectId) : Except GenerateError Object :=
  match graph.object? id with
  | some object => .ok object
  | none => .error (.unknownObject id)

theorem get_eq_ok {graph : Graph} {id : ObjectId} {object : Object} :
    graph.get id = .ok object ↔ graph.object? id = some object := by
  rw [get]
  cases graph.object? id with
  | none => simp
  | some found => simp

/-- The object around a delegate signature. -/
def delegateOuter? (graph : Graph) (id : ObjectId) : Option ObjectId :=
  (graph.object? id).bind fun object => if object.isDelegateSignature then object.outer else none

/-- The object in whose header `id` is declared. -/
def headerOwner (graph : Graph) (id : ObjectId) : ObjectId :=
  graph.chainEnd graph.delegateOuter? id

/-- The name of the header of an object that owns one, before collisions with other
headers are settled. -/
def headerName (graph : Graph) (owner : ObjectId) : Except GenerateError String := do
  let object ← graph.get owner
  match object.kind with
  | .function _ =>
    if object.isDelegateSignature then return delegateBaseName object.name ++ "Delegate"
    else throw (.unsupportedObject object.name "function")
  | .instanceOf _ => throw (.unsupportedObject object.name "instance")
  | _ => return object.name

end Graph

/-! ## Granted names -/

/-- The names granted so far. -/
structure NameRegistry where
  granted : SortedSet String
  /-- The last number tried behind a name. -/
  counters : SortedMap String Nat
  /-- The objects whose name has a number. -/
  assigned : SortedMap ObjectId String

namespace NameRegistry

def empty : NameRegistry := ⟨.empty, .empty, .empty⟩

instance : Inhabited NameRegistry := ⟨empty⟩

def numbered (base : String) (number : Nat) : String :=
  base ++ toString number

/-- The first number from `number` on that makes a free name; one of the first
`fuel` numbers must do. -/
def firstFree (granted : SortedSet String) (base : String) : Nat → Nat → Nat
  | 0, number => number
  | fuel + 1, number =>
    if numbered base number ∈ granted then firstFree granted base fuel (number + 1) else number

/-- Grants `object` a name that is new and begins with `base`. -/
def claim (registry : NameRegistry) (base : String) (object : ObjectId) : NameRegistry × String :=
  if base ∈ registry.granted then
    let last := (registry.counters.get? base).getD 0
    let number := firstFree registry.granted base (registry.granted.size + 1) (last + 1)
    let name := numbered base number
    ({ granted := registry.granted.insert name
       counters := registry.counters.insert base number
       assigned := registry.assigned.insert object name }, name)
  else
    ({ registry with
       granted := registry.granted.insert base
       counters := registry.counters.alter base (·.getD 0) }, base)

/-- The name granted to `object` before, which is `base` unless it has a number. -/
def existing (registry : NameRegistry) (base : String) (object : ObjectId) : String :=
  (registry.assigned.get? object).getD base

end NameRegistry

end HeaderSynth
