import HeaderSynth.Reflection.Graph
import HeaderSynth.Sorted.Map

/-!
# Snapshots

A snapshot keeps a graph and an index of the names in it.  An object is looked up in the
index alone, where the first object of a name keeps its place.  Objects are patched without
a glance at the index, and files do not hold it, so a graph that is read is indexed anew.
-/

namespace HeaderSynth

/-- The objects of packages and names. -/
abbrev NameIndex := SortedMap (String × String) ObjectId

namespace NameIndex

/-- Enters an object under its package and name, unless there is one already. -/
def enter (index : NameIndex) (id : ObjectId) (object : Object) : NameIndex :=
  index.alter (object.package, object.name) (·.getD id)

/-- Enters objects one after the other, the first of them under the given position. -/
def enterAll (index : NameIndex) (position : Nat) : List Object → NameIndex
  | [] => index
  | object :: rest => (index.enter (.ofIndex position) object).enterAll (position + 1) rest

end NameIndex

/-- The objects of one reflection run, with the index of their names. -/
structure Snapshot where
  graph : Graph
  index : NameIndex

namespace Snapshot

def empty : Snapshot := ⟨.empty, .empty⟩

/-- Adds an object at the end and gives its id. -/
def push (snapshot : Snapshot) (object : Object) : Snapshot × ObjectId :=
  let (graph, id) := snapshot.graph.push object
  ({ graph, index := snapshot.index.enter id object }, id)

/-- Gives an object another outer, if there is such an object. -/
def setOuter? (snapshot : Snapshot) (id : ObjectId) (outer : Option ObjectId) : Option Snapshot :=
  (snapshot.graph.setOuter? id outer).map fun graph => { snapshot with graph }

/-- Indexes the graph anew, whatever the index holds. -/
def rebuildIndex (snapshot : Snapshot) : Snapshot :=
  { snapshot with index := NameIndex.enterAll .empty 0 snapshot.graph.objects.toList }

/-- The object that the index holds for a package and a name. -/
def find? (snapshot : Snapshot) (package name : String) : Option ObjectId :=
  snapshot.index.get? (package, name)

end Snapshot

end HeaderSynth
