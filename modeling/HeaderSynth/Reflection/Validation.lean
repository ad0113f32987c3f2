import HeaderSynth.Reflection.Graph

/-!
# Valid graphs

A graph is valid when the ids that tie objects together lead to objects and no
object is nested in itself.  The first fault is reported, dangling ids before
cycles.
-/

namespace HeaderSynth

/-- Why a graph is not valid. -/
inductive GraphFault where
  /-- The reference `role` of the object `owner` leads nowhere. -/
  | dangling (role owner : String) (target : ObjectId)
  /-- The outer objects of `start` lead back to `target`. -/
  | outerCycle (start target : String)
deriving DecidableEq, Repr

def GraphFault.message : GraphFault → String
  | .dangling role owner target =>
    s!"{role} of '{owner}' references missing object {target.render}"
  | .outerCycle start target => s!"outer chain of '{start}' loops back to '{target}'"

/-- The references of an object that must lead to an object, with their roles, in
the order in which they are checked. -/
def Object.links (object : Object) : List (String × ObjectId) :=
  let link (role : String) (target : Option ObjectId) := target.toList.map fun id => (role, id)
  let ofClass (info : ClassInfo) :=
    link "super class" info.superClass ++ link "within class" info.within ++
      (info.interfaces ++ info.functions).map fun id => ("member", id)
  link "outer" object.outer ++
    match object.kind with
    | .classType info => ofClass info
    | .interfaceType info => ofClass info
    | .structType info => link "super struct" info.superStruct
    | .instanceOf type => link "class" type
    | .enumType _ => []
    | .function _ => []

/-- What the search for cycles knows of an object. -/
inductive Mark where
  | unvisited
  /-- The walk under way has met the object. -/
  | onPath
  /-- The outer objects of the object come to an end. -/
  | ending
deriving DecidableEq, Repr

/-- Why a walk outwards fails. -/
inductive WalkFault where
  /-- The walk from `start` comes back to `target`. -/
  | cycle (start target : Nat)
  /-- The walk leaves the graph. -/
  | outOfRange (index : Nat)
deriving DecidableEq, Repr

namespace Graph

/-- The first reference that leads nowhere. -/
def danglingLink? (graph : Graph) : Option GraphFault :=
  graph.objects.toList.findSome? fun object =>
    (object.links.find? fun link => graph.size ≤ link.2.index).map fun (role, target) =>
      .dangling role object.name target

/-- The name of the object at a position. -/
def nameAt (graph : Graph) (index : Nat) : String :=
  ((graph.objects[index]?).map (·.name)).getD ""

/-- The position of the outer of the object at a position. -/
def outerIndex? (graph : Graph) (index : Nat) : Option Nat :=
  ((graph.objects[index]?).bind (·.outer)).map ObjectId.index

/-- What the search for cycles knows of each object. -/
abbrev MarkTable (graph : Graph) : Type :=
  Vector Mark graph.size

/-- Walks outwards from the position `current` to an object that is known to lead to an end, or
has no outer.  The positions on the way are marked and collected, so every step leaves fewer
unvisited. -/
def walkOutwards (graph : Graph) (start : Nat) (marks : graph.MarkTable)
    (path : List (Fin graph.size)) (current : Option Nat) :
    Except WalkFault (graph.MarkTable × List (Fin graph.size)) :=
  match current with
  | none => .ok (marks, path)
  | some index =>
    if hindex : index < graph.size then
      match hmark : marks[index] with
      | .ending => .ok (marks, path)
      | .onPath => .error (.cycle start index)
      | .unvisited =>
        graph.walkOutwards start (marks.set index .onPath) (⟨index, hindex⟩ :: path)
          (graph.outerIndex? index)
    else .error (.outOfRange index)
termination_by marks.count .unvisited
decreasing_by
  have hpos : 0 < marks.count .unvisited :=
    Vector.count_pos_iff.mpr (hmark ▸ Vector.getElem_mem hindex)
  rw [Vector.count_set, hmark]
  simp only [BEq.rfl, if_true, if_neg (by decide : ¬(Mark.onPath == Mark.unvisited) = true)]
  omega

/-- Marks what a walk has met when it came to an end. -/
def settle (graph : Graph) (path : List (Fin graph.size)) (marks : graph.MarkTable) :
    graph.MarkTable :=
  path.foldl
    (fun (marks : graph.MarkTable) (index : Fin graph.size) => marks.set index .ending) marks

/-- Walks outwards from one position after the other, until a walk fails. -/
def searchOuters (graph : Graph) : List (Fin graph.size) → graph.MarkTable → Except WalkFault Unit
  | [], _ => .ok ()
  | start :: rest, marks => do
    let (marks, path) ← graph.walkOutwards start marks [] (some start)
    graph.searchOuters rest (graph.settle path marks)

/-- Looks for an object that is nested in itself. -/
def checkOuters (graph : Graph) : Except WalkFault Unit :=
  graph.searchOuters (List.finRange graph.size) (Vector.replicate graph.size .unvisited)

/-- The first object whose outer objects lead into a cycle. -/
def outerCycle? (graph : Graph) : Option GraphFault :=
  match graph.checkOuters with
  | .error (.cycle start target) =>
    some (.outerCycle (graph.nameAt start) (graph.nameAt target))
  | _ => none

/-- The first fault of a graph. -/
def fault? (graph : Graph) : Option GraphFault :=
  graph.danglingLink?.or graph.outerCycle?

end Graph

end HeaderSynth
