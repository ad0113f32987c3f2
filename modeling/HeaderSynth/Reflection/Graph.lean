import HeaderSynth.Reflection.Object

/-!
# Reflection graphs

A graph is a list of objects that refer to each other by position.  A graph
need not be well formed: ids may lead nowhere and chains of outer objects or
super types may be cyclic, so every walk stops at the first id it meets again.
-/

namespace HeaderSynth

/-- The objects of one reflection run, in enumeration order. -/
structure Graph where
  objects : Array Object
deriving DecidableEq, Repr, Inhabited

/-- The ids from `id` on, each the successor of the one before.  The walk ends
where there is no successor, at an id of `seen`, or after `fuel` ids. -/
def chainFrom (next : ObjectId → Option ObjectId) :
    Nat → List ObjectId → ObjectId → List ObjectId
  | 0, _, _ => []
  | fuel + 1, seen, id =>
    if seen.contains id then []
    else
      match next id with
      | none => [id]
      | some successor => id :: chainFrom next fuel (id :: seen) successor

/-- Whether an object has a package and a name. -/
def Object.isNamed (package name : String) (object : Object) : Bool :=
  object.package = package && object.name = name

namespace Graph

def empty : Graph := ⟨#[]⟩

def size (graph : Graph) : Nat :=
  graph.objects.size

def isEmpty (graph : Graph) : Bool :=
  graph.objects.isEmpty

/-- The ids of the objects, in enumeration order.  Their count is taken in the 32 bits
that an id has. -/
def ids (graph : Graph) : List ObjectId :=
  (List.range (UInt32.ofNat graph.size).toNat).map ObjectId.ofIndex

def object? (graph : Graph) (id : ObjectId) : Option Object :=
  graph.objects[id.index]?

/-- Adds an object at the end and gives its id. -/
def push (graph : Graph) (object : Object) : Graph × ObjectId :=
  (⟨graph.objects.push object⟩, .ofIndex graph.size)

/-- Gives an object another outer, if there is such an object. -/
def setOuter? (graph : Graph) (id : ObjectId) (outer : Option ObjectId) : Option Graph :=
  (graph.object? id).map fun object =>
    ⟨graph.objects.setIfInBounds id.index { object with outer }⟩

/-- The first object with a package and a name.  A snapshot finds it without a search. -/
def find? (graph : Graph) (package name : String) : Option ObjectId :=
  (graph.objects.findIdx? (Object.isNamed package name)).map ObjectId.ofIndex

def outer? (graph : Graph) (id : ObjectId) : Option ObjectId :=
  (graph.object? id).bind (·.outer)

def super? (graph : Graph) (id : ObjectId) : Option ObjectId :=
  (graph.object? id).bind (·.super?)

/-- A walk over the graph.  Every id on it but the last is that of an object, so
it has at most one id more than the graph has objects. -/
def chain (graph : Graph) (next : ObjectId → Option ObjectId) (id : ObjectId) : List ObjectId :=
  chainFrom next (graph.size + 1) [] id

/-- The last id of a walk. -/
def chainEnd (graph : Graph) (next : ObjectId → Option ObjectId) (id : ObjectId) : ObjectId :=
  (graph.chain next id).getLastD id

/-- The outermost object around `id`. -/
def topLevel (graph : Graph) (id : ObjectId) : ObjectId :=
  graph.chainEnd graph.outer? id

/-- The object itself and its super types, the nearest first. -/
def superChain (graph : Graph) (id : ObjectId) : List ObjectId :=
  graph.chain graph.super? id

/-- Whether `id` is the object `name` of `package` or derives from it. -/
def isChildOf (graph : Graph) (id : ObjectId) (package name : String) : Bool :=
  (graph.superChain id).any fun ancestor =>
    match graph.object? ancestor with
    | some object => object.name = name && object.package = package
    | none => false

/-- The beginning of the packages of native script modules. -/
def scriptPackagePrefix : String := "/Script/"

/-- The module of an object's package; empty for other packages. -/
def moduleName (graph : Graph) (id : ObjectId) : String :=
  ((graph.object? id).bind fun object =>
    Text.afterPrefix? scriptPackagePrefix object.package).getD ""

end Graph

end HeaderSynth
