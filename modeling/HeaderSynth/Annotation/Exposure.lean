import HeaderSynth.Naming.Native

/-!
# Exposure to scripts

Whether scripts can use a class, or derive from it, follows from its members and
from those of its super classes.
-/

namespace HeaderSynth

/-- What scripts can do with a class. -/
structure Exposure where
  /-- Scripts can derive from it. -/
  derivable : Bool := false
  /-- Scripts can use it as a type. -/
  usable : Bool := false
deriving DecidableEq, Repr

/-- Classes that are exposed themselves and pass nothing on. -/
def intrinsicRoots : List (String × String) :=
  [(corePackage, "Object"), (enginePackage, "ActorComponent"), (enginePackage, "SceneComponent")]

def Object.isIntrinsicRoot (object : Object) : Bool :=
  intrinsicRoots.contains (object.package, object.name)

def Object.hasVisibleField (object : Object) : Bool :=
  object.fields.any (·.flags.contains PropertyFlags.blueprintVisible)

/-- Adds what the members of a class demand.  An event makes the class derivable. -/
def Exposure.withMembers (graph : Graph) (object : Object) (info : ClassInfo)
    (exposure : Exposure) : Exposure :=
  let methods := info.functions.filterMap fun id => (graph.object? id).bind (·.methodInfo?)
  let hasEvent := methods.any (·.flags.contains FunctionFlags.blueprintEvent)
  let hasCallable := methods.any (·.flags.contains FunctionFlags.blueprintCallable)
  { derivable := exposure.derivable || hasEvent
    usable := exposure.usable || object.hasVisibleField || hasEvent || hasCallable }

/-- The exposure of a class from that of its super class. -/
def Exposure.descend (graph : Graph) (exposure : Exposure) (id : ObjectId) : Exposure :=
  match graph.object? id with
  | none => exposure
  | some object =>
    if object.isIntrinsicRoot then {}
    else
      match object.classInfo? with
      | some info => exposure.withMembers graph object info
      | none => exposure

namespace Graph

/-- The exposure of a class, from the root of its super chain downwards. -/
def exposure (graph : Graph) (id : ObjectId) : Exposure :=
  (graph.superChain id).reverse.foldl (Exposure.descend graph) {}

/-- The exposure of a super class; without one there is none. -/
def superExposure (graph : Graph) : Option ObjectId → Exposure
  | some id => graph.exposure id
  | none => {}

/-- Whether an aggregate or one of its super types has a field that scripts see. -/
def hasVisibleField (graph : Graph) (id : ObjectId) : Bool :=
  (graph.superChain id).any fun ancestor =>
    match graph.object? ancestor with
    | some object => object.hasVisibleField
    | none => false

end Graph

end HeaderSynth
