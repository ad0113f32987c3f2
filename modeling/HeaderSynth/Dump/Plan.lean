import HeaderSynth.Config.Basic
import HeaderSynth.Naming.Header

/-!
# The plan of a dump

Which objects of a graph get files, in which order, and under which names.
-/

namespace HeaderSynth

/-- The kinds of objects that get files, in the order in which they are written. -/
inductive Category where
  | delegate
  /-- Classes and interfaces. -/
  | classType
  | structType
  | enumType
deriving DecidableEq, Repr

def Category.all : List Category := [.delegate, .classType, .structType, .enumType]

/-- The category of an object that gets files.  Classes, interfaces and aggregates must
be native, and a delegate signature must stand directly in its package. -/
def Object.category? (object : Object) : Option Category :=
  match object.kind with
  | .classType info => if info.flags.contains ClassFlags.native then some .classType else none
  | .interfaceType info => if info.flags.contains ClassFlags.native then some .classType else none
  | .structType info => if info.flags.contains StructFlags.native then some .structType else none
  | .enumType _ => some .enumType
  | .function _ =>
    if object.outer.isNone && object.isDelegateSignature then some .delegate else none
  | .instanceOf _ => none

/-- An object and the name of its files. -/
structure PlannedObject where
  id : ObjectId
  module : String
  baseName : String
deriving DecidableEq, Repr

namespace Graph

/-- The module that receives the files of an object.  There is none for packages
outside all modules and for modules that are left out. -/
def moduleFor? (graph : Graph) (config : Config) (id : ObjectId) : Option String :=
  let module := graph.moduleName id
  if module = "" || config.ignoresModule module then none else some module

/-- The objects of one category that get files, in the order of the graph. -/
def eligible (graph : Graph) (config : Config) (category : Category) : List ObjectId :=
  graph.ids.filter fun id =>
    (graph.moduleFor? config id).isSome &&
      (graph.object? id).bind (·.category?) = some category

/-- Every object that gets files, in the order in which they are written. -/
def processingOrder (graph : Graph) (config : Config) : List ObjectId :=
  Category.all.flatMap (graph.eligible config)

/-- Claims names for objects one after the other. -/
def planObjects (graph : Graph) (config : Config) (names : NameRegistry) :
    List ObjectId → Except GenerateError (NameRegistry × List PlannedObject)
  | [] => .ok (names, [])
  | id :: rest =>
    match graph.moduleFor? config id with
    | none => graph.planObjects config names rest
    | some module => do
      let owner := graph.headerOwner id
      let (names, baseName) := names.claim (← graph.headerName owner) owner
      let (names, planned) ← graph.planObjects config names rest
      return (names, ⟨id, module, baseName⟩ :: planned)

/-- The objects that get files, with their names, and the registry of these names. -/
def plan (graph : Graph) (config : Config) :
    Except GenerateError (NameRegistry × List PlannedObject) :=
  graph.planObjects config .empty (graph.processingOrder config)

end Graph

end HeaderSynth
