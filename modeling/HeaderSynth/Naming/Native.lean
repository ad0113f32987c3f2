import HeaderSynth.Reflection.Graph
import HeaderSynth.Text.Case

/-!
# Native names

Native code puts a letter in front of the name of a type: `A` for classes that
derive from the root actor, `U` for other classes, `I` for the contract of an
interface, `F` for aggregates and delegates.  Enumerations keep their name.
-/

namespace HeaderSynth

def corePackage : String := "/Script/CoreUObject"

def enginePackage : String := "/Script/Engine"

/-- The name of a delegate without the ending of its signature. -/
def delegateBaseName (name : String) : String :=
  (Text.beforeSuffix? delegateSuffix name).getD name

/-- The name of an enumeration entry without the name of the enumeration. -/
def entryBaseName (name : String) : String :=
  match Text.afterScope? name.toList with
  | some rest => String.ofList rest
  | none => name

/-- The macro that exports a symbol from a module. -/
def apiMacro (module : String) : String :=
  Text.toUpper module ++ "_API"

namespace Graph

/-- Whether an object is the one called `name` in the core package. -/
def isCoreObject (graph : Graph) (name : String) (id : ObjectId) : Bool :=
  match graph.object? id with
  | some object => object.name = name && object.package = corePackage
  | none => false

def isRootObject (graph : Graph) (id : ObjectId) : Bool :=
  graph.isCoreObject "Object" id

def isRootInterface (graph : Graph) (id : ObjectId) : Bool :=
  graph.isCoreObject "Interface" id

/-- The native name of a class, or of the class that reflects an interface. -/
def className (graph : Graph) (id : ObjectId) : String :=
  let name := ((graph.object? id).map (·.name)).getD "Object"
  (if graph.isChildOf id enginePackage "Actor" then "A" else "U") ++ name

/-- The native name of the contract of an interface. -/
def contractName (graph : Graph) (id : ObjectId) : String :=
  "I" ++ ((graph.object? id).map (·.name)).getD "Object"

def structName (graph : Graph) (id : ObjectId) : String :=
  "F" ++ ((graph.object? id).map (·.name)).getD ""

/-- The name of an enumeration. -/
def enumName (graph : Graph) (id : ObjectId) : String :=
  ((graph.object? id).map (·.name)).getD ""

/-- The name of an enumeration where a type is expected. -/
def enumTypeName (graph : Graph) (id : ObjectId) : String :=
  match graph.object? id with
  | none => ""
  | some object =>
    match object.enumInfo? with
    | some info => if info.form = .namespaced then object.name ++ "::Type" else object.name
    | none => object.name

def delegateName (graph : Graph) (id : ObjectId) : String :=
  "F" ++ delegateBaseName (((graph.object? id).map (·.name)).getD "")

end Graph

end HeaderSynth
