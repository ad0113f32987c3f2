import HeaderSynth.Reflection.Field
import HeaderSynth.Reflection.Instance
import HeaderSynth.Text.Affix

/-!
# Reflected objects

Every object has a name, a package, an optional outer object and a payload that
depends on its kind.  Fields stand inside the payload; methods and delegate
signatures are objects of their own, whose outer is the type that declares them.
-/

namespace HeaderSynth

/-- The payload of a class or interface. -/
structure ClassInfo where
  flags : ClassFlags
  superClass : Option ObjectId := none
  /-- The class that the outer of an instance must have. -/
  within : Option ObjectId := none
  /-- The category of configuration files. -/
  configName : String := ""
  /-- The implemented interfaces, in order. -/
  interfaces : List ObjectId := []
  fields : List Field := []
  /-- Methods and nested delegate signatures, in order. -/
  functions : List ObjectId := []
  /-- The memory of the default object. -/
  defaultObject : Option Instance := none
deriving DecidableEq, Repr

/-- The payload of a value aggregate. -/
structure StructInfo where
  flags : StructFlags
  superStruct : Option ObjectId := none
  fields : List Field := []
  /-- The size of one instance in bytes. -/
  size : UInt64 := 0
  /-- The memory of a default-constructed instance. -/
  defaultInstance : Option Instance := none
deriving DecidableEq, Repr

/-- How an enumeration is written. -/
inductive EnumForm where
  | regular
  /-- An enumeration inside a namespace of its own. -/
  | namespaced
  | enumClass
deriving DecidableEq, Repr, Inhabited

structure EnumEntry where
  /-- The name, perhaps qualified by that of the enumeration. -/
  name : String
  value : Int64
deriving DecidableEq, Repr

structure EnumInfo where
  form : EnumForm := .regular
  flags : EnumFlags := .none
  entries : List EnumEntry := []
deriving DecidableEq, Repr

/-- The name of the first entry with a value. -/
def EnumInfo.nameOf? (info : EnumInfo) (value : Int) : Option String :=
  (info.entries.find? (·.value.toInt = value)).map (·.name)

/-- The payload of a method or delegate signature. -/
structure MethodInfo where
  flags : FunctionFlags
  /-- The parameters in order, with the slot of the return value. -/
  params : List Field := []
  /-- A multicast delegate that its owner stores sparsely. -/
  sparse : Bool := false
deriving DecidableEq, Repr

/-- The slot of the return value. -/
def MethodInfo.returnParam? (method : MethodInfo) : Option Field :=
  method.params.find? (·.flags.contains PropertyFlags.returnParm)

/-- The parameters without the slot of the return value. -/
def MethodInfo.parameters (method : MethodInfo) : List Field :=
  method.params.filter fun param =>
    param.flags.contains PropertyFlags.parm && !param.flags.contains PropertyFlags.returnParm

/-- The payload of an object. -/
inductive ObjectKind where
  | classType (info : ClassInfo)
  | interfaceType (info : ClassInfo)
  | structType (info : StructInfo)
  | enumType (info : EnumInfo)
  | function (info : MethodInfo)
  /-- An object that declares nothing, such as a default sub-object. -/
  | instanceOf (type : Option ObjectId)
deriving DecidableEq, Repr

/-- One object of a reflection graph. -/
structure Object where
  /-- The name without the letter that native code puts in front of it. -/
  name : String
  package : String
  /-- The owner; an object directly in its package has none. -/
  outer : Option ObjectId := none
  objectFlags : ObjectFlags := .none
  kind : ObjectKind
deriving DecidableEq, Repr

/-- The ending of the name of a delegate signature. -/
def delegateSuffix : String := "__DelegateSignature"

namespace Object

/-- The payload of a class or interface. -/
def classInfo? (object : Object) : Option ClassInfo :=
  match object.kind with
  | .classType info => some info
  | .interfaceType info => some info
  | _ => none

def structInfo? (object : Object) : Option StructInfo :=
  match object.kind with
  | .structType info => some info
  | _ => none

def enumInfo? (object : Object) : Option EnumInfo :=
  match object.kind with
  | .enumType info => some info
  | _ => none

def methodInfo? (object : Object) : Option MethodInfo :=
  match object.kind with
  | .function info => some info
  | _ => none

def isClass (object : Object) : Bool :=
  match object.kind with
  | .classType _ => true
  | _ => false

def isInterface (object : Object) : Bool :=
  match object.kind with
  | .interfaceType _ => true
  | _ => false

/-- The super type of a class, interface or aggregate. -/
def super? (object : Object) : Option ObjectId :=
  match object.kind with
  | .classType info => info.superClass
  | .interfaceType info => info.superClass
  | .structType info => info.superStruct
  | _ => none

/-- The fields that the type itself declares. -/
def fields (object : Object) : List Field :=
  match object.kind with
  | .classType info => info.fields
  | .interfaceType info => info.fields
  | .structType info => info.fields
  | _ => []

/-- A function with the delegate flag. -/
def isFlaggedDelegate (object : Object) : Bool :=
  match object.kind with
  | .function info => info.flags.contains FunctionFlags.delegate
  | _ => false

/-- A function that is flagged, or merely named, as a delegate signature. -/
def isDelegateSignature (object : Object) : Bool :=
  match object.kind with
  | .function info =>
    info.flags.contains FunctionFlags.delegate || Text.hasSuffix delegateSuffix object.name
  | _ => false

end Object

end HeaderSynth
