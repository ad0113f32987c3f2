import HeaderSynth.Reflection.Flags
import HeaderSynth.Reflection.ObjectId

/-!
# Fields and their types

A field is a slot, its name, flags and place in memory, together with a type.
The parts of a composite type are fields themselves; here each of them stands
as its slot followed by its type, so that types form a plain tree.
-/

namespace HeaderSynth

/-- Everything about a field except its type. -/
structure Slot where
  name : String
  flags : PropertyFlags := .none
  /-- The number of elements of a fixed array, 1 for a single value. -/
  arrayDim : UInt32 := 1
  /-- The place in the memory of the owner. -/
  offset : UInt64 := 0
  /-- The function to call when a replicated field changes. -/
  repNotify : Option String := none
deriving DecidableEq, Repr, Inhabited

/-- The flavour of an object reference. -/
inductive ObjectReference where
  | raw
  | ptr
  | weak
  | lazy
  | soft
deriving DecidableEq, Repr

/-- The flavour of a class reference. -/
inductive ClassReference where
  | raw
  | ptr
  | soft
deriving DecidableEq, Repr

/-- The type of a field. -/
inductive FieldKind where
  | int8
  | int16
  | int32
  | int64
  | uint16
  | uint32
  | uint64
  | float
  | double
  /-- A byte, perhaps with the entries of an enumeration as values. -/
  | byte (enumType : Option ObjectId)
  /-- A scoped enumeration over a numeric type. -/
  | enum (enumType : Option ObjectId) (slot : Slot) (underlying : FieldKind)
  /-- A truth value, perhaps in a byte that it shares with others. -/
  | bool (byteOffset : UInt64) (mask : UInt8)
  | object (reference : ObjectReference) (target : Option ObjectId)
  | classRef (reference : ClassReference) (metaClass : Option ObjectId)
  | interface (target : Option ObjectId)
  | struct (structType : Option ObjectId)
  | delegate (signature : Option ObjectId) (multicast : Bool)
  /-- A path to a reflected field of the given class. -/
  | fieldPath (fieldClass : String)
  | name
  | str
  | text
  | array (slot : Slot) (inner : FieldKind)
  | set (slot : Slot) (element : FieldKind)
  | map (keySlot : Slot) (key : FieldKind) (valueSlot : Slot) (value : FieldKind)
  /-- A field class that could not be classified. -/
  | unsupported (className : String)
deriving DecidableEq, Repr, Inhabited

/-- A typed member, parameter or part of a composite type. -/
structure Field extends Slot where
  kind : FieldKind
deriving DecidableEq, Repr, Inhabited

/-- The mask of a truth value that has its byte for itself. -/
def wholeByte : UInt8 := 0xFF

namespace FieldKind

def plainBool : FieldKind := .bool 0 wholeByte

def objectRef (target : Option ObjectId) : FieldKind := .object .raw target

def arrayOf (inner : FieldKind) : FieldKind :=
  .array ⟨"Inner", .none, 1, 0, none⟩ inner

def setOf (element : FieldKind) : FieldKind :=
  .set ⟨"Element", .none, 1, 0, none⟩ element

def mapOf (key value : FieldKind) : FieldKind :=
  .map ⟨"Key", .none, 1, 0, none⟩ key ⟨"Value", .none, 1, 0, none⟩ value

end FieldKind

namespace Field

/-- A field without flags, at the start of its owner. -/
def plain (name : String) (kind : FieldKind) : Field :=
  { name, kind }

/-- A parameter. -/
def param (name : String) (kind : FieldKind) (flags : PropertyFlags) : Field :=
  { name, kind, flags := flags ||| PropertyFlags.parm }

/-- The slot of a return value. -/
def returnValue (kind : FieldKind) : Field :=
  { name := "ReturnValue", kind,
    flags := PropertyFlags.parm ||| PropertyFlags.outParm ||| PropertyFlags.returnParm }

end Field

end HeaderSynth
