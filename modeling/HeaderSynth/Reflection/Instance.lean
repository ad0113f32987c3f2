import HeaderSynth.Reflection.ObjectId

/-!
# Memory of default instances

A default instance is a string of bytes, little end first.  What the host keeps
behind pointers cannot be read from the bytes, so it is recorded beside them
under the offset of its field.
-/

namespace HeaderSynth

/-- A value that the host keeps behind a pointer. -/
inductive ManagedValue where
  /-- An object reference, or a null pointer. -/
  | object (target : Option ObjectId)
  /-- The contents of a string, name or text. -/
  | string (text : String)
  /-- The number of elements of a container. -/
  | count (size : UInt64)
deriving DecidableEq, Repr

structure ManagedSlot where
  offset : UInt64
  value : ManagedValue
deriving DecidableEq, Repr

/-- The memory of one default instance. -/
structure Instance where
  bytes : List UInt8
  managed : List ManagedSlot
deriving DecidableEq, Repr, Inhabited

/-- A read past the end of an instance. -/
structure OutOfBounds where
  offset : Nat
  length : Nat
  size : Nat
deriving DecidableEq, Repr

def OutOfBounds.message (failure : OutOfBounds) : String :=
  s!"Instance read of {failure.length} bytes at offset {failure.offset}" ++
    s!" exceeds instance size {failure.size}"

/-- The number that bytes stand for, the lowest first. -/
def littleEndian : List UInt8 → Nat
  | [] => 0
  | byte :: bytes => byte.toNat + 256 * littleEndian bytes

/-- The lowest `width` bytes of a number, the lowest first. -/
def littleEndianBytes : Nat → Nat → List UInt8
  | 0, _ => []
  | width + 1, n => UInt8.ofNat n :: littleEndianBytes width (n / 256)

/-- The signed reading of the lowest `bits` bits of a number. -/
def signedWord (bits n : Nat) : Int :=
  let modulus := Nat.pow 2 bits
  let low := n % modulus
  if 2 * low < modulus then low else (low : Int) - modulus

namespace Instance

/-- Memory of `size` zero bytes. -/
def zeroed (size : Nat) : Instance where
  bytes := List.replicate size 0
  managed := []

/-- The most bytes that memory can have. -/
def maxSize : UInt64 := 0x7FFFFFFFFFFFFFFF

/-- Memory of `size` zero bytes, if memory can have that many. -/
def zeroed? (size : UInt64) : Option Instance :=
  if size ≤ maxSize then some (zeroed size.toNat) else none

def size (memory : Instance) : Nat :=
  memory.bytes.length

def isEmpty (memory : Instance) : Bool :=
  memory.bytes.isEmpty

/-- `length` bytes from `offset` on. -/
def read (memory : Instance) (offset length : Nat) : Except OutOfBounds (List UInt8) :=
  if offset + length ≤ memory.size then .ok ((memory.bytes.drop offset).take length)
  else .error ⟨offset, length, memory.size⟩

def readByte (memory : Instance) (offset : Nat) : Except OutOfBounds Nat := do
  return littleEndian (← memory.read offset 1)

/-- The number in the `width` bytes at `offset`; eight bytes are the most that
are read. -/
def readUnsigned (memory : Instance) (offset width : Nat) : Except OutOfBounds Nat := do
  return littleEndian (← memory.read offset (min width 8))

/-- The bits that the sign of a word of `width` bytes extends over.  Widths count
modulo the eight bytes of the longest word. -/
def signBits (width : Nat) : Nat :=
  if 8 * width % 64 = 0 then 64 else 8 * width % 64

/-- The signed number in the `width` bytes at `offset`. -/
def readSigned (memory : Instance) (offset width : Nat) : Except OutOfBounds Int := do
  return signedWord (signBits width) (← memory.readUnsigned offset width)

/-- The value recorded first for `offset`. -/
def managedAt? (memory : Instance) (offset : UInt64) : Option ManagedValue :=
  (memory.managed.find? (·.offset = offset)).map (·.value)

/-- The object referenced at `offset`; nothing recorded is a null pointer. -/
def objectAt (memory : Instance) (offset : UInt64) : Option ObjectId :=
  match memory.managedAt? offset with
  | some (.object target) => target
  | _ => none

/-- The text at `offset`; nothing recorded is the empty text. -/
def stringAt (memory : Instance) (offset : UInt64) : String :=
  match memory.managedAt? offset with
  | some (.string text) => text
  | _ => ""

/-- The number of elements at `offset`; nothing recorded is an empty container. -/
def countAt (memory : Instance) (offset : UInt64) : Nat :=
  match memory.managedAt? offset with
  | some (.count size) => size.toNat
  | _ => 0

/-- Writes bytes at `offset`; memory that is too short grows by zero bytes. -/
def write (memory : Instance) (offset : Nat) (data : List UInt8) : Instance :=
  let grown := memory.bytes ++ List.replicate (offset + data.length - memory.size) 0
  { memory with bytes := grown.take offset ++ data ++ grown.drop (offset + data.length) }

/-- Writes the lowest `width` bytes of a number at `offset`. -/
def writeWord (memory : Instance) (offset width value : Nat) : Instance :=
  memory.write offset (littleEndianBytes width value)

/-- Records a value for `offset` in place of the ones recorded before. -/
def setManaged (memory : Instance) (offset : UInt64) (value : ManagedValue) : Instance :=
  { memory with managed := memory.managed.filter (·.offset ≠ offset) ++ [⟨offset, value⟩] }

end Instance

end HeaderSynth
