import HeaderSynth.Text.Hex

/-!
# Flag masks

Every descriptor carries one bit mask.  The masks differ in width and in the
bits that a descendant receives from its ancestor; everything else is common to
them.  `own` removes what the ancestor guarantees, `merge` puts it back.
-/

namespace HeaderSynth

/-- What a mask describes. -/
inductive FlagKind where
  | classes
  | structs
  | properties
  | functions
  | enums
  | objects
deriving DecidableEq, Repr

def FlagKind.width : FlagKind → Nat
  | .properties => 64
  | _ => 32

/-- A bit mask of one kind. -/
structure Flags (kind : FlagKind) where
  bits : BitVec kind.width
deriving DecidableEq, Repr

abbrev ClassFlags := Flags .classes
abbrev StructFlags := Flags .structs
abbrev PropertyFlags := Flags .properties
abbrev FunctionFlags := Flags .functions
abbrev EnumFlags := Flags .enums
abbrev ObjectFlags := Flags .objects

namespace Flags

variable {kind : FlagKind}

def none : Flags kind := ⟨0⟩

instance : Inhabited (Flags kind) := ⟨none⟩

/-- The mask of a number, cut to the width of the kind. -/
def ofNat (n : Nat) : Flags kind := ⟨BitVec.ofNat _ n⟩

def toNat (flags : Flags kind) : Nat :=
  flags.bits.toNat

/-- The mask widened to 64 bits. -/
def raw (flags : Flags kind) : BitVec 64 :=
  flags.bits.setWidth 64

/-- Whether every bit of `other` is set. -/
def contains (flags other : Flags kind) : Bool :=
  flags.bits &&& other.bits == other.bits

/-- Whether some bit of `other` is set. -/
def intersects (flags other : Flags kind) : Bool :=
  flags.bits &&& other.bits != 0

def union (flags other : Flags kind) : Flags kind := ⟨flags.bits ||| other.bits⟩

def intersection (flags other : Flags kind) : Flags kind := ⟨flags.bits &&& other.bits⟩

def difference (flags other : Flags kind) : Flags kind := ⟨flags.bits &&& ~~~other.bits⟩

instance : OrOp (Flags kind) := ⟨union⟩

def isEmpty (flags : Flags kind) : Bool :=
  flags.bits == 0

def render (flags : Flags kind) : String :=
  "0x" ++ String.ofList (Text.hexDigits .upper flags.toNat)

end Flags

namespace ClassFlags

def abstract : ClassFlags := ⟨0x1⟩
def defaultConfig : ClassFlags := ⟨0x2⟩
def config : ClassFlags := ⟨0x4⟩
def transient : ClassFlags := ⟨0x8⟩
def projectUserConfig : ClassFlags := ⟨0x40⟩
/-- Backed by native code. -/
def native : ClassFlags := ⟨0x80⟩
def noExport : ClassFlags := ⟨0x100⟩
def notPlaceable : ClassFlags := ⟨0x200⟩
def perObjectConfig : ClassFlags := ⟨0x400⟩
def editInlineNew : ClassFlags := ⟨0x1000⟩
def collapseCategories : ClassFlags := ⟨0x2000⟩
def const : ClassFlags := ⟨0x10000⟩
def minimalApi : ClassFlags := ⟨0x80000⟩
/-- Exported from its module. -/
def requiredApi : ClassFlags := ⟨0x100000⟩
def defaultToInstanced : ClassFlags := ⟨0x200000⟩
def hasInstancedReference : ClassFlags := ⟨0x800000⟩
def deprecated : ClassFlags := ⟨0x2000000⟩
def hideDropDown : ClassFlags := ⟨0x4000000⟩
def globalUserConfig : ClassFlags := ⟨0x8000000⟩
def configDoNotCheckDefaults : ClassFlags := ⟨0x40000000⟩

end ClassFlags

namespace StructFlags

def native : StructFlags := ⟨0x1⟩
def identicalNative : StructFlags := ⟨0x2⟩
def hasInstancedReference : StructFlags := ⟨0x4⟩
def noExport : StructFlags := ⟨0x8⟩
def atomic : StructFlags := ⟨0x10⟩
def immutable : StructFlags := ⟨0x20⟩
def addStructReferencedObjects : StructFlags := ⟨0x40⟩
/-- Exported from its module. -/
def requiredApi : StructFlags := ⟨0x200⟩
def netSerializeNative : StructFlags := ⟨0x400⟩
def serializeNative : StructFlags := ⟨0x800⟩
def copyNative : StructFlags := ⟨0x1000⟩
def isPlainOldData : StructFlags := ⟨0x2000⟩
def noDestructor : StructFlags := ⟨0x4000⟩
def zeroConstructor : StructFlags := ⟨0x8000⟩
def exportTextItemNative : StructFlags := ⟨0x10000⟩
def importTextItemNative : StructFlags := ⟨0x20000⟩
def postSerializeNative : StructFlags := ⟨0x40000⟩
def serializeFromMismatchedTag : StructFlags := ⟨0x80000⟩
def netDeltaSerializeNative : StructFlags := ⟨0x100000⟩
def postScriptConstruct : StructFlags := ⟨0x200000⟩
def netSharedSerialization : StructFlags := ⟨0x400000⟩

/-- Bits that follow from native traits and are never written by hand. -/
def computed : StructFlags :=
  netDeltaSerializeNative ||| netSerializeNative ||| serializeNative ||| postSerializeNative |||
    copyNative ||| isPlainOldData ||| noDestructor ||| zeroConstructor ||| identicalNative |||
    addStructReferencedObjects ||| exportTextItemNative ||| importTextItemNative |||
    serializeFromMismatchedTag ||| postScriptConstruct ||| netSharedSerialization

end StructFlags

namespace PropertyFlags

def edit : PropertyFlags := ⟨0x1⟩
def constParm : PropertyFlags := ⟨0x2⟩
/-- Readable from scripts. -/
def blueprintVisible : PropertyFlags := ⟨0x4⟩
def exportObject : PropertyFlags := ⟨0x8⟩
def blueprintReadOnly : PropertyFlags := ⟨0x10⟩
/-- Replicated over the network. -/
def net : PropertyFlags := ⟨0x20⟩
def editFixedSize : PropertyFlags := ⟨0x40⟩
def parm : PropertyFlags := ⟨0x80⟩
def outParm : PropertyFlags := ⟨0x100⟩
def returnParm : PropertyFlags := ⟨0x400⟩
def disableEditOnTemplate : PropertyFlags := ⟨0x800⟩
def transient : PropertyFlags := ⟨0x2000⟩
def config : PropertyFlags := ⟨0x4000⟩
def disableEditOnInstance : PropertyFlags := ⟨0x10000⟩
def editConst : PropertyFlags := ⟨0x20000⟩
def globalConfig : PropertyFlags := ⟨0x40000⟩
def instancedReference : PropertyFlags := ⟨0x80000⟩
def duplicateTransient : PropertyFlags := ⟨0x200000⟩
def saveGame : PropertyFlags := ⟨0x1000000⟩
def noClear : PropertyFlags := ⟨0x2000000⟩
def referenceParm : PropertyFlags := ⟨0x8000000⟩
def blueprintAssignable : PropertyFlags := ⟨0x10000000⟩
def repSkip : PropertyFlags := ⟨0x80000000⟩
def repNotify : PropertyFlags := ⟨0x100000000⟩
def interp : PropertyFlags := ⟨0x200000000⟩
def nonTransactional : PropertyFlags := ⟨0x400000000⟩
def containsInstancedReference : PropertyFlags := ⟨0x8000000000⟩
def assetRegistrySearchable : PropertyFlags := ⟨0x10000000000⟩
def simpleDisplay : PropertyFlags := ⟨0x20000000000⟩
def advancedDisplay : PropertyFlags := ⟨0x40000000000⟩
def blueprintCallable : PropertyFlags := ⟨0x100000000000⟩
def blueprintAuthorityOnly : PropertyFlags := ⟨0x200000000000⟩
def textExportTransient : PropertyFlags := ⟨0x400000000000⟩
def nonPieDuplicateTransient : PropertyFlags := ⟨0x800000000000⟩
def nativeAccessPublic : PropertyFlags := ⟨0x10000000000000⟩
def nativeAccessProtected : PropertyFlags := ⟨0x20000000000000⟩
def nativeAccessPrivate : PropertyFlags := ⟨0x40000000000000⟩
def skipSerialization : PropertyFlags := ⟨0x80000000000000⟩

end PropertyFlags

namespace FunctionFlags

def blueprintAuthorityOnly : FunctionFlags := ⟨0x4⟩
def blueprintCosmetic : FunctionFlags := ⟨0x8⟩
/-- Called over the network. -/
def net : FunctionFlags := ⟨0x40⟩
def netReliable : FunctionFlags := ⟨0x80⟩
def netRequest : FunctionFlags := ⟨0x100⟩
def exec : FunctionFlags := ⟨0x200⟩
def native : FunctionFlags := ⟨0x400⟩
def event : FunctionFlags := ⟨0x800⟩
def netResponse : FunctionFlags := ⟨0x1000⟩
def static : FunctionFlags := ⟨0x2000⟩
def netMulticast : FunctionFlags := ⟨0x4000⟩
def multicastDelegate : FunctionFlags := ⟨0x10000⟩
def accessPublic : FunctionFlags := ⟨0x20000⟩
def accessPrivate : FunctionFlags := ⟨0x40000⟩
def accessProtected : FunctionFlags := ⟨0x80000⟩
/-- Marks a delegate signature. -/
def delegate : FunctionFlags := ⟨0x100000⟩
def netServer : FunctionFlags := ⟨0x200000⟩
def netClient : FunctionFlags := ⟨0x1000000⟩
def blueprintCallable : FunctionFlags := ⟨0x4000000⟩
def blueprintEvent : FunctionFlags := ⟨0x8000000⟩
def blueprintPure : FunctionFlags := ⟨0x10000000⟩
def const : FunctionFlags := ⟨0x40000000⟩
def netValidate : FunctionFlags := ⟨0x80000000⟩

end FunctionFlags

namespace EnumFlags

/-- The entries are bits that can be combined. -/
def flags : EnumFlags := ⟨0x1⟩

end EnumFlags

namespace ObjectFlags

/-- Owned by its outer object and created by that object's constructor. -/
def defaultSubObject : ObjectFlags := ⟨0x40000⟩

end ObjectFlags

namespace Flags

/-- The bits that a descendant receives from its ancestor. -/
def inherited : (kind : FlagKind) → Flags kind
  | .classes =>
    ClassFlags.transient ||| ClassFlags.defaultConfig ||| ClassFlags.config |||
      ClassFlags.perObjectConfig ||| ClassFlags.configDoNotCheckDefaults |||
      ClassFlags.notPlaceable ||| ClassFlags.const ||| ClassFlags.hasInstancedReference |||
      ClassFlags.deprecated ||| ClassFlags.defaultToInstanced ||| ClassFlags.globalUserConfig |||
      ClassFlags.projectUserConfig
  | .structs => StructFlags.hasInstancedReference ||| StructFlags.atomic
  | .functions =>
    FunctionFlags.exec ||| FunctionFlags.event ||| FunctionFlags.blueprintCallable |||
      FunctionFlags.blueprintEvent ||| FunctionFlags.blueprintAuthorityOnly |||
      FunctionFlags.blueprintCosmetic ||| FunctionFlags.const
  | _ => none

variable {kind : FlagKind}

/-- What the ancestor guarantees. -/
def guaranteed (parent : Option (Flags kind)) : Flags kind :=
  (parent.getD none).intersection (inherited kind)

/-- The bits that the ancestor does not already guarantee. -/
def own (current : Flags kind) (parent : Option (Flags kind)) : Flags kind :=
  current.difference (guaranteed parent)

/-- Own bits together with those the ancestor guarantees. -/
def merge (own : Flags kind) (parent : Option (Flags kind)) : Flags kind :=
  own.union (guaranteed parent)

end Flags

end HeaderSynth
