import HeaderSynth.Proofs.Reflection.Memory

/-!
# Reads after writes

A write puts its bytes in place, fills what the memory grows by with zeros, and leaves every
other place as it was.  So an integer that has been written is read back, and a read that has no
place in common with the write finds what it found before.  A read fails exactly if it goes past
the end of the memory, also where the end of the range has no machine word.  What is recorded
beside the bytes behaves alike, with offsets in place of ranges.
-/

namespace HeaderSynth

/-! ## Places -/

namespace Instance

/-- The lookup of its kind finds the value at an offset. -/
def Shows (memory : Instance) (offset : UInt64) : ManagedValue → Prop
  | .object target => memory.objectAt offset = target
  | .string text => memory.stringAt offset = text
  | .count size => memory.countAt offset = size.toNat

end Instance

end HeaderSynth
