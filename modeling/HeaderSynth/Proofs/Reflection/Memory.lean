import HeaderSynth.Reflection.Field
import HeaderSynth.Reflection.Instance
import Mathlib.Algebra.Group.Int.Defs
import Mathlib.Algebra.Group.Nat.Defs
import Mathlib.Tactic.SplitIfs

/-!
# Integers in memory

An integral type keeps a value in a fixed count of bytes, in two's complement and with the low
byte first.  A signed read of these bytes gives back each value below the upper half of the
words.  A value of the upper half, which only a type without negative values has, comes back
too small by the number of words.
-/

namespace HeaderSynth

/-! ## Bytes -/

theorem length_littleEndianBytes (width n : Nat) : (littleEndianBytes width n).length = width := by
  induction width generalizing n with
  | zero => rfl
  | succ width ih => rw [littleEndianBytes, List.length_cons, ih]

theorem littleEndian_littleEndianBytes (width n : Nat) :
    littleEndian (littleEndianBytes width n) = n % 256 ^ width := by
  induction width generalizing n with
  | zero => rw [Nat.pow_zero, Nat.mod_one]; rfl
  | succ width ih =>
      have hdigits : n % 256 ^ (width + 1) = n % 256 + 256 * (n / 256 % 256 ^ width) := by
        rw [Nat.pow_succ', Nat.mod_mul]
      rw [littleEndianBytes, littleEndian, ih, UInt8.toNat_ofNat', hdigits]

theorem littleEndian_lt (bytes : List UInt8) : littleEndian bytes < 256 ^ bytes.length := by
  induction bytes with
  | nil => decide
  | cons byte bytes ih =>
      have hbyte : byte.toNat < 256 := byte.toNat_lt
      rw [littleEndian, List.length_cons, Nat.pow_succ]
      omega

theorem littleEndianBytes_littleEndian (bytes : List UInt8) :
    littleEndianBytes bytes.length (littleEndian bytes) = bytes := by
  induction bytes with
  | nil => rfl
  | cons byte bytes ih =>
      have hbyte : byte.toNat < 256 := byte.toNat_lt
      have hlow : UInt8.ofNat (byte.toNat + 256 * littleEndian bytes) = byte := by
        apply UInt8.toNat_inj.mp
        rw [UInt8.toNat_ofNat']
        omega
      have hhigh : (byte.toNat + 256 * littleEndian bytes) / 256 = littleEndian bytes := by omega
      rw [List.length_cons, littleEndian, littleEndianBytes, hlow, hhigh, ih]

namespace Instance

/-- Bytes that stand in memory can be read. -/
theorem read_eq_ok {memory : Instance} {offset length : Nat} {data : List UInt8}
    (hpositive : 0 < length) (hlength : data.length = length)
    (h : (memory.bytes.drop offset).take length = data) : memory.read offset length = .ok data := by
  have hcount := congrArg List.length h
  rw [List.length_take, List.length_drop] at hcount
  have hbound : offset + length ≤ memory.size := by
    rw [size]
    omega
  rw [read, if_pos hbound, h]

theorem readUnsigned_eq_ok {memory : Instance} {offset width n : Nat} (hwidth : 0 < width)
    (hlong : width ≤ 8)
    (h : (memory.bytes.drop offset).take width = littleEndianBytes width n) :
    memory.readUnsigned offset width = .ok (n % 256 ^ width) := by
  have hread := read_eq_ok hwidth (length_littleEndianBytes width n) h
  rw [readUnsigned, Nat.min_eq_left hlong, hread, ← littleEndian_littleEndianBytes]
  rfl

theorem signBits_eq {width : Nat} (hwidth : 0 < width) (hlong : width ≤ 8) :
    signBits width = 8 * width := by
  rw [signBits]
  split
  · omega
  · omega

theorem readSigned_eq_ok {memory : Instance} {offset width n : Nat} (hwidth : 0 < width)
    (hlong : width ≤ 8)
    (h : (memory.bytes.drop offset).take width = littleEndianBytes width n) :
    memory.readSigned offset width = .ok (signedWord (8 * width) n) := by
  have hpower : 256 ^ width = 2 ^ (8 * width) := by rw [Nat.pow_mul]
  have hword : signedWord (8 * width) (n % 256 ^ width) = signedWord (8 * width) n := by
    simp only [signedWord, Nat.pow_eq, hpower, Nat.mod_mod]
  rw [readSigned, readUnsigned_eq_ok hwidth hlong h, signBits_eq hwidth hlong, ← hword]
  rfl

end Instance

/-! ## Integral types -/

/-- An integral type. -/
structure IntegerType where
  /-- Half of the words stand for negative values. -/
  signed : Bool
  /-- The bytes of a value. -/
  width : Nat
deriving DecidableEq, Repr

/-- The integral type that a field kind stands for. -/
def FieldKind.integerType? : FieldKind → Option IntegerType
  | .int8 => some ⟨true, 1⟩
  | .int16 => some ⟨true, 2⟩
  | .int32 => some ⟨true, 4⟩
  | .int64 => some ⟨true, 8⟩
  | .byte _ => some ⟨false, 1⟩
  | .uint16 => some ⟨false, 2⟩
  | .uint32 => some ⟨false, 4⟩
  | .uint64 => some ⟨false, 8⟩
  | _ => none

namespace IntegerType

/-- The number of words of a type. -/
def words (type : IntegerType) : Int :=
  2 ^ (8 * type.width)

/-- The values of a type. -/
def Represents (type : IntegerType) (value : Int) : Prop :=
  if type.signed then -type.words ≤ 2 * value ∧ 2 * value < type.words
  else 0 ≤ value ∧ value < type.words

instance (type : IntegerType) (value : Int) : Decidable (type.Represents value) :=
  inferInstanceAs (Decidable (if type.signed then -type.words ≤ 2 * value ∧ 2 * value < type.words
    else 0 ≤ value ∧ value < type.words))

/-- The bytes that keep a value: two's complement, the low byte first. -/
def encode (type : IntegerType) (value : Int) : List UInt8 :=
  littleEndianBytes type.width (value % type.words).toNat

/-- The value that a signed read finds. -/
def signedReading (type : IntegerType) (value : Int) : Int :=
  if 2 * value < type.words then value else value - type.words

theorem words_pos (type : IntegerType) : 0 < type.words :=
  Int.pow_pos (by decide)

/-- The word of a value: a negative one is counted from the end. -/
theorem emod_words {type : IntegerType} {value : Int} (h : type.Represents value) :
    value % type.words = if value < 0 then value + type.words else value := by
  have hrange : -type.words ≤ value ∧ value < type.words := by
    rw [Represents] at h
    split_ifs at h
    · omega
    · omega
  split_ifs with hnegative
  · rw [← Int.add_emod_right]
    exact Int.emod_eq_of_lt (by omega) (by omega)
  · exact Int.emod_eq_of_lt (by omega) (by omega)

/-- A signed read of the word of a value. -/
theorem signedWord_encode {type : IntegerType} {value : Int} (h : type.Represents value) :
    signedWord (8 * type.width) (value % type.words).toNat = type.signedReading value := by
  have hpositive := type.words_pos
  have hlower : -type.words ≤ 2 * value := by
    rw [Represents] at h
    split_ifs at h
    · exact h.1
    · omega
  have hmodulus : ((Nat.pow 2 (8 * type.width) : Nat) : Int) = type.words := by
    simp [words]
  have hlow : (((value % type.words).toNat % Nat.pow 2 (8 * type.width) : Nat) : Int) =
      value % type.words := by
    rw [Int.natCast_emod, hmodulus, Int.toNat_of_nonneg (Int.emod_nonneg _ (by omega)),
      Int.emod_emod]
  have hhalf : 2 * ((value % type.words).toNat % Nat.pow 2 (8 * type.width)) <
      Nat.pow 2 (8 * type.width) ↔ 2 * (value % type.words) < type.words := by
    omega
  simp only [signedWord, signedReading, hlow, hmodulus, hhalf]
  rw [emod_words h]
  split_ifs
  all_goals omega

/-- A signed read loses exactly the values of the upper half. -/
theorem signedReading_eq_self_iff (type : IntegerType) (value : Int) :
    type.signedReading value = value ↔ 2 * value < type.words := by
  have hpositive := type.words_pos
  rw [signedReading]
  split_ifs
  · omega
  · omega

theorem lt_words_of_signed {type : IntegerType} {value : Int} (h : type.Represents value)
    (hsigned : type.signed) : 2 * value < type.words := by
  rw [Represents, if_pos hsigned] at h
  exact h.2

theorem natCast_pow_width (type : IntegerType) : ((256 ^ type.width : Nat) : Int) = type.words := by
  rw [words, Int.natCast_pow, Int.pow_mul]
  rfl

/-- Bytes of the right count keep a value. -/
theorem exists_encode_eq {type : IntegerType} {bytes : List UInt8}
    (h : bytes.length = type.width) :
    ∃ value, type.Represents value ∧ bytes = type.encode value := by
  have hword : (littleEndian bytes : Int) < type.words := by
    rw [← type.natCast_pow_width, ← h]
    exact Int.ofNat_lt.mpr (littleEndian_lt bytes)
  have hencode : ∀ value : Int, value % type.words = littleEndian bytes →
      bytes = type.encode value := by
    intro value hvalue
    rw [encode, hvalue, Int.toNat_natCast, ← h, littleEndianBytes_littleEndian]
  by_cases hhigh : type.signed ∧ type.words ≤ 2 * littleEndian bytes
  · refine ⟨littleEndian bytes - type.words, ?_, hencode _ ?_⟩
    · rw [Represents, if_pos hhigh.1]
      omega
    · rw [Int.sub_emod_right, Int.emod_eq_of_lt (by omega) hword]
  · refine ⟨littleEndian bytes, ?_, hencode _ (Int.emod_eq_of_lt (by omega) hword)⟩
    rw [Represents]
    split_ifs with hsigned
    · have hlow := not_and.mp hhigh hsigned
      omega
    · omega

end IntegerType

/-- A signed read of the bytes of a value. -/
theorem Instance.readSigned_encode {memory : Instance} {offset : Nat} {type : IntegerType}
    {value : Int} (hwidth : 0 < type.width ∧ type.width ≤ 8) (h : type.Represents value)
    (hbytes : (memory.bytes.drop offset).take type.width = type.encode value) :
    memory.readSigned offset type.width = .ok (type.signedReading value) := by
  rw [readSigned_eq_ok hwidth.1 hwidth.2 hbytes, IntegerType.signedWord_encode h]

/-- An unsigned read of the bytes of a value that cannot be negative. -/
theorem Instance.readUnsigned_encode {memory : Instance} {offset : Nat} {type : IntegerType}
    {value : Int} (hwidth : 0 < type.width ∧ type.width ≤ 8) (h : type.Represents value)
    (hunsigned : type.signed = false)
    (hbytes : (memory.bytes.drop offset).take type.width = type.encode value) :
    memory.readUnsigned offset type.width = .ok value.toNat := by
  rw [IntegerType.Represents, hunsigned, if_neg Bool.false_ne_true] at h
  have hword : value.toNat < 256 ^ type.width := by
    rw [Int.toNat_lt h.1, type.natCast_pow_width]
    exact h.2
  rw [readUnsigned_eq_ok hwidth.1 hwidth.2 hbytes, Int.emod_eq_of_lt h.1 h.2,
    Nat.mod_eq_of_lt hword]

end HeaderSynth
