import HeaderSynth.Sorted.Set
import Mathlib.Data.List.Lex
import Mathlib.Tactic.SplitIfs

/-!
# Byte order

Texts are listed in code point order.  An encoded character with a smaller code point is
smaller at the first byte where the two differ, so this is also the order of the UTF-8 bytes.
-/

namespace HeaderSynth.Text

/-- The bytes of a text in UTF-8. -/
def utf8 (text : String) : List UInt8 :=
  text.toUTF8.data.toList

theorem utf8_eq_flatMap (text : String) :
    utf8 text = text.toList.flatMap String.utf8EncodeChar := by
  obtain ⟨characters, rfl⟩ : ∃ characters, text = String.ofList characters :=
    ⟨text.toList, String.ofList_toList.symm⟩
  rw [utf8, String.toUTF8_eq_toByteArray, String.toList_ofList]
  show (characters.flatMap String.utf8EncodeChar).toByteArray.data.toList = _
  rw [List.data_toByteArray]

/-- Numbers are ordered by their digits to the base 64, the leading ones first. -/
theorem lt_iff_digits (low high : Nat) :
    low < high ↔ low / 64 < high / 64 ∨ low / 64 = high / 64 ∧ low % 64 < high % 64 := by
  omega

/-- A smaller character has the smaller encoding, whatever follows. -/
theorem encode_append_lt {first second : Char} (h : first < second) (rest others : List UInt8) :
    String.utf8EncodeChar first ++ rest < String.utf8EncodeChar second ++ others := by
  have hvalue : first.val.toNat < second.val.toNat := h
  have hvalid : second.val.toNat < 1114112 := by
    have hsecond : second.val.toNat.isValidChar := second.valid
    rw [Nat.isValidChar] at hsecond
    omega
  simp only [String.utf8EncodeChar]
  generalize first.val.toNat = low at hvalue
  generalize second.val.toNat = high at hvalue hvalid
  -- Up to four digits to the base 64, each of the later ones in a byte of its own.
  have hdigits := (lt_iff_digits low high).mp hvalue
  rw [lt_iff_digits (low / 64), lt_iff_digits (low / 64 / 64)] at hdigits
  simp only [Nat.div_div_eq_div_mul, Nat.reduceMul] at hdigits
  have hlow : (low / 262144 % 8 + 240) % 256 = low / 262144 + 240 := by omega
  have hhigh : (high / 262144 % 8 + 240) % 256 = high / 262144 + 240 := by omega
  split_ifs <;>
    simp only [List.cons_append, List.nil_append, List.cons_lt_cons_iff, UInt8.lt_iff_toNat_lt,
      ← UInt8.toNat_inj, UInt8.toNat_ofNat', hlow, hhigh] <;> omega

/-- Smaller texts have smaller bytes. -/
theorem flatMap_encode_lt {first second : List Char} (h : first < second) :
    first.flatMap String.utf8EncodeChar < second.flatMap String.utf8EncodeChar := by
  induction first generalizing second with
  | nil =>
      cases second with
      | nil => exact absurd h (List.lt_irrefl _)
      | cons c rest =>
          obtain ⟨byte, bytes, hencoded⟩ :=
            List.exists_cons_of_ne_nil (@String.utf8EncodeChar_ne_nil c)
          rw [List.flatMap_nil, List.flatMap_cons, hencoded]
          exact List.nil_lt_cons ..
  | cons c rest ih =>
      cases second with
      | nil => exact absurd h (List.not_lt_nil _)
      | cons d others =>
          rw [List.flatMap_cons, List.flatMap_cons]
          rcases List.cons_lt_cons_iff.mp h with hlt | ⟨rfl, hrest⟩
          · exact encode_append_lt hlt _ _
          · exact List.append_left_lt (ih hrest)

theorem utf8_lt_of_precedes {first second : String} (h : precedes first second = true) :
    utf8 first < utf8 second := by
  have hcharacters : first.toList < second.toList := precedes_eq_true.mp h
  rw [utf8_eq_flatMap, utf8_eq_flatMap]
  exact flatMap_encode_lt hcharacters

/-- Code point order is byte order. -/
theorem precedes_iff_utf8_lt (first second : String) :
    precedes first second = true ↔ utf8 first < utf8 second := by
  refine ⟨utf8_lt_of_precedes, fun hbytes => ?_⟩
  by_contra hnot
  rw [Bool.not_eq_true] at hnot
  cases hother : precedes second first with
  | true => exact List.lt_asymm hbytes (utf8_lt_of_precedes hother)
  | false =>
      have hsame : first = second := Ordered.total first second hnot hother
      rw [hsame] at hbytes
      exact List.lt_irrefl _ hbytes

/-- Texts listed in strictly increasing byte order. -/
def InByteOrder (texts : List String) : Prop :=
  texts.Pairwise fun first second => utf8 first < utf8 second

theorem inByteOrder_iff_ascending (texts : List String) :
    InByteOrder texts ↔ Ascending texts := by
  rw [InByteOrder, Ascending]
  exact List.Pairwise.iff (fun first second => (precedes_iff_utf8_lt first second).symm)

end HeaderSynth.Text
