import HeaderSynth.Text.Hex
import Mathlib.Algebra.Group.Nat.Defs

/-!
# Hexadecimal numbers

A number is written with a fixed count of digits or with as many as it needs.  Reading the
digits gives the number back, in the first case without the digits that were dropped.
-/

namespace HeaderSynth.Text

/-- A digit of either case. -/
def isHex (c : Char) : Bool :=
  (hexValue? c).isSome

theorem hexValue?_hexDigit (letters : HexCase) {n : Nat} (hn : n < 16) :
    hexValue? (hexDigit letters n) = some n := by
  have hall : ∀ n < 16, hexValue? (hexDigit letters n) = some n := by
    cases letters with
    | lower => decide
    | upper => decide
  exact hall n hn

theorem isHex_hexDigit (letters : HexCase) {n : Nat} (hn : n < 16) :
    isHex (hexDigit letters n) = true := by
  rw [isHex, hexValue?_hexDigit letters hn]
  rfl

/-- A run of characters ends where one follows that does not belong to it. -/
theorem takeWhile_append_stop {p : Char → Bool} {first rest : List Char}
    (hfirst : ∀ c ∈ first, p c = true) (hrest : rest.head?.all (!p ·) = true) :
    (first ++ rest).takeWhile p = first ∧ (first ++ rest).dropWhile p = rest := by
  have hstop : rest.takeWhile p = [] ∧ rest.dropWhile p = rest := by
    cases rest with
    | nil => exact ⟨rfl, rfl⟩
    | cons c rest =>
        have hc : p c = false := by simpa using hrest
        simp [hc]
  rw [List.takeWhile_append_of_pos hfirst, List.dropWhile_append_of_pos hfirst, hstop.1, hstop.2]
  exact ⟨List.append_nil first, rfl⟩

/-- One more digit at the end. -/
theorem hexNumber?_concat {digits : List Char} {value n : Nat} (letters : HexCase)
    (hvalue : hexNumber? digits = some value) (hn : n < 16) :
    hexNumber? (digits ++ [hexDigit letters n]) = some (16 * value + n) := by
  rw [hexNumber?] at hvalue ⊢
  rw [List.foldlM_append, hvalue]
  simp [hexValue?_hexDigit letters hn]

/-! ## A fixed count of digits -/

theorem length_hexWord (letters : HexCase) (width n : Nat) :
    (hexWord letters width n).length = width := by
  induction width generalizing n with
  | zero => rfl
  | succ width ih => rw [hexWord, List.length_append, ih, List.length_singleton]

theorem isHex_of_mem_hexWord {letters : HexCase} {width n : Nat} {c : Char}
    (hc : c ∈ hexWord letters width n) : isHex c = true := by
  induction width generalizing n with
  | zero => cases hc
  | succ width ih =>
      rcases List.mem_append.mp hc with hc | hc
      · exact ih hc
      · rw [List.mem_singleton.mp hc]
        exact isHex_hexDigit letters (Nat.mod_lt n (by decide))

theorem hexNumber?_hexWord (letters : HexCase) (width n : Nat) :
    hexNumber? (hexWord letters width n) = some (n % 16 ^ width) := by
  induction width generalizing n with
  | zero => rw [Nat.pow_zero, Nat.mod_one]; rfl
  | succ width ih =>
      have hsplit : 16 * (n / 16 % 16 ^ width) + n % 16 = n % 16 ^ (width + 1) := by
        rw [Nat.pow_succ', Nat.mod_mul, Nat.add_comm]
      rw [hexWord, hexNumber?_concat letters (ih (n / 16)) (Nat.mod_lt n (by decide)), hsplit]

/-! ## As many digits as needed -/

theorem hexDigits_ne_nil (letters : HexCase) (n : Nat) : hexDigits letters n ≠ [] := by
  rw [hexDigits]
  split
  · simp
  · simp

theorem isHex_of_mem_hexDigits {letters : HexCase} {n : Nat} {c : Char}
    (hc : c ∈ hexDigits letters n) : isHex c = true := by
  induction n using hexDigits.induct with
  | case1 n hn =>
      rw [hexDigits, if_pos hn, List.mem_singleton] at hc
      rw [hc]
      exact isHex_hexDigit letters hn
  | case2 n hn ih =>
      rw [hexDigits, if_neg hn] at hc
      rcases List.mem_append.mp hc with hc | hc
      · exact ih hc
      · rw [List.mem_singleton.mp hc]
        exact isHex_hexDigit letters (Nat.mod_lt n (by decide))

theorem hexNumber?_hexDigits (letters : HexCase) (n : Nat) :
    hexNumber? (hexDigits letters n) = some n := by
  induction n using hexDigits.induct with
  | case1 n hn =>
      rw [hexDigits, if_pos hn]
      simp [hexNumber?, hexValue?_hexDigit letters hn]
  | case2 n hn ih =>
      rw [hexDigits, if_neg hn, hexNumber?_concat letters ih (Nat.mod_lt n (by decide)),
        Nat.div_add_mod]

end HeaderSynth.Text
