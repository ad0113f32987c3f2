import HeaderSynth.Text.Case

/-!
# Lower case

Lower case looks around a character only for a capital sigma.  A text without one is converted
character by character, and there a capital at the beginning makes no difference, at least where
all characters are ASCII.
-/

namespace HeaderSynth.Text

/-- All characters of the text are ASCII. -/
def IsAscii (text : String) : Prop :=
  ∀ c ∈ text.toList, c.toNat < 128

instance (text : String) : Decidable (IsAscii text) :=
  List.decidableBAll (fun c : Char => c.toNat < 128) text.toList

theorem lowerAfter_of_not_mem {text : List Char} (h : 'Σ' ∉ text) (passed : List Char) :
    lowerAfter passed text = text.flatMap lowerChar := by
  induction text generalizing passed with
  | nil => rfl
  | cons c rest ih =>
      have hfirst : c ≠ 'Σ' := by
        intro heq
        exact h (heq ▸ List.mem_cons_self)
      have hrest : 'Σ' ∉ rest := fun hmem => h (List.mem_cons_of_mem c hmem)
      rw [lowerAfter, if_neg hfirst, ih hrest, List.flatMap_cons]

theorem not_mem_of_isAscii {text : String} (h : IsAscii text) : 'Σ' ∉ text.toList := by
  intro hmem
  exact absurd (h 'Σ' hmem) (by decide)

theorem lowerChar_upperChar_ofNat : ∀ n < 128,
    (upperChar (Char.ofNat n)).flatMap lowerChar = lowerChar (Char.ofNat n) ∧
      'Σ' ∉ upperChar (Char.ofNat n) := by
  decide +kernel

theorem flatMap_lowerChar_upperChar {c : Char} (h : c.toNat < 128) :
    (upperChar c).flatMap lowerChar = lowerChar c ∧ 'Σ' ∉ upperChar c := by
  have hcode := lowerChar_upperChar_ofNat c.toNat h
  rwa [Char.ofNat_toNat] at hcode

/-- Lower case forgets a capital at the beginning of a word, also behind an ASCII text. -/
theorem toLower_append_capitalize {start name : String} (hstart : IsAscii start)
    (hname : IsAscii name) : toLower (start ++ capitalize name) = toLower start ++ toLower name := by
  have hplain : ∀ text : String, IsAscii text → (toLower text).toList =
      text.toList.flatMap lowerChar := by
    intro text htext
    rw [toLower, String.toList_ofList, lowerAfter_of_not_mem (not_mem_of_isAscii htext)]
  apply String.toList_inj.mp
  rw [String.toList_append, hplain start hstart, hplain name hname]
  cases hchars : name.toList with
  | nil =>
      have hempty : capitalize name = "" := by rw [capitalize, hchars]
      rw [hempty, String.append_empty, hplain start hstart, List.flatMap_nil, List.append_nil]
  | cons c rest =>
      have hfirst := flatMap_lowerChar_upperChar (hname c (hchars ▸ List.mem_cons_self))
      have hrest : 'Σ' ∉ rest := by
        intro hmem
        exact not_mem_of_isAscii hname (hchars ▸ List.mem_cons_of_mem c hmem)
      have hwhole : 'Σ' ∉ start.toList ++ (upperChar c ++ rest) := by
        simp only [List.mem_append, not_or]
        exact ⟨not_mem_of_isAscii hstart, hfirst.2, hrest⟩
      rw [capitalize, hchars, toLower, String.toList_ofList, String.toList_append,
        String.toList_ofList, lowerAfter_of_not_mem hwhole, List.flatMap_append,
        List.flatMap_append, hfirst.1, List.flatMap_cons]

end HeaderSynth.Text
