import Mathlib.Data.List.Basic

/-!
# Lists with brackets

A list whose items have lists in brackets is read by cutting it at the commas outside of all
brackets.  A text that closes the brackets it opens, and has no comma outside of them, stays in
one piece; so items of this kind are recovered from the list of them, however deep they nest.
-/

namespace HeaderSynth.Text

/-- The number of brackets that are open behind a character. -/
def nestingAfter (depth : Nat) (c : Char) : Nat :=
  if c = '(' then depth + 1 else if c = ')' then depth - 1 else depth

/-- Cuts a text, which begins inside of `depth` brackets, at the commas outside of all. -/
def splitOutside (depth : Nat) : List Char → List (List Char)
  | [] => [[]]
  | c :: rest =>
    if c = ',' ∧ depth = 0 then [] :: splitOutside 0 rest
    else (splitOutside (nestingAfter depth c) rest).modifyHead (c :: ·)

/-- Wherever at least `base` brackets are open, the text is not cut and leaves them open. -/
def StaysWhole (base : Nat) (text : List Char) : Prop :=
  ∀ depth, base ≤ depth → ∀ rest,
    splitOutside depth (text ++ rest) = (splitOutside depth rest).modifyHead (text ++ ·)

namespace StaysWhole

variable {base : Nat} {text other : List Char}

theorem nil (base : Nat) : StaysWhole base [] := by
  intro depth _ rest
  exact (congrFun List.modifyHead_id _).symm

/-- More brackets around a text do no harm. -/
theorem mono {outer : Nat} (h : StaysWhole base text) (hle : base ≤ outer) :
    StaysWhole outer text :=
  fun depth hdepth => h depth (Nat.le_trans hle hdepth)

theorem append (h : StaysWhole base text) (hother : StaysWhole base other) :
    StaysWhole base (text ++ other) := by
  intro depth hdepth rest
  rw [List.append_assoc, h depth hdepth, hother depth hdepth, List.modifyHead_modifyHead]
  congr 1
  funext piece
  exact (List.append_assoc text other piece).symm

/-- A comma is harmless inside of brackets. -/
theorem char {c : Char} (hcomma : c = ',' → 0 < base) (hopen : c ≠ '(') (hclose : c ≠ ')') :
    StaysWhole base [c] := by
  intro depth hdepth rest
  have hwhole : ¬(c = ',' ∧ depth = 0) := by
    rintro ⟨hc, hzero⟩
    have hpos := hcomma hc
    omega
  have hnesting : nestingAfter depth c = depth := by
    rw [nestingAfter, if_neg hopen, if_neg hclose]
  rw [List.singleton_append, splitOutside, if_neg hwhole, hnesting]
  rfl

theorem of_forall_mem (h : ∀ c ∈ text, c ≠ ',' ∧ c ≠ '(' ∧ c ≠ ')') : StaysWhole base text := by
  induction text with
  | nil => exact nil base
  | cons c rest ih =>
      obtain ⟨⟨hcomma, hopen, hclose⟩, hrest⟩ := List.forall_mem_cons.mp h
      exact (char (fun hc => absurd hc hcomma) hopen hclose).append (ih hrest)

/-- Brackets protect what is between them. -/
theorem brackets (h : StaysWhole (base + 1) text) : StaysWhole base ('(' :: (text ++ [')'])) := by
  intro depth hdepth rest
  have hopening : splitOutside depth ('(' :: (text ++ ')' :: rest)) =
      (splitOutside (depth + 1) (text ++ ')' :: rest)).modifyHead ('(' :: ·) := rfl
  have hclosing : splitOutside (depth + 1) (')' :: rest) =
      (splitOutside depth rest).modifyHead (')' :: ·) := rfl
  rw [List.cons_append, List.append_assoc, List.singleton_append, hopening,
    h (depth + 1) (Nat.succ_le_succ hdepth), hclosing, List.modifyHead_modifyHead,
    List.modifyHead_modifyHead]
  congr 1
  funext piece
  simp

theorem intercalate {separator : List Char} {pieces : List (List Char)}
    (hseparator : StaysWhole base separator) (h : ∀ piece ∈ pieces, StaysWhole base piece) :
    StaysWhole base (separator.intercalate pieces) := by
  induction pieces with
  | nil => exact nil base
  | cons piece rest ih =>
      obtain ⟨hpiece, hrest⟩ := List.forall_mem_cons.mp h
      cases rest with
      | nil => simpa using hpiece
      | cons next rest =>
          rw [List.intercalate_cons_cons]
          exact (hpiece.append hseparator).append (ih hrest)

end StaysWhole

/-- The items of a list are what is between the commas outside of all brackets. -/
theorem splitOutside_intercalate {pieces : List (List Char)}
    (h : ∀ piece ∈ pieces, StaysWhole 0 piece) (hpieces : pieces ≠ []) :
    splitOutside 0 ([','].intercalate pieces) = pieces := by
  induction pieces with
  | nil => exact absurd rfl hpieces
  | cons piece rest ih =>
      obtain ⟨hpiece, hrest⟩ := List.forall_mem_cons.mp h
      cases rest with
      | nil =>
          have hlast := hpiece 0 (Nat.le_refl 0) []
          simpa [splitOutside] using hlast
      | cons next rest =>
          have hcomma : ∀ after, splitOutside 0 (',' :: after) = [] :: splitOutside 0 after :=
            fun _ => rfl
          rw [List.intercalate_cons_cons, List.append_assoc, hpiece 0 (Nat.le_refl 0),
            List.singleton_append, hcomma, ih hrest (List.cons_ne_nil next rest)]
          simp

end HeaderSynth.Text
