import HeaderSynth.Proofs.Text.Brackets
import Mathlib

/-!
# Arguments of macros

The arguments of a macro are read behind its opening bracket, up to the bracket that closes it,
and are cut at the commas that stand in no further brackets.  Angle brackets protect nothing, so a
text adds as many arguments as it has commas outside of round brackets.
-/

namespace HeaderSynth.Text

/-- The arguments of a macro from inside of `depth` further brackets on, and what stands behind the
bracket that closes them, if one does. -/
def readArguments (depth : Nat) : List Char → Option (List (List Char) × List Char)
  | [] => none
  | c :: rest =>
    if c = ')' ∧ depth = 0 then some ([[]], rest)
    else if c = ',' ∧ depth = 0 then
      (readArguments 0 rest).map fun (arguments, after) => ([] :: arguments, after)
    else
      (readArguments (nestingAfter depth c) rest).map fun (arguments, after) =>
        (arguments.modifyHead (c :: ·), after)

/-- A text without the signs that part and enclose arguments. -/
def IsPlain (text : String) : Prop :=
  ∀ c ∈ text.toList, c ≠ ',' ∧ c ≠ '(' ∧ c ≠ ')'

instance (text : String) : Decidable (IsPlain text) :=
  List.decidableBAll _ text.toList

theorem IsPlain.append {text other : String} (h : IsPlain text) (hother : IsPlain other) :
    IsPlain (text ++ other) := by
  intro c hc
  rw [String.toList_append] at hc
  exact (List.mem_append.mp hc).elim (h c) (hother c)

/-- In front of whatever is read inside of `depth` brackets, the text adds `count` arguments. -/
def AddsArguments (depth count : Nat) (text : String) : Prop :=
  ∀ ⦃rest after : List Char⦄ ⦃arguments : List (List Char)⦄,
    readArguments depth rest = some (arguments, after) →
    ∃ more, readArguments depth (text.toList ++ rest) = some (more, after) ∧
      more.length = count + arguments.length

namespace AddsArguments

variable {depth count more : Nat} {text other : String}

theorem empty (depth : Nat) : AddsArguments depth 0 "" := by
  intro rest after arguments hrest
  exact ⟨arguments, hrest, (Nat.zero_add _).symm⟩

theorem append (h : AddsArguments depth count text) (hother : AddsArguments depth more other) :
    AddsArguments depth (count + more) (text ++ other) := by
  intro rest after arguments hrest
  obtain ⟨inner, hinner, hinnerLength⟩ := hother hrest
  obtain ⟨all, hall, hallLength⟩ := h hinner
  refine ⟨all, ?_, ?_⟩
  · rw [String.toList_append, List.append_assoc]
    exact hall
  · rw [hallLength, hinnerLength, Nat.add_assoc]

theorem of_isPlain (h : IsPlain text) : AddsArguments depth 0 text := by
  intro rest after arguments hrest
  have hchars : ∀ chars : List Char, (∀ c ∈ chars, c ≠ ',' ∧ c ≠ '(' ∧ c ≠ ')') →
      ∃ more, readArguments depth (chars ++ rest) = some (more, after) ∧
        more.length = 0 + arguments.length := by
    intro chars hplain
    induction chars with
    | nil => exact ⟨arguments, hrest, (Nat.zero_add _).symm⟩
    | cons c chars ih =>
        obtain ⟨⟨hcomma, hopen, hclose⟩, hplain⟩ := List.forall_mem_cons.mp hplain
        obtain ⟨inner, hinner, hlength⟩ := ih hplain
        have hnesting : nestingAfter depth c = depth := by
          rw [nestingAfter, if_neg hopen, if_neg hclose]
        refine ⟨inner.modifyHead (c :: ·), ?_, ?_⟩
        · rw [List.cons_append, readArguments, if_neg (fun hc => hclose hc.1),
            if_neg (fun hc => hcomma hc.1), hnesting, hinner]
          rfl
        · rw [List.length_modifyHead, hlength]
  exact hchars text.toList h

/-- Plain texts around a text add nothing to it. -/
theorem enclose {left right : String} (hleft : IsPlain left)
    (h : AddsArguments depth count text) (hright : IsPlain right) :
    AddsArguments depth count (left ++ text ++ right) := by
  have hall := ((of_isPlain hleft).append h).append (of_isPlain hright)
  rwa [Nat.zero_add, Nat.add_zero] at hall

/-- A comma outside of further brackets begins another argument. -/
theorem separator : AddsArguments 0 1 ", " := by
  intro rest after arguments hrest
  have hblank : AddsArguments 0 0 " " := of_isPlain (by decide)
  obtain ⟨inner, hinner, hlength⟩ := hblank hrest
  refine ⟨[] :: inner, ?_, ?_⟩
  · have hcomma : readArguments 0 (',' :: (" ".toList ++ rest)) =
        (readArguments 0 (" ".toList ++ rest)).map fun (arguments, after) =>
          ([] :: arguments, after) := rfl
    exact hcomma.trans (congrArg _ hinner)
  · rw [List.length_cons, hlength]
    omega

/-- Inside of further brackets no comma begins another argument. -/
theorem protected_separator (depth : Nat) : AddsArguments (depth + 1) 0 ", " := by
  intro rest after arguments hrest
  refine ⟨(arguments.modifyHead (' ' :: ·)).modifyHead (',' :: ·), ?_, ?_⟩
  · have hread : readArguments (depth + 1) (", ".toList ++ rest) =
        ((readArguments (depth + 1) rest).map fun (arguments, after) =>
          (arguments.modifyHead (' ' :: ·), after)).map fun (arguments, after) =>
            (arguments.modifyHead (',' :: ·), after) := rfl
    rw [hread, hrest]
    rfl
  · rw [List.length_modifyHead, List.length_modifyHead, Nat.zero_add]

theorem brackets (h : AddsArguments (depth + 1) count text) :
    AddsArguments depth count ("(" ++ text ++ ")") := by
  intro rest after arguments hrest
  have hclosing : readArguments (depth + 1) (')' :: rest) =
      some (arguments.modifyHead (')' :: ·), after) := by
    have hread : readArguments (depth + 1) (')' :: rest) =
        (readArguments depth rest).map fun (arguments, after) =>
          (arguments.modifyHead (')' :: ·), after) := rfl
    rw [hread, hrest]
    rfl
  obtain ⟨inner, hinner, hlength⟩ := h hclosing
  refine ⟨inner.modifyHead ('(' :: ·), ?_, ?_⟩
  · have hopening : readArguments depth ('(' :: (text.toList ++ ')' :: rest)) =
        (readArguments (depth + 1) (text.toList ++ ')' :: rest)).map fun (arguments, after) =>
          (arguments.modifyHead ('(' :: ·), after) := rfl
    simp only [String.toList_append, List.append_assoc]
    exact hopening.trans (by rw [hinner]; rfl)
  · rw [List.length_modifyHead, hlength, List.length_modifyHead]

/-- Of texts in a row each adds its own arguments, and each separator adds others. -/
theorem intercalate {separator : String} {between : Nat} {counts : List Nat} {texts : List String}
    (hseparator : AddsArguments depth between separator)
    (h : List.Forall₂ (AddsArguments depth) counts texts) :
    AddsArguments depth (counts.sum + between * (texts.length - 1))
      (separator.intercalate texts) := by
  induction h with
  | nil => exact empty depth
  | cons htext hrest ih =>
      rename_i count text _ _
      cases hrest with
      | nil => simpa using htext
      | cons hnext hlast =>
          rename_i next _ later texts
          have hjoined := (htext.append hseparator).append ih
          rw [String.intercalate_cons_cons]
          have hcount : (count :: next :: later).sum + between * (texts.length + 1) =
              count + between + ((next :: later).sum + between * texts.length) := by
            rw [List.sum_cons, Nat.mul_add_one]
            omega
          exact hcount ▸ hjoined

end AddsArguments

end HeaderSynth.Text
