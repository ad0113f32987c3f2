import HeaderSynth.Declaration.Literal
import HeaderSynth.Json.Escape
import HeaderSynth.Proofs.Text.Hexadecimal
import Mathlib.Tactic.SplitIfs

/-!
# What a string literal denotes

A compiler reads `TEXT("...")` by rules of its own: a quote without a backslash before it ends
the literal, a numeric escape takes every hexadecimal digit behind it, and adjacent literals
are joined.  The literal of a text denotes the UTF-16 units of the text under these rules, for
every text.  The point of the argument is that an escape of four digits is never followed by a
fifth one.
-/

namespace HeaderSynth

open Text (isHex hexWord hexNumber?)

/-! ## Reading literals -/

/-- A part of a literal. -/
inductive LiteralPart where
  /-- A character that stands for itself. -/
  | plain (c : Char)
  /-- A backslash and a letter. -/
  | escape (letter : Char)
  /-- A backslash, an `x` and all hexadecimal digits that follow. -/
  | numeric (digits : List Char)
deriving DecidableEq, Repr

/-- The unit of a backslash and a letter. -/
def escapedUnit? (letter : Char) : Option Nat :=
  match letter with
  | 'n' => some 0x0A
  | 'r' => some 0x0D
  | 't' => some 0x09
  | '\\' => some 0x5C
  | '"' => some 0x22
  | _ => none

/-- The unit that a part stands for; an escape without digits stands for none. -/
def LiteralPart.unit? : LiteralPart → Option Nat
  | .plain c => some c.toNat
  | .escape letter => escapedUnit? letter
  | .numeric [] => none
  | .numeric digits => hexNumber? digits

/-- Reads on from inside a literal, to the end of the last literal that is adjacent. -/
def insideParts? : List Char → Option (List LiteralPart)
  | ['"', ')'] => some []
  | '"' :: ')' :: 'T' :: 'E' :: 'X' :: 'T' :: '(' :: '"' :: rest => insideParts? rest
  | '\\' :: 'x' :: rest =>
    (insideParts? (rest.dropWhile isHex)).map (.numeric (rest.takeWhile isHex) :: ·)
  | '\\' :: letter :: rest => (insideParts? rest).map (.escape letter :: ·)
  | c :: rest =>
    if c = '"' ∨ c = '\\' ∨ !isPrintableAscii c then none
    else (insideParts? rest).map (.plain c :: ·)
  | [] => none
termination_by text => text.length
decreasing_by
  all_goals simp only [List.length_cons]
  · omega
  · have := (rest.dropWhile_sublist isHex).length_le
    omega
  · omega
  · omega

/-- The parts of one or more adjacent literals. -/
def literalParts? : List Char → Option (List LiteralPart)
  | 'T' :: 'E' :: 'X' :: 'T' :: '(' :: '"' :: rest => insideParts? rest
  | _ => none

/-! ## One part after another -/

/-- Reading on from inside a literal yields `units`, and no numeric escape has more digits or
fewer than the four that are written. -/
def DenotesInside (text : List Char) (units : List Nat) : Prop :=
  ∃ parts, insideParts? text = some parts ∧ parts.mapM LiteralPart.unit? = some units ∧
    ∀ digits, .numeric digits ∈ parts → digits.length = 4

theorem denotesInside_closing : DenotesInside ['"', ')'] [] := by
  refine ⟨[], ?_, rfl, by simp⟩
  rw [insideParts?]

namespace DenotesInside

variable {rest : List Char} {units : List Nat}

/-- Where a literal is closed and opened again, reading goes on. -/
theorem reopening (h : DenotesInside rest units) :
    DenotesInside (HeaderSynth.reopening ++ rest) units := by
  have hopened : insideParts? (HeaderSynth.reopening ++ rest) = insideParts? rest := by
    show insideParts? ('"' :: ')' :: 'T' :: 'E' :: 'X' :: 'T' :: '(' :: '"' :: rest) = _
    rw [insideParts?]
  rw [DenotesInside, hopened]
  exact h

/-- A part before the others that is no numeric escape of another length. -/
theorem cons {text : List Char} {unit : Nat} (part : LiteralPart) (h : DenotesInside rest units)
    (htext : insideParts? text = (insideParts? rest).map (part :: ·))
    (hunit : part.unit? = some unit)
    (hpart : ∀ digits, part = .numeric digits → digits.length = 4) :
    DenotesInside text (unit :: units) := by
  obtain ⟨parts, hparts, hunits, hdigits⟩ := h
  refine ⟨part :: parts, by rw [htext, hparts, Option.map_some], ?_, ?_⟩
  · simp [List.mapM_cons, hunit, hunits]
  · intro digits hmem
    rcases List.mem_cons.mp hmem with hsame | hmem
    · exact hpart digits hsame.symm
    · exact hdigits digits hmem

theorem escape {letter : Char} {unit : Nat} (h : DenotesInside rest units)
    (hunit : escapedUnit? letter = some unit) :
    DenotesInside ('\\' :: letter :: rest) (unit :: units) := by
  have hletter : letter ≠ 'x' := by
    rintro rfl
    cases hunit
  apply h.cons (.escape letter) _ hunit (by simp)
  rw [insideParts?]
  exact hletter

theorem plain {c : Char} (h : DenotesInside rest units) (hprintable : isPrintableAscii c = true)
    (hquote : c ≠ '"') (hslash : c ≠ '\\') : DenotesInside (c :: rest) (c.toNat :: units) := by
  apply h.cons (.plain c) _ rfl (by simp)
  rw [insideParts?]
  · simp [hprintable, hquote, hslash]
  all_goals simp [hquote, hslash]

/-- A numeric escape is read with exactly its digits where no other digit follows. -/
theorem unitEscape {n : Nat} (h : DenotesInside rest units) (hn : n < 0x10000)
    (hrest : rest.head?.all (!isHex ·)) :
    DenotesInside (HeaderSynth.unitEscape n ++ rest) (n :: units) := by
  have hlength := Text.length_hexWord .upper 4 n
  have hhex : ∀ c ∈ hexWord .upper 4 n, isHex c = true := fun _ hc => Text.isHex_of_mem_hexWord hc
  obtain ⟨htaken, hdropped⟩ := Text.takeWhile_append_stop hhex hrest
  apply h.cons (.numeric (hexWord .upper 4 n))
  · show insideParts? ('\\' :: 'x' :: (hexWord .upper 4 n ++ rest)) = _
    rw [insideParts?, htaken, hdropped]
  · cases hdigits : hexWord .upper 4 n with
    | nil =>
        rw [hdigits] at hlength
        cases hlength
    | cons digit digits =>
        have hword : n % 16 ^ 4 = n := Nat.mod_eq_of_lt hn
        rw [LiteralPart.unit?, ← hdigits, Text.hexNumber?_hexWord, hword]
        simp
  · rintro digits ⟨⟩
    exact hlength

/-- Several numeric escapes: a backslash ends the digits of the one before. -/
theorem unitEscapes {ns : List Nat} (h : DenotesInside rest units) (hns : ∀ n ∈ ns, n < 0x10000)
    (hrest : rest.head?.all (!isHex ·)) :
    DenotesInside (ns.flatMap HeaderSynth.unitEscape ++ rest) (ns ++ units) := by
  induction ns with
  | nil => exact h
  | cons n ns ih =>
      have hothers := ih fun other hother => hns other (List.mem_cons_of_mem n hother)
      rw [List.flatMap_cons, List.append_assoc, List.cons_append]
      apply hothers.unitEscape (hns n List.mem_cons_self)
      cases ns with
      | nil => exact hrest
      | cons other ns => rfl

end DenotesInside

/-! ## UTF-16 -/

/-- The characters of UTF-16 units: two surrogates stand for one character, and any other unit
for itself. -/
def charsOfUnits? (units : List Nat) : Option (List Char) :=
  Json.joinSurrogates <| units.map fun n =>
    if Json.isHighSurrogate n || Json.isLowSurrogate n then .inr n else .inl (Char.ofNat n)

theorem utf16Units_of_lt {c : Char} (hc : c.toNat < 0x10000) : utf16Units c = [c.toNat] :=
  if_pos hc

theorem utf16Units_lt (c : Char) : ∀ n ∈ utf16Units c, n < 0x10000 := by
  have hvalid : c.toNat < 0xD800 ∨ 0xDFFF < c.toNat ∧ c.toNat < 0x110000 := c.valid
  intro n hn
  by_cases hc : c.toNat < 0x10000
  · rw [utf16Units_of_lt hc, List.mem_singleton] at hn
    rwa [hn]
  · simp only [utf16Units, if_neg hc, List.mem_cons, List.not_mem_nil, or_false] at hn
    omega

/-- The units of a character are read back as the character, whatever follows. -/
theorem charsOfUnits?_append (c : Char) (rest : List Nat) :
    charsOfUnits? (utf16Units c ++ rest) = (charsOfUnits? rest).map (c :: ·) := by
  have hvalid : c.toNat < 0xD800 ∨ 0xDFFF < c.toNat ∧ c.toNat < 0x110000 := c.valid
  by_cases hc : c.toNat < 0x10000
  · have hplain : (Json.isHighSurrogate c.toNat || Json.isLowSurrogate c.toNat) = false := by
      simp only [Json.isHighSurrogate, Json.isLowSurrogate, Bool.or_eq_false_iff,
        Bool.and_eq_false_iff, decide_eq_false_iff_not]
      omega
    rw [utf16Units_of_lt hc, charsOfUnits?, List.singleton_append, List.map_cons, hplain]
    simp [Json.joinSurrogates, charsOfUnits?, Char.ofNat_toNat]
  · let high := 0xD800 + (c.toNat - 0x10000) / 0x400
    let low := 0xDC00 + (c.toNat - 0x10000) % 0x400
    have hunits : utf16Units c = [high, low] := if_neg hc
    have hhigh : Json.isHighSurrogate high = true := by
      simp only [Json.isHighSurrogate, Bool.and_eq_true, decide_eq_true_eq, high]
      omega
    have hlow : Json.isLowSurrogate low = true := by
      simp only [Json.isLowSurrogate, Bool.and_eq_true, decide_eq_true_eq, low]
      omega
    have hpair : Json.pairChar high low = c := by
      have hnumber : 0x10000 + (high - 0xD800) * 0x400 + (low - 0xDC00) = c.toNat := by
        simp only [high, low]
        omega
      rw [Json.pairChar, hnumber, Char.ofNat_toNat]
    rw [hunits, charsOfUnits?, List.cons_append, List.singleton_append, List.map_cons,
      List.map_cons, hhigh, hlow]
    simp [Json.joinSurrogates, charsOfUnits?, hhigh, hlow, hpair]

theorem charsOfUnits?_flatMap (text : List Char) :
    charsOfUnits? (text.flatMap utf16Units) = some text := by
  induction text with
  | nil => rfl
  | cons c text ih => rw [List.flatMap_cons, charsOfUnits?_append, ih, Option.map_some]

/-! ## Texts -/

/-- A character with an escape of its own is one unit, and the escape stands for it. -/
theorem namedEscape?_eq_some {c : Char} {escape : List Char} (h : namedEscape? c = some escape) :
    ∃ letter, escape = ['\\', letter] ∧ isPrintableAscii letter = true ∧
      escapedUnit? letter = some c.toNat ∧ utf16Units c = [c.toNat] := by
  rw [namedEscape?] at h
  split_ifs at h with hline hreturn htab hslash hquote
  · subst hline
    cases h
    exact ⟨'n', by decide⟩
  · subst hreturn
    cases h
    exact ⟨'r', by decide⟩
  · subst htab
    cases h
    exact ⟨'t', by decide⟩
  · subst hslash
    cases h
    exact ⟨'\\', by decide⟩
  · subst hquote
    cases h
    exact ⟨'"', by decide⟩

theorem ne_of_namedEscape?_eq_none {c : Char} (h : namedEscape? c = none) :
    c ≠ '"' ∧ c ≠ '\\' := by
  rw [namedEscape?] at h
  split_ifs at h with hline hreturn htab hslash hquote
  exact ⟨hquote, hslash⟩

theorem utf16Units_ne_nil (c : Char) : utf16Units c ≠ [] := by
  simp only [utf16Units]
  split
  · simp
  · simp

/-- What follows a numeric escape does not begin with a digit. -/
theorem head?_literalBody_after (text : List Char) :
    (literalBody true text ++ ['"', ')']).head?.all (!isHex ·) = true := by
  cases text with
  | nil => rfl
  | cons c rest =>
      rw [literalBody]
      cases hescape : namedEscape? c with
      | some escape =>
          obtain ⟨letter, rfl, -⟩ := namedEscape?_eq_some hescape
          rfl
      | none =>
          dsimp only
          split_ifs with hprintable hhex
          · rfl
          · simpa [isHex] using hhex
          · cases hunits : utf16Units c with
            | nil => exact absurd hunits (utf16Units_ne_nil c)
            | cons n ns => rfl

/-- The inside of a literal denotes the units of its text, after a numeric escape or not. -/
theorem denotesInside_literalBody (afterUnit : Bool) (text : List Char) :
    DenotesInside (literalBody afterUnit text ++ ['"', ')']) (text.flatMap utf16Units) := by
  induction text generalizing afterUnit with
  | nil => exact denotesInside_closing
  | cons c rest ih =>
      rw [literalBody, List.flatMap_cons]
      cases hescape : namedEscape? c with
      | some escape =>
          obtain ⟨letter, rfl, -, hunit, hunits⟩ := namedEscape?_eq_some hescape
          rw [hunits]
          exact (ih false).escape hunit
      | none =>
          obtain ⟨hquote, hslash⟩ := ne_of_namedEscape?_eq_none hescape
          dsimp only
          by_cases hprintable : isPrintableAscii c = true
          · have hunits : utf16Units c = [c.toNat] := by
              apply utf16Units_of_lt
              simp only [isPrintableAscii, Bool.and_eq_true, decide_eq_true_eq] at hprintable
              omega
            have hplain := (ih false).plain hprintable hquote hslash
            rw [if_pos hprintable, hunits, List.append_assoc]
            split
            · exact hplain.reopening
            · exact hplain
          · rw [if_neg hprintable, List.append_assoc]
            exact (ih true).unitEscapes (utf16Units_lt c) (head?_literalBody_after rest)

theorem isPrintableAscii_of_isHex {c : Char} (hc : isHex c = true) :
    isPrintableAscii c = true := by
  have hvalue : (Text.hexValue? c).isSome = true := hc
  simp only [Text.hexValue?] at hvalue
  simp only [isPrintableAscii, Bool.and_eq_true, decide_eq_true_eq]
  split_ifs at hvalue with hdigit hlower hupper
  · omega
  · omega
  · omega
  · cases hvalue

theorem isPrintableAscii_literalBody (afterUnit : Bool) (text : List Char) :
    ∀ c ∈ literalBody afterUnit text, isPrintableAscii c = true := by
  induction text generalizing afterUnit with
  | nil => simp [literalBody]
  | cons c rest ih =>
      rw [literalBody]
      cases hescape : namedEscape? c with
      | some escape =>
          obtain ⟨letter, rfl, hletter, -⟩ := namedEscape?_eq_some hescape
          simp only [List.forall_mem_append, List.forall_mem_cons]
          exact ⟨⟨by decide, hletter, by simp⟩, ih false⟩
      | none =>
          dsimp only
          by_cases hprintable : isPrintableAscii c = true
          · rw [if_pos hprintable]
            simp only [List.forall_mem_append, List.forall_mem_cons]
            refine ⟨?_, hprintable, ih false⟩
            split
            · exact List.all_eq_true.mp (by decide)
            · simp
          · rw [if_neg hprintable]
            simp only [List.forall_mem_append, List.forall_mem_flatMap]
            refine ⟨fun n _ => ?_, ih true⟩
            simp only [unitEscape, List.forall_mem_cons]
            exact ⟨by decide, by decide, fun digit hdigit =>
              isPrintableAscii_of_isHex (Text.isHex_of_mem_hexWord hdigit)⟩

theorem toList_stringLiteral (text : String) :
    (stringLiteral text).toList =
      'T' :: 'E' :: 'X' :: 'T' :: '(' :: '"' :: (literalBody false text.toList ++ ['"', ')']) := by
  simp [stringLiteral]

/-- Every text has a literal of printable characters, which denotes the UTF-16 units of the
text.  Each numeric escape is read with its four digits and no more, and texts that differ have
literals that differ. -/
theorem stringLiteral_denotes_utf16Units :
    Function.Injective stringLiteral ∧
      ∀ text : String,
        (∀ c ∈ (stringLiteral text).toList, isPrintableAscii c = true) ∧
        ∃ parts, literalParts? (stringLiteral text).toList = some parts ∧
          parts.mapM LiteralPart.unit? = some (text.toList.flatMap utf16Units) ∧
          (∀ digits, .numeric digits ∈ parts → digits.length = 4) ∧
          charsOfUnits? (text.toList.flatMap utf16Units) = some text.toList := by
  have hdenotes : ∀ text : String, ∃ parts,
      literalParts? (stringLiteral text).toList = some parts ∧
        parts.mapM LiteralPart.unit? = some (text.toList.flatMap utf16Units) ∧
        ∀ digits, .numeric digits ∈ parts → digits.length = 4 := by
    intro text
    rw [toList_stringLiteral]
    exact denotesInside_literalBody false text.toList
  constructor
  · intro first second hsame
    obtain ⟨parts, hparts, hunits, -⟩ := hdenotes first
    obtain ⟨others, hothers, hotherUnits, -⟩ := hdenotes second
    rw [hsame, hothers, Option.some.injEq] at hparts
    rw [← hparts, hotherUnits, Option.some.injEq] at hunits
    have hchars := congrArg charsOfUnits? hunits
    rw [charsOfUnits?_flatMap, charsOfUnits?_flatMap, Option.some.injEq,
      String.toList_inj] at hchars
    exact hchars.symm
  · intro text
    obtain ⟨parts, hparts, hunits, hdigits⟩ := hdenotes text
    refine ⟨?_, parts, hparts, hunits, hdigits, charsOfUnits?_flatMap text.toList⟩
    rw [toList_stringLiteral]
    simp only [List.forall_mem_cons, List.forall_mem_append]
    exact ⟨by decide, by decide, by decide, by decide, by decide, by decide,
      isPrintableAscii_literalBody false text.toList, by decide, by decide, by simp⟩

-- The letter would be a fifth digit of the escape.
example : stringLiteral "\u00e9a" = "TEXT(\"\\x00E9\")TEXT(\"a\")" := by decide +kernel

end HeaderSynth
