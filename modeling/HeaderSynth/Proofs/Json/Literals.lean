import HeaderSynth.Json.Printer
import HeaderSynth.Json.Token

/-!
# Literals are scanned back

What the printer writes for a text or a number is one token of the scanner, whatever
follows it.  A quoted text ends at its closing quote; a word ends only where a blank,
a delimiter or nothing follows, so the statements about words ask for that.
-/

namespace HeaderSynth.Json

/-! ## Quoted texts -/

/-- The three forms in which a character stands inside a literal: behind a backslash as
one letter, as the number of a control character, and as itself. -/
theorem escapeChar_cases (c : Char) :
    (∃ letter, letter ≠ 'u' ∧ shortEscape? letter = some c ∧ escapeChar c = ['\\', letter]) ∨
      (c.toNat < 0x20 ∧ escapeChar c = '\\' :: 'u' :: Text.hexWord .lower 4 c.toNat) ∨
      (c ≠ '"' ∧ c ≠ '\\' ∧ ¬ c.toNat < 0x20 ∧ escapeChar c = [c]) := by
  fun_cases escapeChar c with
  | case8 => exact .inr (.inl ⟨by assumption, rfl⟩)
  | case9 => exact .inr (.inr ⟨by assumption, by assumption, by assumption, rfl⟩)
  | _ =>
      subst c
      exact .inl ⟨_, by decide, rfl, rfl⟩

theorem codeUnits_shortEscape {letter c : Char} (hletter : letter ≠ 'u')
    (hescape : shortEscape? letter = some c) (rest : List Char) :
    codeUnits ('\\' :: letter :: rest) = (codeUnits rest).map (Sum.inl c :: ·) := by
  rw [codeUnits.eq_def]
  split
  · contradiction
  · simp_all
  · rename_i heq
    simp only [List.cons.injEq, true_and] at heq
    obtain ⟨rfl, rfl⟩ := heq
    rw [hescape]
    cases codeUnits rest <;> rfl
  · rename_i hother heq
    simp only [List.cons.injEq] at heq
    exact absurd heq.2.symm (hother letter rest heq.1.symm)

theorem codeUnits_control {n : Nat} (hn : n < 0x20) (rest : List Char) :
    codeUnits ('\\' :: 'u' :: Text.hexWord .lower 4 n ++ rest) =
      (codeUnits rest).map (Sum.inl (Char.ofNat n) :: ·) := by
  have hread : ∀ n < 0x20, Text.hexNumber? (Text.hexWord .lower 4 n) = some n := by decide
  have hunpaired : (isHighSurrogate n || isLowSurrogate n) = false := by
    simp only [isHighSurrogate, isLowSurrogate, Bool.or_eq_false_iff, Bool.and_eq_false_iff,
      decide_eq_false_iff_not]
    omega
  have hword := hread n hn
  simp only [Text.hexWord, List.nil_append, List.cons_append] at hword ⊢
  rw [codeUnits, hword]
  simp only [Option.bind_eq_bind, Option.bind_some, hunpaired]
  cases codeUnits rest <;> rfl

theorem codeUnits_plain {c : Char} (hc : c ≠ '\\') (hcontrol : ¬ c.toNat < 0x20)
    (rest : List Char) :
    codeUnits (c :: rest) = (codeUnits rest).map (Sum.inl c :: ·) := by
  rw [codeUnits.eq_def]
  split
  · contradiction
  · simp_all
  · simp_all
  · rename_i heq
    obtain ⟨rfl, rfl⟩ := List.cons.inj heq
    rw [if_neg (by simp [hc, hcontrol])]

/-- A character is read back from its escaped form, in front of any text. -/
theorem codeUnits_escapeChar (c : Char) (rest : List Char) :
    codeUnits (escapeChar c ++ rest) = (codeUnits rest).map (Sum.inl c :: ·) := by
  obtain ⟨letter, hletter, hescape, heq⟩ | ⟨hcontrol, heq⟩ | ⟨-, hslash, hcontrol, heq⟩ :=
    escapeChar_cases c
  · rw [heq]
    exact codeUnits_shortEscape hletter hescape rest
  · rw [heq, codeUnits_control hcontrol, Char.ofNat_toNat]
  · rw [heq]
    exact codeUnits_plain hslash hcontrol rest

theorem codeUnits_escape (text : List Char) :
    codeUnits (escape text) = some (text.map Sum.inl) := by
  induction text with
  | nil => rfl
  | cons c text ih =>
      rw [escape, List.flatMap_cons, codeUnits_escapeChar, ← escape, ih]
      rfl

/-- Without surrogates there is nothing to join. -/
theorem joinSurrogates_inl (text : List Char) :
    joinSurrogates (text.map Sum.inl) = some text := by
  induction text with
  | nil => rfl
  | cons c text ih => simp [joinSurrogates, ih]

/-- Inside a literal the scanner collects what is neither a quote nor a backslash. -/
theorem scan_literal_plain {text : List Char} (htext : ∀ c ∈ text, c ≠ '"' ∧ c ≠ '\\')
    (collected rest : List Char) :
    scan (.literal collected) (text ++ rest) = scan (.literal (text.reverse ++ collected)) rest := by
  induction text generalizing collected with
  | nil => rfl
  | cons c text ih =>
      have hc := htext c (by simp)
      rw [List.cons_append, scan, if_neg hc.1, if_neg hc.2,
        ih (fun d hd => htext d (by simp [hd]))]
      simp

theorem scan_literal_escapeChar (c : Char) (collected rest : List Char) :
    scan (.literal collected) (escapeChar c ++ rest) =
      scan (.literal ((escapeChar c).reverse ++ collected)) rest := by
  obtain ⟨letter, -, -, heq⟩ | ⟨hcontrol, heq⟩ | ⟨hquote, hslash, -, heq⟩ := escapeChar_cases c
  · rw [heq]
    simp [scan]
  · have hhex : ∀ n < 0x20,
        (Text.hexWord .lower 4 n).all (fun d => d ≠ '"' && d ≠ '\\') = true := by decide
    have hplain : ∀ d ∈ Text.hexWord .lower 4 c.toNat, d ≠ '"' ∧ d ≠ '\\' := by
      simpa using hhex _ hcontrol
    rw [heq]
    simp only [List.cons_append, scan, List.reverse_cons, List.append_assoc]
    rw [if_neg (by decide), if_pos trivial, scan_literal_plain hplain]
    rfl
  · rw [heq]
    exact scan_literal_plain (by simp [hquote, hslash]) collected rest

theorem scan_literal_escape (text collected rest : List Char) :
    scan (.literal collected) (escape text ++ rest) =
      scan (.literal ((escape text).reverse ++ collected)) rest := by
  induction text generalizing collected with
  | nil => rfl
  | cons c text ih =>
      have hcons : escape (c :: text) = escapeChar c ++ escape text := List.flatMap_cons
      rw [hcons, List.append_assoc, scan_literal_escapeChar, ih]
      simp

/-- A quoted text is one token. -/
theorem scan_quote (text : String) (rest : List Char) :
    scan .between ((quote text).toList ++ rest) =
      (scan .between rest).map (Token.text (some text) :: ·) := by
  have htoken : literalToken? (escape text.toList).reverse = some (.text (some text)) := by
    rw [literalToken?, List.reverse_reverse, codeUnits_escape]
    simp [joinSurrogates_inl]
  have hchars : (quote text).toList ++ rest = '"' :: (escape text.toList ++ '"' :: rest) := by
    simp [quote]
  rw [hchars, scan, if_neg (by decide), if_pos rfl, scan_literal_escape, List.append_nil, scan,
    if_pos rfl, htoken]
  cases scan .between rest <;> rfl

/-! ## Words -/

/-- A run of characters that the scanner keeps together. -/
def IsWord (text : List Char) : Prop :=
  text ≠ [] ∧ ∀ c ∈ text, isGap c = false ∧ c ≠ '"' ∧ delimiter? c = none

theorem isWord_of_all {text : List Char} (hne : text ≠ [])
    (hall : text.all (fun c => !isGap c && c ≠ '"' && (delimiter? c).isNone) = true) :
    IsWord text := by
  refine ⟨hne, fun c hc => ?_⟩
  have hchar := List.all_eq_true.mp hall c hc
  simpa [and_assoc] using hchar

/-- A text in front of which a word ends. -/
def EndsWord : List Char → Prop
  | [] => True
  | c :: _ => isGap c = true ∨ (isGap c = false ∧ c ≠ '"' ∧ (delimiter? c).isSome)

theorem scan_word_end {rest : List Char} (hrest : EndsWord rest) (collected : List Char) :
    scan (.word collected) rest =
      (wordToken? collected).bind fun token => (scan .between rest).map (token :: ·) := by
  cases rest with
  | nil => cases h : wordToken? collected <;> simp [scan, h]
  | cons c rest =>
      rcases hrest with hgap | ⟨hgap, hquote, hdelimiter⟩
      · simp only [scan, hgap, if_true]
        cases wordToken? collected <;> cases scan .between rest <;> rfl
      · obtain ⟨delimiter, hdelimiter⟩ := Option.isSome_iff_exists.mp hdelimiter
        simp only [scan, hgap, hquote, hdelimiter, if_false, Bool.false_eq_true]
        cases wordToken? collected <;> cases scan .between rest <;> rfl

theorem scan_word_append {text : List Char}
    (htext : ∀ c ∈ text, isGap c = false ∧ c ≠ '"' ∧ delimiter? c = none)
    (collected rest : List Char) :
    scan (.word collected) (text ++ rest) = scan (.word (text.reverse ++ collected)) rest := by
  induction text generalizing collected with
  | nil => rfl
  | cons c text ih =>
      obtain ⟨hgap, hquote, hdelimiter⟩ := htext c (by simp)
      rw [List.cons_append, scan, if_neg (by simp [hgap]), if_neg hquote, hdelimiter]
      simp [ih (fun d hd => htext d (by simp [hd]))]

/-- A word that ends is one token, if it stands for a value. -/
theorem scan_word {text rest : List Char} (htext : IsWord text) (hrest : EndsWord rest) :
    scan .between (text ++ rest) =
      (word? text).bind fun value => (scan .between rest).map (Token.scalar value :: ·) := by
  obtain ⟨hne, hchars⟩ := htext
  cases text with
  | nil => contradiction
  | cons c text =>
      obtain ⟨hgap, hquote, hdelimiter⟩ := hchars c (by simp)
      rw [List.cons_append, scan, if_neg (by simp [hgap]), if_neg hquote, hdelimiter]
      simp only
      rw [scan_word_append (fun d hd => hchars d (by simp [hd])), scan_word_end hrest, wordToken?]
      cases h : word? (c :: text) <;> simp [h]

/-! ## Numbers -/

theorem isDigit_of_mem_toDigits {n : Nat} {c : Char} (hc : c ∈ Nat.toDigits 10 n) :
    isDigit c = true :=
  Nat.isDigit_of_mem_toDigits (by decide) (by decide) hc

theorem decimalValue_toDigits (n : Nat) : decimalValue (Nat.toDigits 10 n) = n := by
  simpa [decimalValue, Nat.ofDigitChars] using Nat.ofDigitChars_ten_toDigits (n := n)

theorem digits?_toDigits (n : Nat) : digits? (Nat.toDigits 10 n) = some n := by
  have hall : (Nat.toDigits 10 n).all isDigit = true :=
    List.all_eq_true.mpr fun c hc => isDigit_of_mem_toDigits hc
  rw [digits?, hall, decimalValue_toDigits]
  simp

theorem head?_toDigits_ne_zero {n : Nat} (hn : 0 < n) :
    (Nat.toDigits 10 n).head? ≠ some '0' := by
  induction n using Nat.strongRecOn with
  | ind n ih =>
      by_cases hsmall : n < 10
      · rw [Nat.toDigits_of_lt_base hsmall]
        simp only [List.head?_cons, ne_eq, Option.some.injEq, Nat.digitChar_eq_zero]
        omega
      · have hhead := ih (n / 10) (by omega) (by omega)
        rw [Nat.toDigits_of_base_le (by decide) (by omega), List.head?_append]
        cases hdigits : Nat.toDigits 10 (n / 10) with
        | nil => exact absurd hdigits Nat.toDigits_ne_nil
        | cons c rest => simpa [hdigits] using hhead

/-- Only zero is written with a leading zero. -/
theorem leadingZero_toDigits (n : Nat) :
    ((Nat.toDigits 10 n).head? = some '0' && (Nat.toDigits 10 n).length ≠ 1) = false := by
  rcases Nat.eq_zero_or_pos n with rfl | hn
  · simp
  · simp [head?_toDigits_ne_zero hn]

theorem takeWhile_toDigits (n : Nat) (rest : List Char) (hrest : rest.head?.all (!isDigit ·)) :
    (Nat.toDigits 10 n ++ rest).takeWhile isDigit = Nat.toDigits 10 n ∧
      (Nat.toDigits 10 n ++ rest).dropWhile isDigit = rest := by
  have hall : ∀ c ∈ Nat.toDigits 10 n, isDigit c = true := fun c hc => isDigit_of_mem_toDigits hc
  rw [List.takeWhile_append_of_pos hall, List.dropWhile_append_of_pos hall]
  cases rest with
  | nil => simp
  | cons c rest => simp_all

theorem unsignedNumber?_toDigits (negative : Bool) (n : Nat) :
    unsignedNumber? negative (Nat.toDigits 10 n) =
      some (if negative && n == 0 then .decimal ⟨true, 0, 0⟩
        else .integer (if negative then -(n : Int) else n)) := by
  obtain ⟨htake, hdrop⟩ := takeWhile_toDigits n [] rfl
  rw [List.append_nil] at htake hdrop
  simp only [unsignedNumber?, htake, hdrop, digits?_toDigits, leadingZero_toDigits]
  split
  · contradiction
  · simp only [Option.bind_eq_bind, Option.bind_some, Option.pure_def]
    split <;> rfl

/-- Digits do not begin with a sign. -/
theorem toDigits_eq_cons (n : Nat) :
    ∃ c rest, Nat.toDigits 10 n = c :: rest ∧ c ≠ '-' ∧ c ≠ '+' := by
  cases hdigits : Nat.toDigits 10 n with
  | nil => exact absurd hdigits Nat.toDigits_ne_nil
  | cons c rest =>
      have hdigit : isDigit c = true := isDigit_of_mem_toDigits (n := n) (by simp [hdigits])
      refine ⟨c, rest, rfl, ?_, ?_⟩ <;>
        · rintro rfl
          contradiction

/-- A whole number as it is written. -/
theorem toList_repr_int (n : Int) :
    n.repr.toList =
      if n < 0 then '-' :: Nat.toDigits 10 n.natAbs else Nat.toDigits 10 n.natAbs := by
  rw [Int.repr_eq_if]
  by_cases hn : n < 0
  · have habs : (-n).toNat = n.natAbs := by omega
    rw [if_neg (by omega), if_pos hn, habs]
    simp
  · have habs : n.toNat = n.natAbs := by omega
    rw [if_pos (by omega), if_neg hn, habs]
    simp

theorem exponent?_repr (exponent : Int) : exponent? exponent.repr.toList = some exponent := by
  rw [toList_repr_int]
  by_cases hnegative : exponent < 0
  · rw [if_pos hnegative, exponent?, digits?_toDigits]
    show some (-(exponent.natAbs : Int)) = some exponent
    rw [Int.ofNat_natAbs_of_nonpos (by omega), Int.neg_neg]
  · obtain ⟨c, rest, hdigits, hminus, hplus⟩ := toDigits_eq_cons exponent.natAbs
    have hread := digits?_toDigits exponent.natAbs
    rw [if_neg hnegative]
    rw [hdigits] at hread ⊢
    rw [exponent?, hread]
    · simp only [Option.map_some, Option.some.injEq, Int.ofNat_eq_natCast]
      omega
    · rintro tail heq
      exact hplus (List.cons.inj heq).1
    · rintro tail heq
      exact hminus (List.cons.inj heq).1

theorem unsignedNumber?_exponent (negative : Bool) (n : Nat) (exponent : Int) :
    unsignedNumber? negative (Nat.toDigits 10 n ++ 'e' :: exponent.repr.toList) =
      some (.decimal ⟨negative, n, exponent⟩) := by
  obtain ⟨htake, hdrop⟩ := takeWhile_toDigits n ('e' :: exponent.repr.toList) rfl
  simp only [unsignedNumber?, htake, hdrop, digits?_toDigits, leadingZero_toDigits]
  simp [exponent?_repr]

/-- A number is read by its sign and its digits. -/
theorem number?_toDigits (n : Nat) (rest : List Char) :
    number? (Nat.toDigits 10 n ++ rest) = unsignedNumber? false (Nat.toDigits 10 n ++ rest) := by
  obtain ⟨c, digits, hdigits, hminus, -⟩ := toDigits_eq_cons n
  rw [hdigits, List.cons_append, number?]
  rintro tail heq
  exact hminus (List.cons.inj heq).1

theorem number?_repr (n : Int) : number? n.repr.toList = some (.integer n) := by
  rw [toList_repr_int]
  by_cases hnegative : n < 0
  · have hpos : (true && n.natAbs == 0) = false := by simp; omega
    rw [if_pos hnegative, number?, unsignedNumber?_toDigits, hpos]
    simp only [Bool.false_eq_true, if_false, if_true, Option.some.injEq, Json.integer.injEq]
    omega
  · have hread := number?_toDigits n.natAbs []
    rw [List.append_nil] at hread
    rw [if_neg hnegative, hread, unsignedNumber?_toDigits]
    simp only [Bool.false_and, Bool.false_eq_true, if_false, Option.some.injEq,
      Json.integer.injEq]
    omega

theorem number?_renderDecimal (value : Decimal) :
    number? (renderDecimal value).toList = some (.decimal value) := by
  obtain ⟨negative, digits, exponent⟩ := value
  cases negative with
  | false =>
      have hchars : (renderDecimal ⟨false, digits, exponent⟩).toList =
          Nat.toDigits 10 digits ++ 'e' :: exponent.repr.toList := by
        simp [renderDecimal]
      rw [hchars, number?_toDigits, unsignedNumber?_exponent]
  | true =>
      have hchars : (renderDecimal ⟨true, digits, exponent⟩).toList =
          '-' :: (Nat.toDigits 10 digits ++ 'e' :: exponent.repr.toList) := by
        simp [renderDecimal]
      rw [hchars, number?, unsignedNumber?_exponent]

/-- The characters that the text of a number is made of. -/
def IsNumeral (c : Char) : Prop :=
  isDigit c = true ∨ c = '-' ∨ c = 'e'

theorem IsNumeral.isWord {c : Char} (hc : IsNumeral c) :
    isGap c = false ∧ c ≠ '"' ∧ delimiter? c = none := by
  have hrange : c = '-' ∨ c = 'e' ∨ ∃ n, n < 10 ∧ c = Char.ofNat (48 + n) := by
    rcases hc with hdigit | rfl | rfl
    · simp only [isDigit, Bool.and_eq_true, decide_eq_true_eq] at hdigit
      have hlow : 48 ≤ c.toNat := hdigit.1
      have hhigh : c.toNat ≤ 57 := hdigit.2
      refine .inr (.inr ⟨c.toNat - 48, by omega, ?_⟩)
      rw [Nat.add_sub_cancel' hlow, Char.ofNat_toNat]
    · exact .inl rfl
    · exact .inr (.inl rfl)
  rcases hrange with rfl | rfl | ⟨n, hn, rfl⟩
  · decide
  · decide
  · have hall : ∀ n < 10, isGap (Char.ofNat (48 + n)) = false ∧ Char.ofNat (48 + n) ≠ '"' ∧
        (delimiter? (Char.ofNat (48 + n))).isNone := by decide
    simpa using hall n hn

/-- What is written with the characters of numbers is a word, and no name. -/
theorem word?_numerals {text : List Char} (htext : ∀ c ∈ text, IsNumeral c) :
    word? text = number? text := by
  have hname : ∀ c, c ∈ text → c ≠ 'n' ∧ c ≠ 't' ∧ c ≠ 'f' := by
    intro c hc
    rcases htext c hc with hdigit | rfl | rfl
    · refine ⟨?_, ?_, ?_⟩ <;>
        · rintro rfl
          contradiction
    · decide
    · decide
  have hne : ∀ c rest, c = 'n' ∨ c = 't' ∨ c = 'f' → text ≠ c :: rest := by
    rintro c rest hc rfl
    have := hname c (by simp)
    rcases hc with rfl | rfl | rfl <;> simp at this
  rw [word?, if_neg (hne _ _ (by simp)), if_neg (hne _ _ (by simp)), if_neg (hne _ _ (by simp))]

theorem isNumeral_repr {n : Int} {c : Char} (hc : c ∈ n.repr.toList) : IsNumeral c := by
  rw [toList_repr_int] at hc
  split at hc
  · rcases List.mem_cons.mp hc with rfl | hc
    · exact .inr (.inl rfl)
    · exact .inl (isDigit_of_mem_toDigits hc)
  · exact .inl (isDigit_of_mem_toDigits hc)

theorem isNumeral_renderDecimal {value : Decimal} {c : Char}
    (hc : c ∈ (renderDecimal value).toList) : IsNumeral c := by
  have hparts : c ∈ (if value.negative then ['-'] else []) ∨ c ∈ Nat.toDigits 10 value.digits ∨
      c = 'e' ∨ c ∈ value.exponent.repr.toList := by
    cases hnegative : value.negative <;> simpa [renderDecimal, hnegative] using hc
  rcases hparts with hsign | hdigit | rfl | hexponent
  · split at hsign
    · exact .inr (.inl (List.mem_singleton.mp hsign))
    · contradiction
  · exact .inl (isDigit_of_mem_toDigits hdigit)
  · exact .inr (.inr rfl)
  · exact isNumeral_repr hexponent

/-- A number that ends is one token. -/
theorem scan_number {text rest : List Char} {value : Json} (htext : ∀ c ∈ text, IsNumeral c)
    (hvalue : number? text = some value) (hrest : EndsWord rest) :
    scan .between (text ++ rest) = (scan .between rest).map (Token.scalar value :: ·) := by
  have hne : text ≠ [] := by
    rintro rfl
    contradiction
  rw [scan_word ⟨hne, fun c hc => (htext c hc).isWord⟩ hrest, word?_numerals htext, hvalue]
  rfl

end HeaderSynth.Json
