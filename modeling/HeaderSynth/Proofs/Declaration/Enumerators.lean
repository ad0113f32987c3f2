import HeaderSynth.Declaration.Enumeration
import HeaderSynth.Proofs.Text.Hexadecimal
import Mathlib.Algebra.Group.Int.Defs
import Mathlib.Logic.Basic
import Mathlib.Tactic.SplitIfs

/-!
# What the entries of an enumeration denote

A compiler gives an enumerator without a value one more than the enumerator in the line before.
The lines of a table leave a value out where it is one more than that of the entry before, in
64 bits.  The two agree as long as the entry before has a line and its value is not the largest
one.  Both conditions can fail: an entry that the tool chain adds by itself has no line, and
behind the largest value the count starts again at the smallest.
-/

namespace HeaderSynth

open Text (isHex hexNumber? hexDigits takeWhile_append_stop)

/-! ## Reading enumerators -/

/-- A character of an identifier. -/
def isNameChar (c : Char) : Bool :=
  c.isAlphanum || c = '_' || 0x80 ≤ c.toNat

/-- A name that an enumerator can have. -/
def isIdentifier (name : List Char) : Bool :=
  name.head?.any (!·.isDigit) && name.all isNameChar

/-- The end of the line of an enumerator, perhaps with a mark that hides it. -/
def endsEnumerator (text : List Char) : Bool :=
  text = [','] || text = " UMETA(Hidden),".toList

/-- A hexadecimal number up to the end of the line. -/
def lastNumber? : List Char → Option Nat
  | '0' :: 'x' :: rest =>
    if rest.takeWhile isHex ≠ [] ∧ endsEnumerator (rest.dropWhile isHex) then
      hexNumber? (rest.takeWhile isHex)
    else none
  | _ => none

/-- What stands behind the name of an enumerator: a value, or none. -/
def writtenValue? : List Char → Option (Option Int)
  | ' ' :: '=' :: ' ' :: '-' :: rest => (lastNumber? rest).map fun (n : Nat) => some (-(n : Int))
  | ' ' :: '=' :: ' ' :: rest => (lastNumber? rest).map fun (n : Nat) => some (n : Int)
  | rest => if endsEnumerator rest then some none else none

/-- The name of an enumerator, and its value where one is written. -/
def enumerator? (line : String) : Option (String × Option Int) :=
  let name := line.toList.takeWhile isNameChar
  if isIdentifier name then
    (writtenValue? (line.toList.dropWhile isNameChar)).map (String.ofList name, ·)
  else none

/-- Gives each enumerator its value.  One without a written value has `next`, and behind it the
count goes on. -/
def resolveValues (next : Int) : List (String × Option Int) → List (String × Int)
  | [] => []
  | (name, written) :: rest =>
    (name, written.getD next) :: resolveValues (written.getD next + 1) rest

/-- The names and values of the enumerators of a declaration. -/
def readEnumerators? (lines : List String) : Option (List (String × Int)) :=
  (lines.mapM enumerator?).map (resolveValues 0)

/-! ## Entries with a line -/

/-- The value that continues a table. -/
def nextValue (before : List EnumEntry) : Int64 :=
  (before.getLast?.map (·.value + 1)).getD 0

/-- An entry behind `before` that gets no line: it has the name of the entry that the tool chain
adds by itself, and continues the table. -/
def IsDropped (enumName : String) (before : List EnumEntry) (entry : EnumEntry) : Prop :=
  entryBaseName entry.name = enumName ++ maxSuffix ∧ entry.value = nextValue before

instance (enumName : String) (before : List EnumEntry) (entry : EnumEntry) :
    Decidable (IsDropped enumName before entry) :=
  inferInstanceAs (Decidable (_ ∧ _))

/-- The entries of `rest` that get a line, in a table that begins with `before`. -/
def keptEntries (enumName : String) (before : List EnumEntry) :
    List EnumEntry → List EnumEntry
  | [] => []
  | entry :: rest =>
    if IsDropped enumName before entry then keptEntries enumName (before ++ [entry]) rest
    else entry :: keptEntries enumName (before ++ [entry]) rest

/-- The name and the value that an entry should have. -/
def EnumEntry.enumerator (entry : EnumEntry) : String × Int :=
  (entryBaseName entry.name, entry.value.toInt)

/-- The last entry, if there is one, has a line, and another value fits behind it. -/
def CanContinue (enumName : String) (before : List EnumEntry) : Prop :=
  ∀ earlier last, before = earlier ++ [last] →
    ¬IsDropped enumName earlier last ∧ last.value ≠ Int64.maxValue

/-- Each entry of `rest` that gets a line without a value has a line right before it, in a table
that begins with `before`. -/
def ContinuesLines (enumName : String) (before rest : List EnumEntry) : Prop :=
  ∀ middle entry after, rest = middle ++ entry :: after →
    entry.value = nextValue (before ++ middle) →
    ¬IsDropped enumName (before ++ middle) entry → CanContinue enumName (before ++ middle)

/-- What a table needs for its lines to be read back. -/
structure IsFaithful (enumName : String) (entries : List EnumEntry) : Prop where
  names : ∀ entry ∈ keptEntries enumName [] entries,
    isIdentifier (entryBaseName entry.name).toList = true
  values : ContinuesLines enumName [] entries

/-! ## Lines -/

/-- The line of an entry; its value is left out where it is the expected one. -/
def entryLine (expected : Int64) (entry : EnumEntry) : String :=
  entryBaseName entry.name ++
    (if entry.value ≠ expected then s!" = {hexValue entry.value.toInt}" else "") ++
    (if Text.hasSuffix maxSuffix (entryBaseName entry.name) then " UMETA(Hidden)" else "") ++ ","

/-- The value that stands in the line of an entry. -/
def entryValue? (expected : Int64) (entry : EnumEntry) : Option Int :=
  if entry.value = expected then none else some entry.value.toInt

theorem nextValue_concat (before : List EnumEntry) (entry : EnumEntry) :
    nextValue (before ++ [entry]) = entry.value + 1 := by
  rw [nextValue, List.getLast?_concat]
  rfl

theorem hasSuffix_append (first ending : String) :
    Text.hasSuffix ending (first ++ ending) = true := by
  rw [Text.hasSuffix, List.isSuffixOf_iff_suffix, String.toList_append]
  exact List.suffix_append _ _

theorem entryLines_cons (enumName : String) (before : List EnumEntry) (entry : EnumEntry)
    (rest : List EnumEntry) :
    entryLines enumName (nextValue before) (entry :: rest) =
      (if IsDropped enumName before entry then [] else [entryLine (nextValue before) entry]) ++
        entryLines enumName (nextValue (before ++ [entry])) rest := by
  rw [entryLines, nextValue_concat]
  congr 1
  by_cases hdropped : IsDropped enumName before entry
  · have hsuffix := hasSuffix_append enumName maxSuffix
    simp [if_pos hdropped, hdropped.1, hdropped.2, hsuffix]
  · have hkept : ¬(entryBaseName entry.name = enumName ++ maxSuffix ∧
        entry.value = nextValue before) := hdropped
    rw [if_neg hdropped, if_neg]
    · rfl
    · simp only [Bool.and_eq_true, decide_eq_true_eq, Bool.not_eq_true', decide_eq_false_iff_not,
        not_not, ne_eq]
      exact fun hboth => hkept ⟨hboth.1.2, hboth.2⟩

/-! ## Reading a line -/

theorem endsEnumerator_of_mark (hidden : Prop) [Decidable hidden] :
    endsEnumerator ((if hidden then " UMETA(Hidden)" else "") ++ ",").toList = true := by
  split
  · decide
  · decide

/-- What ends the line of an enumerator does not continue a number or a name. -/
theorem head?_of_endsEnumerator {text : List Char} (h : endsEnumerator text = true) :
    text.head?.all (fun c => !isHex c && !isNameChar c) = true := by
  rw [endsEnumerator, Bool.or_eq_true, decide_eq_true_eq, decide_eq_true_eq] at h
  rcases h with rfl | rfl
  · decide
  · decide

/-- A number at the end of a line is read with all its digits. -/
theorem lastNumber?_hexDigits (n : Nat) {ending : List Char} (h : endsEnumerator ending = true) :
    lastNumber? ('0' :: 'x' :: (hexDigits .upper n ++ ending)) = some n := by
  have hstop : ending.head?.all (!isHex ·) = true := by
    have hhead := head?_of_endsEnumerator h
    cases ending with
    | nil => rfl
    | cons c ending => simp_all
  have hdigits : ∀ c ∈ hexDigits .upper n, isHex c = true :=
    fun _ hc => Text.isHex_of_mem_hexDigits hc
  obtain ⟨htaken, hdropped⟩ := takeWhile_append_stop hdigits hstop
  rw [lastNumber?, htaken, hdropped, if_pos ⟨Text.hexDigits_ne_nil .upper n, h⟩,
    Text.hexNumber?_hexDigits]

theorem writtenValue?_hexValue (value : Int) {ending : List Char}
    (h : endsEnumerator ending = true) :
    writtenValue? (' ' :: '=' :: ' ' :: ((hexValue value).toList ++ ending)) =
      some (some value) := by
  have hnumber := lastNumber?_hexDigits value.natAbs h
  by_cases hsign : value < 0
  · have htext : (hexValue value).toList ++ ending =
        '-' :: '0' :: 'x' :: (hexDigits .upper value.natAbs ++ ending) := by
      simp [hexValue, hsign]
    rw [htext, writtenValue?, hnumber, Option.map_some]
    congr 2
    omega
  · have htext : (hexValue value).toList ++ ending =
        '0' :: 'x' :: (hexDigits .upper value.natAbs ++ ending) := by
      simp [hexValue, hsign]
    rw [htext, writtenValue?, hnumber, Option.map_some]
    · congr 2
      omega
    · simp

theorem writtenValue?_of_endsEnumerator {ending : List Char} (h : endsEnumerator ending = true) :
    writtenValue? ending = some none := by
  rw [endsEnumerator, Bool.or_eq_true, decide_eq_true_eq, decide_eq_true_eq] at h
  rcases h with rfl | rfl
  · decide
  · decide

/-- The line of an entry is read as its name and what is written of its value. -/
theorem enumerator?_entryLine {entry : EnumEntry} (expected : Int64)
    (hname : isIdentifier (entryBaseName entry.name).toList = true) :
    enumerator? (entryLine expected entry) =
      some (entryBaseName entry.name, entryValue? expected entry) := by
  let hidden := Text.hasSuffix maxSuffix (entryBaseName entry.name)
  let ending := ((if hidden then " UMETA(Hidden)" else "") ++ ",").toList
  let value := if entry.value = expected then []
    else ' ' :: '=' :: ' ' :: (hexValue entry.value.toInt).toList
  have hending : endsEnumerator ending = true := endsEnumerator_of_mark (hidden = true)
  have hline : (entryLine expected entry).toList =
      (entryBaseName entry.name).toList ++ (value ++ ending) := by
    by_cases hvalue : entry.value = expected
    · simp [entryLine, value, ending, hidden, hvalue]
    · simp [entryLine, value, ending, hidden, hvalue, toString]
  have hvalue : writtenValue? (value ++ ending) = some (entryValue? expected entry) := by
    by_cases hsame : entry.value = expected
    · simp only [value, entryValue?, if_pos hsame, List.nil_append]
      exact writtenValue?_of_endsEnumerator hending
    · simp only [value, entryValue?, if_neg hsame, List.cons_append]
      exact writtenValue?_hexValue entry.value.toInt hending
  have hstop : (value ++ ending).head?.all (!isNameChar ·) = true := by
    by_cases hsame : entry.value = expected
    · have hhead := head?_of_endsEnumerator hending
      simp only [value, if_pos hsame, List.nil_append]
      revert hhead
      cases ending.head? with
      | none => simp
      | some c => simp
    · simp only [value, if_neg hsame, List.cons_append]
      rfl
  have hchars : ∀ c ∈ (entryBaseName entry.name).toList, isNameChar c = true := by
    rw [isIdentifier, Bool.and_eq_true, List.all_eq_true] at hname
    exact hname.2
  obtain ⟨htaken, hdropped⟩ := takeWhile_append_stop hchars hstop
  simp only [enumerator?, hline, htaken, hdropped, hname, hvalue, if_true, Option.map_some,
    String.ofList_toList]

theorem isIdentifier_of_enumerator? {line name : String} {written : Option Int}
    (h : enumerator? line = some (name, written)) : isIdentifier name.toList = true := by
  simp only [enumerator?] at h
  split_ifs at h with hname
  obtain ⟨value, -, hpair⟩ := Option.map_eq_some_iff.mp h
  cases hpair
  rwa [String.toList_ofList]

/-! ## Reading a table -/

/-- The enumerators of a table as they are written. -/
def writtenEntries (enumName : String) (before : List EnumEntry) :
    List EnumEntry → List (String × Option Int)
  | [] => []
  | entry :: rest =>
    (if IsDropped enumName before entry then []
      else [(entryBaseName entry.name, entryValue? (nextValue before) entry)]) ++
      writtenEntries enumName (before ++ [entry]) rest

theorem mapM_enumerator?_entryLines {enumName : String} {before rest : List EnumEntry}
    (hnames : ∀ entry ∈ keptEntries enumName before rest,
      isIdentifier (entryBaseName entry.name).toList = true) :
    (entryLines enumName (nextValue before) rest).mapM enumerator? =
      some (writtenEntries enumName before rest) := by
  induction rest generalizing before with
  | nil => rfl
  | cons entry rest ih =>
      rw [entryLines_cons, writtenEntries]
      rw [keptEntries] at hnames
      by_cases hdropped : IsDropped enumName before entry
      · rw [if_pos hdropped] at hnames ⊢
        rw [if_pos hdropped]
        exact ih hnames
      · rw [if_neg hdropped] at hnames ⊢
        rw [if_neg hdropped]
        have hline := enumerator?_entryLine (nextValue before) (hnames entry List.mem_cons_self)
        have hrest := ih fun other hother => hnames other (List.mem_cons_of_mem entry hother)
        simp [hline, hrest]

theorem map_fst_resolveValues (next : Int) (written : List (String × Option Int)) :
    (resolveValues next written).map Prod.fst = written.map Prod.fst := by
  induction written generalizing next with
  | nil => rfl
  | cons enumerator rest ih => rw [resolveValues, List.map_cons, List.map_cons, ih]

/-- Only identifiers are read as names. -/
theorem isIdentifier_of_readEnumerators? {lines : List String} {read : List (String × Int)}
    (h : readEnumerators? lines = some read) :
    ∀ name ∈ read.map Prod.fst, isIdentifier name.toList = true := by
  obtain ⟨written, hwritten, rfl⟩ := Option.map_eq_some_iff.mp h
  rw [map_fst_resolveValues]
  clear h
  induction lines generalizing written with
  | nil =>
      cases hwritten
      simp
  | cons line rest ih =>
      simp only [List.mapM_cons, Option.bind_eq_bind, Option.bind_eq_some_iff, Option.pure_def,
        Option.some.injEq] at hwritten
      obtain ⟨⟨name, value⟩, hline, others, hothers, rfl⟩ := hwritten
      rw [List.map_cons, List.forall_mem_cons]
      exact ⟨isIdentifier_of_enumerator? hline, ih others hothers⟩

/-! ## Counting -/

theorem canContinue_concat {enumName : String} {before : List EnumEntry} {entry : EnumEntry} :
    CanContinue enumName (before ++ [entry]) ↔
      ¬IsDropped enumName before entry ∧ entry.value ≠ Int64.maxValue := by
  constructor
  · intro h
    exact h before entry rfl
  · intro h earlier last hsame
    obtain ⟨rfl, hlast⟩ := List.append_inj' hsame rfl
    cases hlast
    exact h

theorem continuesLines_cons {enumName : String} {before rest : List EnumEntry}
    {entry : EnumEntry} :
    ContinuesLines enumName before (entry :: rest) ↔
      (entry.value = nextValue before → ¬IsDropped enumName before entry →
        CanContinue enumName before) ∧
      ContinuesLines enumName (before ++ [entry]) rest := by
  constructor
  · intro h
    constructor
    · have hfirst := h [] entry rest rfl
      rwa [List.append_nil] at hfirst
    · intro middle other after hsplit
      have hother := h (entry :: middle) other after (by rw [hsplit, List.cons_append])
      rwa [List.append_cons] at hother
  · rintro ⟨hfirst, hrest⟩ middle other after hsplit
    cases middle with
    | nil =>
        obtain ⟨rfl, rfl⟩ := List.cons.inj hsplit
        rwa [List.append_nil]
    | cons head middle =>
        obtain ⟨rfl, rfl⟩ := List.cons.inj hsplit
        rw [List.append_cons]
        exact hrest middle other after rfl

theorem toInt_add_one_of_ne {value : Int64} (h : value ≠ Int64.maxValue) :
    (value + 1).toInt = value.toInt + 1 := by
  have hupper := value.toInt_le
  have hlower := value.minValue_le_toInt
  have hmax : value.toInt ≠ Int64.maxValue.toInt := fun hsame => h (Int64.toInt.inj hsame)
  rw [Int64.toInt_maxValue] at hupper hmax
  rw [Int64.toInt_minValue] at hlower
  rw [Int64.toInt_add, Int64.toInt_one, Int.bmod_def]
  split
  · omega
  · omega

/-- In any case the sum is right up to a multiple of the number of 64-bit words. -/
theorem toInt_add_one_emod (value : Int64) :
    ((value + 1).toInt - (value.toInt + 1)) % 2 ^ 64 = 0 := by
  rw [Int64.toInt_add, Int64.toInt_one, Int.bmod_def]
  split
  · omega
  · omega

/-- The enumerators have the values of their entries when the count of the lines stands at the
next value of the table wherever a line can continue the one before. -/
theorem resolveValues_writtenEntries {enumName : String} {before rest : List EnumEntry}
    {next : Int} (h : ContinuesLines enumName before rest)
    (hnext : CanContinue enumName before → next = (nextValue before).toInt) :
    resolveValues next (writtenEntries enumName before rest) =
      (keptEntries enumName before rest).map EnumEntry.enumerator := by
  induction rest generalizing before next with
  | nil => rfl
  | cons entry rest ih =>
      obtain ⟨hentry, hrest⟩ := continuesLines_cons.mp h
      rw [writtenEntries, keptEntries]
      by_cases hdropped : IsDropped enumName before entry
      · rw [if_pos hdropped, if_pos hdropped]
        apply ih hrest
        intro hcontinue
        exact absurd hdropped (canContinue_concat.mp hcontinue).1
      · have hvalue : (entryValue? (nextValue before) entry).getD next = entry.value.toInt := by
          by_cases hsame : entry.value = nextValue before
          · rw [entryValue?, if_pos hsame, Option.getD_none, hnext (hentry hsame hdropped), hsame]
          · rw [entryValue?, if_neg hsame, Option.getD_some]
        rw [if_neg hdropped, if_neg hdropped, List.singleton_append, resolveValues, hvalue,
          List.map_cons, ih hrest]
        · rfl
        · intro hcontinue
          rw [nextValue_concat, toInt_add_one_of_ne (canContinue_concat.mp hcontinue).2]

/-- Conversely, the count of the lines falls behind by one with each entry that has no line, and
does not catch up within the number of 64-bit words.  `gap` counts the entries without a line at
the end of `before`. -/
theorem continuesLines_of_resolveValues {enumName : String} {before rest : List EnumEntry}
    {next : Int} (gap : Nat) (hgap : gap + rest.length < 2 ^ 64)
    (hcount : ((nextValue before).toInt - (next + gap)) % 2 ^ 64 = 0)
    (hstart : gap = 0 → (nextValue before).toInt = next → CanContinue enumName before)
    (h : resolveValues next (writtenEntries enumName before rest) =
      (keptEntries enumName before rest).map EnumEntry.enumerator) :
    ContinuesLines enumName before rest := by
  induction rest generalizing before next gap with
  | nil =>
      intro middle entry after hsplit
      cases middle <;> cases hsplit
  | cons entry rest ih =>
      rw [List.length_cons] at hgap
      rw [writtenEntries, keptEntries] at h
      rw [continuesLines_cons]
      by_cases hdropped : IsDropped enumName before entry
      · rw [if_pos hdropped, if_pos hdropped, List.nil_append] at h
        refine ⟨fun _ hkept => absurd hdropped hkept, ih (gap + 1) (by omega) ?_ ?_ h⟩
        · have hword := toInt_add_one_emod entry.value
          rw [nextValue_concat, hdropped.2] at *
          push_cast
          omega
        · intro hzero
          cases hzero
      · rw [if_neg hdropped, if_neg hdropped, List.singleton_append, resolveValues, List.map_cons,
          List.cons.injEq, EnumEntry.enumerator, Prod.mk.injEq] at h
        obtain ⟨⟨-, hvalue⟩, hothers⟩ := h
        constructor
        · intro hsame _
          rw [entryValue?, if_pos hsame, Option.getD_none, hsame] at hvalue
          have hzero : gap = 0 := by omega
          exact hstart hzero hvalue.symm
        · rw [hvalue] at hothers
          have hword := toInt_add_one_emod entry.value
          refine ih 0 (by omega) ?_ ?_ hothers
          · rw [nextValue_concat]
            push_cast
            omega
          · intro _ hnext
            refine canContinue_concat.mpr ⟨hdropped, ?_⟩
            intro hmax
            rw [nextValue_concat, hmax] at hnext
            revert hnext
            decide

/-- The enumerators of a table have the names and values of the entries that get a line exactly
when the names are identifiers and no value is left out behind an entry without a line or
behind the largest value. -/
theorem enumerators_of_entryLines_iff (enumName : String) (entries : List EnumEntry) :
    (IsFaithful enumName entries →
      readEnumerators? (entryLines enumName 0 entries) =
        some ((keptEntries enumName [] entries).map EnumEntry.enumerator)) ∧
    (entries.length < 2 ^ 64 →
      readEnumerators? (entryLines enumName 0 entries) =
        some ((keptEntries enumName [] entries).map EnumEntry.enumerator) →
      IsFaithful enumName entries) := by
  have hread : (∀ entry ∈ keptEntries enumName [] entries,
        isIdentifier (entryBaseName entry.name).toList = true) →
      readEnumerators? (entryLines enumName 0 entries) =
        some (resolveValues 0 (writtenEntries enumName [] entries)) := by
    intro hnames
    rw [readEnumerators?, show (0 : Int64) = nextValue [] from rfl,
      mapM_enumerator?_entryLines hnames, Option.map_some]
  constructor
  · intro h
    have hvalues : resolveValues 0 (writtenEntries enumName [] entries) =
        (keptEntries enumName [] entries).map EnumEntry.enumerator :=
      resolveValues_writtenEntries h.values fun _ => rfl
    rw [hread h.names, hvalues]
  · intro hlength h
    have hnames : ∀ entry ∈ keptEntries enumName [] entries,
        isIdentifier (entryBaseName entry.name).toList = true := by
      intro entry hentry
      apply isIdentifier_of_readEnumerators? h
      rw [List.map_map]
      exact List.mem_map_of_mem (f := Prod.fst ∘ EnumEntry.enumerator) hentry
    rw [hread hnames, Option.some.injEq] at h
    refine ⟨hnames, continuesLines_of_resolveValues 0 (by omega) (by decide) ?_ h⟩
    intro _ _ earlier last hsplit
    exact absurd hsplit.symm (by simp)

/-- A table with a negative value, a gap, and the entry of the tool chain at its end. -/
def gapped : List EnumEntry :=
  [⟨"ELevel::Invalid", -1⟩, ⟨"ELevel::Low", 0⟩, ⟨"ELevel::High", 5⟩, ⟨"ELevel::Full", 6⟩,
    ⟨"ELevel::ELevel_MAX", 7⟩]

theorem enumerators_of_entryLines_iff_gapped :
    gapped.length < 2 ^ 64 ∧ IsFaithful "ELevel" gapped ∧
      entryLines "ELevel" 0 gapped = ["Invalid = -0x1,", "Low,", "High = 0x5,", "Full,"] ∧
      readEnumerators? (entryLines "ELevel" 0 gapped) =
        some [("Invalid", -1), ("Low", 0), ("High", 5), ("Full", 6)] := by
  have hlength : gapped.length < 2 ^ 64 := by decide
  have hread : readEnumerators? (entryLines "ELevel" 0 gapped) =
      some ((keptEntries "ELevel" [] gapped).map EnumEntry.enumerator) := by decide +kernel
  obtain ⟨hforward, hbackward⟩ := enumerators_of_entryLines_iff "ELevel" gapped
  have hfaithful := hbackward hlength hread
  refine ⟨hlength, hfaithful, by decide +kernel, ?_⟩
  rw [hforward hfaithful]
  decide +kernel

/-- An entry of the tool chain in the middle of a table takes its value with it, so that the one
behind it is read with a value too small.  Behind the largest value the smallest is left out. -/
theorem enumerators_lose_values :
    (let table : List EnumEntry := [⟨"EMode::A", 0⟩, ⟨"EMode::EMode_MAX", 1⟩, ⟨"EMode::B", 2⟩]
     entryLines "EMode" 0 table = ["A,", "B,"] ∧
       (keptEntries "EMode" [] table).map EnumEntry.enumerator = [("A", 0), ("B", 2)] ∧
       readEnumerators? (entryLines "EMode" 0 table) = some [("A", 0), ("B", 1)]) ∧
    (let table : List EnumEntry := [⟨"Top", Int64.maxValue⟩, ⟨"Bottom", Int64.minValue⟩]
     entryLines "EEdge" 0 table = ["Top = 0x7FFFFFFFFFFFFFFF,", "Bottom,"] ∧
       (keptEntries "EEdge" [] table).map EnumEntry.enumerator =
         [("Top", 2 ^ 63 - 1), ("Bottom", -2 ^ 63)] ∧
       readEnumerators? (entryLines "EEdge" 0 table) =
         some [("Top", 2 ^ 63 - 1), ("Bottom", 2 ^ 63)]) := by
  decide +kernel

end HeaderSynth
