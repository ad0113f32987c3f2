import HeaderSynth.Json.Reader
import HeaderSynth.Proofs.Json.Literals

/-!
# Every JSON value is read back

The tokens of a value connect the printer with the reader: scanning the printed text
gives them, and the reader builds the value from them.  Both halves are inductions over
the value, with one statement for values, one for items and one for members.
-/

namespace HeaderSynth.Json

mutual

/-- The tokens that spell out a value. -/
def tokens : Json → List Token
  | .null => [.scalar .null]
  | .bool value => [.scalar (.bool value)]
  | .integer value => [.scalar (.integer value)]
  | .decimal value => [.scalar (.decimal value)]
  | .string text => [.text (some text)]
  | .unpaired => [.text none]
  | .array items => .openArray :: itemTokens items ++ [.closeArray]
  | .object members => .openObject :: memberTokens members ++ [.closeObject]

def itemTokens : List Json → List Token
  | [] => []
  | [item] => tokens item
  | item :: next :: items => tokens item ++ .comma :: itemTokens (next :: items)

def memberTokens : List (String × Json) → List Token
  | [] => []
  | [(key, value)] => .text (some key) :: .colon :: tokens value
  | (key, value) :: next :: members =>
    .text (some key) :: .colon :: tokens value ++ .comma :: memberTokens (next :: members)

end

/-! ## The printed text has these tokens -/

theorem scan_newLine (level : Nat) (rest : List Char) :
    scan .between ((newLine level).toList ++ rest) = scan .between rest := by
  have hblanks : ∀ count, scan .between (List.replicate count ' ' ++ rest) = scan .between rest := by
    intro count
    induction count with
    | zero => rfl
    | succ count ih => rwa [List.replicate_succ, List.cons_append, scan, if_pos (by decide)]
  have hchars : (newLine level).toList ++ rest =
      '\n' :: (List.replicate (2 * level) ' ' ++ rest) := by
    simp [newLine]
  rw [hchars, scan, if_pos (by decide), hblanks]

theorem endsWord_newLine (level : Nat) (rest : List Char) :
    EndsWord ((newLine level).toList ++ rest) := by
  simp [newLine, EndsWord, isGap]

/-- A delimiter is a token of its own. -/
theorem scan_delimiter {c : Char} {token : Token} (hdelimiter : delimiter? c = some token)
    (hgap : isGap c = false) (hquote : c ≠ '"') (rest : List Char) :
    scan .between (c :: rest) = (scan .between rest).map (token :: ·) := by
  rw [scan, if_neg (by simp [hgap]), if_neg hquote, hdelimiter]

theorem scan_comma (rest : List Char) :
    scan .between (',' :: rest) = (scan .between rest).map (Token.comma :: ·) :=
  scan_delimiter rfl rfl (by decide) rest

theorem endsWord_comma (rest : List Char) : EndsWord (',' :: rest) :=
  .inr ⟨rfl, by decide, rfl⟩

/-- The name of a constant is one token. -/
theorem scan_name (text : List Char) {rest : List Char} {value : Json} (htext : IsWord text)
    (hvalue : word? text = some value) (hrest : EndsWord rest) :
    scan .between (text ++ rest) = (scan .between rest).map (Token.scalar value :: ·) := by
  rw [scan_word htext hrest, hvalue]
  rfl

/-- An escaped surrogate without its partner is a literal without a text. -/
theorem scan_unpaired (rest : List Char) :
    scan .between ("\"\\ud800\"".toList ++ rest) =
      (scan .between rest).map (Token.text none :: ·) := by
  have hunits : codeUnits ['\\', 'u', 'd', '8', '0', '0'] = some [.inr 0xD800] := by decide
  have htoken : literalToken? ['0', '0', '8', 'd', 'u', '\\'] = some (.text none) := by
    simp [literalToken?, hunits, joinSurrogates]
  have hchars : "\"\\ud800\"".toList ++ rest =
      '"' :: '\\' :: 'u' :: (['d', '8', '0', '0'] ++ '"' :: rest) := rfl
  rw [hchars, scan, if_neg (by decide), if_pos rfl, scan, if_neg (by decide), if_pos rfl, scan,
    scan_literal_plain (by simp), scan, if_pos rfl]
  simp only [List.reverse_cons, List.reverse_nil, List.nil_append, List.cons_append, htoken]
  cases scan .between rest <;> rfl

mutual

theorem scan_prettyAt (level : Nat) (value : Json) {rest : List Char} (hrest : EndsWord rest) :
    scan .between ((prettyAt level value).toList ++ rest) =
      (scan .between rest).map (value.tokens ++ ·) := by
  cases value with
  | null => exact scan_name "null".toList (isWord_of_all (by decide) (by decide)) rfl hrest
  | bool value =>
      cases value with
      | true => exact scan_name "true".toList (isWord_of_all (by decide) (by decide)) rfl hrest
      | false => exact scan_name "false".toList (isWord_of_all (by decide) (by decide)) rfl hrest
  | integer n => exact scan_number (fun c => isNumeral_repr) (number?_repr n) hrest
  | decimal value =>
      exact scan_number (fun c => isNumeral_renderDecimal) (number?_renderDecimal value) hrest
  | string text => exact scan_quote text rest
  | unpaired => exact scan_unpaired rest
  | array items =>
      cases items with
      | nil =>
          have hchars : (prettyAt level (.array [])).toList ++ rest = '[' :: ']' :: rest := by
            simp [prettyAt]
          rw [hchars, scan_delimiter rfl rfl (by decide), scan_delimiter rfl rfl (by decide)]
          simp [tokens, itemTokens, Function.comp_def]
      | cons item items =>
          have hchars : (prettyAt level (.array (item :: items))).toList ++ rest =
              '[' :: ((prettyItems (level + 1) (item :: items)).toList ++
                ((newLine level).toList ++ ']' :: rest)) := by
            simp [prettyAt]
          rw [hchars, scan_delimiter rfl rfl (by decide),
            scan_prettyItems (level + 1) (item :: items) (endsWord_newLine level _), scan_newLine,
            scan_delimiter rfl rfl (by decide)]
          simp [tokens, Function.comp_def]
  | object members =>
      cases members with
      | nil =>
          have hchars : (prettyAt level (.object [])).toList ++ rest = '{' :: '}' :: rest := by
            simp [prettyAt]
          rw [hchars, scan_delimiter rfl rfl (by decide), scan_delimiter rfl rfl (by decide)]
          simp [tokens, memberTokens, Function.comp_def]
      | cons member members =>
          have hchars : (prettyAt level (.object (member :: members))).toList ++ rest =
              '{' :: ((prettyMembers (level + 1) (member :: members)).toList ++
                ((newLine level).toList ++ '}' :: rest)) := by
            simp [prettyAt]
          rw [hchars, scan_delimiter rfl rfl (by decide),
            scan_prettyMembers (level + 1) (member :: members) (endsWord_newLine level _),
            scan_newLine, scan_delimiter rfl rfl (by decide)]
          simp [tokens, Function.comp_def]

theorem scan_prettyItems (level : Nat) (items : List Json) {rest : List Char}
    (hrest : EndsWord rest) :
    scan .between ((prettyItems level items).toList ++ rest) =
      (scan .between rest).map (itemTokens items ++ ·) := by
  match items with
  | [] => simp [prettyItems, itemTokens]
  | [item] =>
      rw [prettyItems, String.toList_append, List.append_assoc, scan_newLine,
        scan_prettyAt level item hrest, itemTokens]
  | item :: next :: items =>
      have hchars : (prettyItems level (item :: next :: items)).toList ++ rest =
          (newLine level).toList ++ ((prettyAt level item).toList ++
            ',' :: ((prettyItems level (next :: items)).toList ++ rest)) := by
        simp [prettyItems]
      rw [hchars, scan_newLine, scan_prettyAt level item (endsWord_comma _), scan_comma,
        scan_prettyItems level (next :: items) hrest]
      simp [itemTokens, Function.comp_def]

theorem scan_prettyMembers (level : Nat) (members : List (String × Json)) {rest : List Char}
    (hrest : EndsWord rest) :
    scan .between ((prettyMembers level members).toList ++ rest) =
      (scan .between rest).map (memberTokens members ++ ·) := by
  match members with
  | [] => simp [prettyMembers, memberTokens]
  | [(key, value)] =>
      have hchars : (prettyMembers level [(key, value)]).toList ++ rest =
          (newLine level).toList ++ ((quote key).toList ++
            ':' :: ' ' :: ((prettyAt level value).toList ++ rest)) := by
        simp [prettyMembers]
      rw [hchars, scan_newLine, scan_quote, scan_delimiter rfl rfl (by decide), scan,
        if_pos (by decide), scan_prettyAt level value hrest]
      simp [memberTokens, Function.comp_def]
  | (key, value) :: next :: members =>
      have hchars : (prettyMembers level ((key, value) :: next :: members)).toList ++ rest =
          (newLine level).toList ++ ((quote key).toList ++
            ':' :: ' ' :: ((prettyAt level value).toList ++
              ',' :: ((prettyMembers level (next :: members)).toList ++ rest))) := by
        simp [prettyMembers]
      rw [hchars, scan_newLine, scan_quote, scan_delimiter rfl rfl (by decide), scan,
        if_pos (by decide), scan_prettyAt level value (endsWord_comma _), scan_comma,
        scan_prettyMembers level (next :: members) hrest]
      simp [memberTokens, Function.comp_def]

end

/-- The tokens of a printed value. -/
theorem tokens?_pretty (value : Json) : tokens? value.pretty.toList = some value.tokens := by
  have hscan := scan_prettyAt 0 value (show EndsWord [] from trivial)
  rw [List.append_nil] at hscan
  rw [tokens?, pretty, hscan]
  simp [scan]

/-! ## The reader builds the value from them -/

/-- Where a value may begin, the token that begins it is taken as such. -/
theorem step_beginValue {expect : Expect} (hexpect : expect = .value ∨ expect = .valueOrClose)
    (stack : List Frame) {token : Token} (htoken : token ≠ .closeArray) :
    Reader.step ⟨stack, expect⟩ token = Reader.beginValue stack token := by
  rcases hexpect with rfl | rfl
  · rfl
  · cases token <;> first | rfl | contradiction

/-- The members of an open object, the last one first. -/
def readMembers (members : List (String × Json)) : List (Option String × Json) :=
  (members.map fun member => (some member.1, member.2)).reverse

theorem ofMembers_readMembers (members : List (String × Json)) :
    ofMembers (readMembers members).reverse = .object members := by
  have hkeys : ∀ (f : Option String × Json → Option (String × Json)),
      (∀ member, f (some member.1, member.2) = some member) →
      (members.map fun member => (some member.1, member.2)).mapM f = some members := by
    intro f hf
    induction members with
    | nil => rfl
    | cons member members ih => simp [ih, hf]
  rw [ofMembers, readMembers, List.reverse_reverse, hkeys _ fun _ => rfl]

mutual

/-- Wherever a value may begin, its tokens put it into its place. -/
theorem foldlM_tokens (value : Json) (stack : List Frame) {expect : Expect}
    (hexpect : expect = .value ∨ expect = .valueOrClose) :
    value.tokens.foldlM Reader.step ⟨stack, expect⟩ = Reader.accept stack value := by
  cases value with
  | array items =>
      rw [tokens, List.cons_append, List.foldlM_cons, step_beginValue hexpect stack (by simp)]
      show (itemTokens items ++ [Token.closeArray]).foldlM Reader.step
        ⟨.array [] :: stack, .valueOrClose⟩ = _
      cases items with
      | nil => simp [itemTokens, Reader.step, Reader.close]
      | cons item items =>
          rw [List.foldlM_append, foldlM_itemTokens (item :: items) (by simp) [] stack (.inr rfl)]
          simp [Reader.step, Reader.close]
  | object members =>
      rw [tokens, List.cons_append, List.foldlM_cons, step_beginValue hexpect stack (by simp)]
      show (memberTokens members ++ [Token.closeObject]).foldlM Reader.step
        ⟨.object [] :: stack, .keyOrClose⟩ = _
      cases members with
      | nil => simp [memberTokens, Reader.step, Reader.close, ofMembers]
      | cons member members =>
          rw [List.foldlM_append,
            foldlM_memberTokens (member :: members) (by simp) [] stack (.inr rfl)]
          simp [Reader.step, Reader.close, ofMembers_readMembers]
  | _ =>
      rw [tokens, List.foldlM_cons, step_beginValue hexpect stack (by simp)]
      simp [Reader.beginValue]

/-- The items of an open array are collected in reverse. -/
theorem foldlM_itemTokens (items : List Json) (hne : items ≠ []) (read : List Json)
    (stack : List Frame) {expect : Expect} (hexpect : expect = .value ∨ expect = .valueOrClose) :
    (itemTokens items).foldlM Reader.step ⟨.array read :: stack, expect⟩ =
      some ⟨.array (items.reverse ++ read) :: stack, .commaOrClose⟩ := by
  match items with
  | [] => contradiction
  | [item] =>
      rw [itemTokens, foldlM_tokens item _ hexpect]
      rfl
  | item :: next :: items =>
      rw [itemTokens, List.foldlM_append, foldlM_tokens item _ hexpect]
      show (itemTokens (next :: items)).foldlM Reader.step
        ⟨.array (item :: read) :: stack, .value⟩ = _
      rw [foldlM_itemTokens (next :: items) (by simp) (item :: read) stack (.inl rfl)]
      simp

/-- The members of an open object are collected in reverse. -/
theorem foldlM_memberTokens (members : List (String × Json)) (hne : members ≠ [])
    (read : List (Option String × Json)) (stack : List Frame) {expect : Expect}
    (hexpect : expect = .key ∨ expect = .keyOrClose) :
    (memberTokens members).foldlM Reader.step ⟨.object read :: stack, expect⟩ =
      some ⟨.object (readMembers members ++ read) :: stack, .commaOrClose⟩ := by
  have hkey : ∀ key, Reader.step ⟨.object read :: stack, expect⟩ (.text (some key)) =
      some ⟨.object read :: stack, .colon (some key)⟩ := by
    rcases hexpect with rfl | rfl <;> exact fun _ => rfl
  match members with
  | [] => contradiction
  | [(key, value)] =>
      rw [memberTokens, List.foldlM_cons, hkey]
      show (value.tokens).foldlM Reader.step ⟨.member read (some key) :: stack, .value⟩ = _
      rw [foldlM_tokens value _ (.inl rfl)]
      rfl
  | (key, value) :: next :: members =>
      rw [memberTokens, List.cons_append, List.foldlM_cons, hkey]
      show (value.tokens ++ .comma :: memberTokens (next :: members)).foldlM Reader.step
        ⟨.member read (some key) :: stack, .value⟩ = _
      rw [List.foldlM_append, foldlM_tokens value _ (.inl rfl)]
      show (memberTokens (next :: members)).foldlM Reader.step
        ⟨.object ((some key, value) :: read) :: stack, .key⟩ = _
      rw [foldlM_memberTokens (next :: members) (by simp) _ stack (.inl rfl)]
      simp [readMembers]

end

theorem ofTokens?_tokens (value : Json) : ofTokens? value.tokens = some value := by
  rw [ofTokens?, Reader.start, foldlM_tokens value [] (.inl rfl)]
  rfl

/-- Reading gives back every value that was printed. -/
theorem parse?_pretty (value : Json) : parse? value.pretty = some value := by
  rw [parse?, tokens?_pretty]
  exact ofTokens?_tokens value

end HeaderSynth.Json
