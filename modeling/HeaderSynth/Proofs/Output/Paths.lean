import HeaderSynth.Output.Path
import Mathlib.Data.List.Basic
import Mathlib.Tactic.SplitIfs

/-!
# Components of joined paths

A path is cut at its slashes.  Appending a relative path appends its components, so what a
joined path consists of can be read off its parts: where it begins, whether it leaves its
directory, and which name it ends with.
-/

namespace HeaderSynth

namespace Text

theorem splitAt_eq_splitOn (separator : Char) (text : List Char) :
    splitAt separator text = text.splitOn separator := by
  induction text with
  | nil => rfl
  | cons c rest ih =>
      rw [splitAt, List.splitOn_cons_eq_if_modifyHead, ih]
      by_cases hc : c = separator
      · rw [if_pos hc, if_pos (beq_iff_eq.mpr hc)]
      · rw [if_neg hc, if_neg (by simpa using hc)]
        cases hrest : rest.splitOn separator with
        | nil => exact absurd hrest (List.splitOn_ne_nil separator rest)
        | cons piece pieces => rfl

theorem splitAt_append_separator (separator : Char) (first rest : List Char) :
    splitAt separator (first ++ separator :: rest) =
      splitAt separator first ++ splitAt separator rest := by
  simp only [splitAt_eq_splitOn, List.splitOn_append_cons_self]

theorem splitAt_of_not_mem {separator : Char} {text : List Char} (h : separator ∉ text) :
    splitAt separator text = [text] := by
  rw [splitAt_eq_splitOn, List.splitOn_eq_singleton h]

/-- An ending without the separator goes to the last piece. -/
theorem splitAt_append {separator : Char} {ending : List Char} (h : separator ∉ ending)
    (text : List Char) :
    splitAt separator (text ++ ending) = (splitAt separator text).dropLast ++
      [(splitAt separator text).getLast (splitAt_ne_nil separator text) ++ ending] := by
  by_cases hmem : separator ∈ text
  · obtain ⟨first, rest, rfl⟩ := List.append_of_mem hmem
    have ih := splitAt_append h rest
    have hrest := splitAt_ne_nil separator rest
    simp only [List.append_assoc, List.cons_append, splitAt_append_separator, ih,
      List.dropLast_append_of_ne_nil hrest, List.getLast_append_of_ne_nil _ hrest]
  · have hnot : separator ∉ text ++ ending := by
      simp [hmem, h]
    simp only [splitAt_of_not_mem hnot, splitAt_of_not_mem hmem]
    rfl
termination_by text.length
decreasing_by
  subst_vars
  simp only [List.length_append, List.length_cons]
  omega

end Text

namespace Path

/-- The pieces of a path between its slashes. -/
def pieces (path : String) : List (List Char) :=
  Text.splitAt '/' path.toList

/-- The components of a path that stands behind another one. -/
def inner (path : String) : List Component :=
  (pieces path).filterMap component?

/-- The component of the first piece of a path. -/
def start (first : List Char) (rest : List (List Char)) : List Component :=
  if first = [] then (if rest = [] then [] else [.root])
  else if first = ['.'] then [.here]
  else (component? first).toList

theorem pieces_ne_nil (path : String) : pieces path ≠ [] :=
  Text.splitAt_ne_nil '/' path.toList

theorem pieces_append_slash (first second : String) :
    pieces (first ++ "/" ++ second) = pieces first ++ pieces second := by
  rw [pieces, pieces, pieces, ← Text.splitAt_append_separator]
  simp

theorem components_of_pieces {path : String} {first : List Char} {rest : List (List Char)}
    (h : pieces path = first :: rest) :
    components path = start first rest ++ rest.filterMap component? := by
  rw [pieces] at h
  rw [components, h]
  rfl

theorem eq_empty_of_pieces {path : String} (h : pieces path = [[]]) : path = "" := by
  rw [pieces, Text.splitAt_eq_splitOn] at h
  have hjoin : ['/'].intercalate (path.toList.splitOn '/') = path.toList :=
    List.intercalate_splitOn '/'
  rw [h] at hjoin
  exact String.toList_eq_nil_iff.mp hjoin.symm

/-! ## Joining -/

theorem components_slash_append (path : String) : components ("/" ++ path) = .root :: inner path := by
  have hpieces : pieces ("/" ++ path) = [] :: pieces path := by
    have hsplit := pieces_append_slash "" path
    rwa [String.empty_append] at hsplit
  rw [components_of_pieces hpieces, start, if_pos rfl, if_neg (pieces_ne_nil path)]
  rfl

theorem components_append_slash {first : String} (h : first ≠ "") (second : String) :
    components (first ++ "/" ++ second) = components first ++ inner second := by
  cases hfirst : pieces first with
  | nil => exact absurd hfirst (pieces_ne_nil first)
  | cons piece rest =>
      have hpieces : pieces (first ++ "/" ++ second) = piece :: (rest ++ pieces second) := by
        rw [pieces_append_slash, hfirst]
        rfl
      have hstart : start piece (rest ++ pieces second) = start piece rest := by
        by_cases hpiece : piece = []
        · have hrest : rest ≠ [] := by
            rintro rfl
            exact h (eq_empty_of_pieces (hpiece ▸ hfirst))
          simp only [start, if_pos hpiece, if_neg hrest]
          exact if_neg (List.append_ne_nil_of_left_ne_nil hrest _)
        · simp only [start, if_neg hpiece]
      rw [components_of_pieces hpieces, components_of_pieces hfirst, hstart, List.filterMap_append,
        List.append_assoc]
      rfl

theorem eq_append_slash_of_hasSuffix {path : String} (h : Text.hasSuffix "/" path = true) :
    ∃ front, path = front ++ "/" := by
  obtain ⟨front, hfront⟩ := List.isSuffixOf_iff_suffix.mp h
  refine ⟨String.ofList front, String.toList_inj.mp ?_⟩
  rw [String.toList_append, String.toList_ofList, hfront]

/-- Joining with a relative path appends its components. -/
theorem components_join {first second : String} (hfirst : first ≠ "")
    (hsecond : isAbsolute second = false) :
    components (join first second) = components first ++ inner second := by
  have hempty : first.isEmpty = false := by simpa using hfirst
  rw [join, if_neg (by simp [hsecond])]
  by_cases hslash : Text.hasSuffix "/" first = true
  · rw [if_pos (by simp [hslash])]
    obtain ⟨front, rfl⟩ := eq_append_slash_of_hasSuffix hslash
    by_cases hfront : front = ""
    · subst hfront
      rw [String.empty_append, components_slash_append]
      rfl
    · have hcomponents : components (front ++ "/") = components front := by
        have happend := components_append_slash hfront ""
        rw [String.append_empty] at happend
        exact happend.trans (List.append_nil _)
      rw [components_append_slash hfront, hcomponents]
  · rw [if_neg (by simp [hempty, hslash]), components_append_slash hfirst]

theorem join_ne_empty {second : String} (h : second ≠ "") (first : String) :
    join first second ≠ "" := by
  rw [join]
  split_ifs
  · exact h
  · simp [h]
  · simp

/-! ## Beginnings -/

theorem eq_slash_append_of_isAbsolute {path : String} (h : isAbsolute path = true) :
    ∃ rest, path = "/" ++ rest := by
  obtain ⟨rest, hrest⟩ := List.isPrefixOf_iff_prefix.mp h
  refine ⟨String.ofList rest, String.toList_inj.mp ?_⟩
  rw [← hrest]
  simp

theorem components_of_isAbsolute {path : String} (h : isAbsolute path = true) :
    components path = .root :: inner path := by
  obtain ⟨rest, rfl⟩ := eq_slash_append_of_isAbsolute h
  have hpieces := pieces_append_slash "" rest
  rw [String.empty_append] at hpieces
  rw [components_slash_append, inner, inner, hpieces]
  rfl

theorem component?_ne_root (piece : List Char) : component? piece ≠ some .root := by
  rw [component?]
  split_ifs <;> simp

theorem root_not_mem_inner (path : String) : .root ∉ inner path := by
  rw [inner, List.mem_filterMap]
  rintro ⟨piece, -, hpiece⟩
  exact component?_ne_root piece hpiece

/-- A path is absolute exactly when it begins at the root. -/
theorem root_mem_components {path : String} :
    .root ∈ components path ↔ isAbsolute path = true := by
  constructor
  · intro h
    cases htext : path.toList with
    | nil =>
        rw [String.toList_eq_nil_iff.mp htext] at h
        cases h
    | cons c rest =>
        by_cases hc : c = '/'
        · rw [isAbsolute, Text.hasPrefix, htext, hc]
          rfl
        · exfalso
          cases hpieces : Text.splitAt '/' rest with
          | nil => exact absurd hpieces (Text.splitAt_ne_nil '/' rest)
          | cons piece others =>
              have hsplit : pieces path = (c :: piece) :: others := by
                rw [pieces, htext, Text.splitAt, if_neg hc, hpieces]
              rw [components_of_pieces hsplit, List.mem_append, List.mem_filterMap] at h
              rcases h with hstart | ⟨other, -, hother⟩
              · rw [start, if_neg (List.cons_ne_nil c piece)] at hstart
                split_ifs at hstart
                · simp at hstart
                · exact component?_ne_root _ (Option.mem_toList.mp hstart)
              · exact component?_ne_root other hother
  · intro h
    rw [components_of_isAbsolute h]
    exact List.mem_cons_self

/-- The first piece matters only for how a path begins. -/
theorem mem_components_iff {path : String} {component : Component} (hroot : component ≠ .root)
    (hhere : component ≠ .here) : component ∈ components path ↔ component ∈ inner path := by
  cases hpieces : pieces path with
  | nil => exact absurd hpieces (pieces_ne_nil path)
  | cons first rest =>
      have hstart : component ∈ start first rest ↔ component? first = some component := by
        by_cases hempty : first = []
        · subst hempty
          have hnone : component? [] = none := rfl
          rw [start, if_pos rfl, hnone]
          split_ifs <;> simp [hroot]
        · by_cases hdot : first = ['.']
          · subst hdot
            have hnone : component? ['.'] = none := rfl
            rw [start, if_neg hempty, if_pos rfl, hnone]
            simp [hhere]
          · rw [start, if_neg hempty, if_neg hdot, Option.mem_toList]
      rw [components_of_pieces hpieces, inner, hpieces, List.mem_append, hstart]
      simp [List.mem_filterMap]

/-! ## Paths below a directory -/

/-- A relative path that never goes up. -/
def IsInside (path : String) : Prop :=
  isAbsolute path = false ∧ .parent ∉ components path

/-- A path that leads from `root` further down. -/
def IsBelow (root path : String) : Prop :=
  ∃ rest, components path = components root ++ rest ∧ (∃ name, .name name ∈ rest) ∧
    .root ∉ rest ∧ .parent ∉ rest

/-- A joined path stays inside when both of its parts do. -/
theorem isInside_join {first : String} (hfirst : first ≠ "") (second : String) :
    IsInside (join first second) ↔ IsInside first ∧ IsInside second := by
  cases hsecond : isAbsolute second with
  | true =>
      have hjoin : join first second = second := by
        rw [join, if_pos hsecond]
      have houtside : ¬IsInside second := by
        rintro ⟨hrelative, -⟩
        rw [hsecond] at hrelative
        cases hrelative
      rw [hjoin]
      exact iff_of_false houtside fun h => houtside h.2
  | false =>
      have hcomponents := components_join hfirst hsecond
      have habsolute : isAbsolute (join first second) = isAbsolute first := by
        rw [Bool.eq_iff_iff, ← root_mem_components, ← root_mem_components, hcomponents,
          List.mem_append]
        exact or_iff_left (root_not_mem_inner second)
      rw [IsInside, IsInside, IsInside, habsolute, hcomponents, List.mem_append,
        @mem_components_iff second .parent (by simp) (by simp)]
      simp [hsecond, not_or, and_assoc]

/-- A path stays inside exactly when it is found below every directory that it is appended
to. -/
theorem isInside_iff_isBelow {path name : String} (hname : .name name ∈ components path) :
    IsInside path ↔ ∀ root, IsBelow root (join root path) := by
  have hmem : ∀ component, component ≠ .root → component ≠ .here →
      (component ∈ components path ↔ component ∈ inner path) :=
    fun _ hroot hhere => mem_components_iff hroot hhere
  constructor
  · intro hpath root
    by_cases hroot : root = ""
    · subst hroot
      have hjoin : join "" path = path := by
        rw [join, if_neg (by simp [hpath.1]), if_pos (by rfl), String.empty_append]
      have hrelative : .root ∉ components path := by
        rw [root_mem_components, hpath.1]
        exact Bool.false_ne_true
      rw [hjoin]
      exact ⟨components path, rfl, ⟨name, hname⟩, hrelative, hpath.2⟩
    · have hparent : .parent ∉ inner path := fun h => hpath.2 ((hmem _ (by simp) (by simp)).mpr h)
      exact ⟨inner path, components_join hroot hpath.1,
        ⟨name, (hmem _ (by simp) (by simp)).mp hname⟩, root_not_mem_inner path, hparent⟩
  -- One directory with a name shows both that the path is relative and that it stays inside.
  · intro hbelow
    obtain ⟨rest, hrest, -, -, hparent⟩ := hbelow "x"
    have hx : components "x" = [.name "x"] := by decide
    rw [hx] at hrest
    cases habsolute : isAbsolute path with
    | true =>
        rw [join, if_pos habsolute, components_of_isAbsolute habsolute] at hrest
        cases hrest
    | false =>
        rw [components_join (by decide) habsolute, hx] at hrest
        have hinner : inner path = rest := List.append_cancel_left hrest
        refine ⟨habsolute, fun h => hparent ?_⟩
        rw [← hinner]
        exact (hmem _ (by simp) (by simp)).mp h

/-! ## Endings -/

/-- An ending that makes a name of the last piece of every path. -/
structure IsEnding (ending : String) : Prop where
  flat : '/' ∉ ending.toList
  ne_nil : ending.toList ≠ []
  last_ne_dot : ending.toList.getLast? ≠ some '.'

/-- The components of all pieces but the last. -/
def leading (path : String) : List Component :=
  (pieces path).dropLast.filterMap component?

def lastPiece (path : String) : List Char :=
  (pieces path).getLast (pieces_ne_nil path)

theorem component?_append {ending : String} (h : IsEnding ending) (piece : List Char) :
    component? (piece ++ ending.toList) = some (.name (String.ofList (piece ++ ending.toList))) := by
  have hlast : (piece ++ ending.toList).getLast? ≠ some '.' := by
    rw [List.getLast?_append_of_ne_nil piece h.ne_nil]
    exact h.last_ne_dot
  have hempty : piece ++ ending.toList ≠ [] := List.append_ne_nil_of_right_ne_nil piece h.ne_nil
  have hdot : piece ++ ending.toList ≠ ['.'] := fun hpiece => hlast (by rw [hpiece]; rfl)
  have hdots : piece ++ ending.toList ≠ ['.', '.'] := fun hpiece => hlast (by rw [hpiece]; rfl)
  rw [component?, if_neg (not_or.mpr ⟨hempty, hdot⟩), if_neg hdots]

theorem inner_append {ending : String} (h : IsEnding ending) (path : String) :
    inner (path ++ ending) =
      leading path ++ [.name (String.ofList (lastPiece path ++ ending.toList))] := by
  have hpieces : pieces (path ++ ending) =
      (pieces path).dropLast ++ [lastPiece path ++ ending.toList] := by
    rw [pieces, String.toList_append]
    exact Text.splitAt_append h.flat path.toList
  rw [inner, hpieces, List.filterMap_append, List.filterMap_cons, component?_append h]
  rfl

theorem isAbsolute_append {ending : String} (h : IsEnding ending) (path : String) :
    isAbsolute (path ++ ending) = isAbsolute path := by
  rw [isAbsolute, isAbsolute, Text.hasPrefix, Text.hasPrefix, String.toList_append]
  cases path.toList with
  | nil =>
      cases hending : ending.toList with
      | nil => exact absurd hending h.ne_nil
      | cons c rest =>
          have hc : '/' ≠ c := by
            rintro rfl
            exact h.flat (hending ▸ List.mem_cons_self)
          simp [List.isPrefixOf, hc]
  | cons c rest => rfl

theorem isInside_append {ending : String} (h : IsEnding ending) (path : String) :
    IsInside (path ++ ending) ↔ isAbsolute path = false ∧ .parent ∉ leading path := by
  rw [IsInside, isAbsolute_append h, mem_components_iff (by simp) (by simp), inner_append h]
  simp

theorem IsInside.append {path ending : String} (hpath : IsInside path) (h : IsEnding ending) :
    IsInside (path ++ ending) := by
  refine (isInside_append h path).mpr ⟨hpath.1, fun hparent => hpath.2 ?_⟩
  have hsublist : (leading path).Sublist (inner path) :=
    (List.dropLast_sublist (pieces path)).filterMap component?
  exact (mem_components_iff (by simp) (by simp)).mpr (hsublist.subset hparent)

/-- The last character of the name that a path ends with. -/
def endChar? (path : String) : Option Char :=
  (components path).getLast?.bind fun
    | .name text => text.toList.getLast?
    | _ => none

/-- A joined path ends as its second part does. -/
theorem getLast?_components_join {first ending : String} (hfirst : first ≠ "")
    (h : IsEnding ending) (base : String) :
    (components (join first (base ++ ending))).getLast? =
      some (.name (String.ofList (lastPiece base ++ ending.toList))) := by
  have hinner := inner_append h base
  cases hbase : isAbsolute (base ++ ending) with
  | true =>
      rw [join, if_pos hbase, components_of_isAbsolute hbase, hinner, ← List.cons_append]
      exact List.getLast?_concat
  | false =>
      rw [components_join hfirst hbase, hinner, ← List.append_assoc]
      exact List.getLast?_concat

theorem endChar?_join {first ending : String} (hfirst : first ≠ "") (h : IsEnding ending)
    (base : String) : endChar? (join first (base ++ ending)) = ending.toList.getLast? := by
  rw [endChar?, getLast?_components_join hfirst h]
  show (String.ofList (lastPiece base ++ ending.toList)).toList.getLast? = _
  rw [String.toList_ofList, List.getLast?_append_of_ne_nil _ h.ne_nil]

/-! ## Plain names -/

/-- A name without slashes. -/
def IsPlain (name : String) : Prop :=
  '/' ∉ name.toList

theorem pieces_of_isPlain {name : String} (h : IsPlain name) : pieces name = [name.toList] :=
  Text.splitAt_of_not_mem h

/-- The component that a plain name is. -/
def ofName (name : String) : Component :=
  if name = "." then .here else if name = ".." then .parent else .name name

theorem ofName_injective {first second : String} (h : ofName first = ofName second) :
    first = second := by
  rw [ofName, ofName] at h
  split_ifs at h
  all_goals simp_all

theorem components_of_isPlain {name : String} (h : IsPlain name) (hname : name ≠ "") :
    components name = [ofName name] := by
  have hdot : name.toList = ['.'] ↔ name = "." := @String.toList_inj name "."
  have hdots : name.toList = ['.', '.'] ↔ name = ".." := @String.toList_inj name ".."
  have hempty : name.toList ≠ [] := fun htext => hname (String.toList_eq_nil_iff.mp htext)
  rw [components_of_pieces (pieces_of_isPlain h), start, if_neg hempty, component?, ofName]
  by_cases hhere : name = "."
  · rw [if_pos (hdot.mpr hhere), if_pos hhere]
    rfl
  · rw [if_neg (hdot.not.mpr hhere), if_neg (not_or.mpr ⟨hempty, hdot.not.mpr hhere⟩), if_neg hhere]
    by_cases hparent : name = ".."
    · rw [if_pos (hdots.mpr hparent), if_pos hparent]
      rfl
    · rw [if_neg (hdots.not.mpr hparent), if_neg hparent, String.ofList_toList]
      rfl

theorem inner_append_of_isPlain {name ending : String} (hname : IsPlain name)
    (h : IsEnding ending) : inner (name ++ ending) = [.name (name ++ ending)] := by
  have hpieces := pieces_of_isPlain hname
  have hleading : leading name = [] := by
    rw [leading, hpieces]
    rfl
  have hlast : lastPiece name = name.toList := by
    simp only [lastPiece, hpieces, List.getLast_singleton]
  rw [inner_append h, hleading, hlast, ← String.toList_append, String.ofList_toList]
  rfl

/-- A plain name with an ending in a directory. -/
theorem components_join_of_isPlain {first name ending : String} (hfirst : first ≠ "")
    (hname : IsPlain name) (h : IsEnding ending) :
    components (join first (name ++ ending)) = components first ++ [.name (name ++ ending)] := by
  have hrelative : isAbsolute (name ++ ending) = false := by
    rw [isAbsolute_append h, Bool.eq_false_iff]
    intro habsolute
    obtain ⟨rest, rfl⟩ := eq_slash_append_of_isAbsolute habsolute
    exact hname (by simp)
  rw [components_join hfirst hrelative, inner_append_of_isPlain hname h]

end Path

end HeaderSynth
