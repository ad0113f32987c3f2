import HeaderSynth.Proofs.Annotation.Collected
import HeaderSynth.Proofs.Text.Brackets
import HeaderSynth.Proofs.Text.Hexadecimal

/-!
# Annotations tell their arguments

Several values of a key and the nested bucket are written alike, in brackets behind a key.  The
key of the nested bucket is reserved, and brackets keep the commas between the values apart from
those between the arguments.  So an annotation that is built from words tells what every bucket
holds; only buckets with nothing in them, nor in the buckets inside, leave no trace.
-/

namespace HeaderSynth

open Text (StaysWhole)

/-! ## Words -/

/-- A word has no character that separates arguments. -/
def IsWord (text : String) : Prop :=
  text ≠ "" ∧ ∀ c ∈ text.toList, c ∉ [',', '=', '(', ')', ' ']

instance (text : String) : Decidable (IsWord text) :=
  @instDecidableAnd _ _ inferInstance (List.decidableBAll _ text.toList)

def Argument.IsOfWords : Argument → Prop
  | .switch _ name => IsWord name
  | .parameter _ key value => IsWord key ∧ IsWord value

/-- Arguments that are the outcome of additions, all of which succeeded, and of visits to buckets,
at any nesting and in any order. -/
inductive Arguments.IsBuilt : Arguments → Prop
  | empty : IsBuilt .empty
  | touch {arguments : Arguments} (h : IsBuilt arguments) (depth : Nat) :
      IsBuilt (arguments.touch depth)
  | add {arguments later : Arguments} {argument : Argument} (h : IsBuilt arguments)
      (hwords : argument.IsOfWords) (hadd : arguments.add argument = .ok later) : IsBuilt later

namespace IsWord

variable {text : String}

theorem not_mem (h : IsWord text) {c : Char} (hc : c ∈ [',', '=', '(', ')', ' ']) :
    c ∉ text.toList :=
  fun hmem => h.2 c hmem hc

theorem staysWhole (h : IsWord text) (base : Nat) : StaysWhole base text.toList := by
  apply StaysWhole.of_forall_mem
  intro c hc
  have hnone := h.2 c hc
  simp only [List.mem_cons, not_or] at hnone
  exact ⟨hnone.1, hnone.2.2.1, hnone.2.2.2.1⟩

theorem isListable (h : IsWord text) : Arguments.IsListable text :=
  ⟨h.1, h.not_mem (by decide)⟩

end IsWord

theorem isWord_metaKey : IsWord metaKey := by
  decide

/-! ## Plain buckets -/

/-- A key other than that of the nested bucket, with its values. -/
structure IsPlainParameter (key : String) (values : SortedSet String) : Prop where
  word : IsWord key
  free : key ≠ metaKey
  values : ∀ value ∈ values, IsWord value

/-- A bucket of words. -/
structure Bucket.IsPlain (bucket : Bucket) : Prop where
  switches : ∀ name ∈ bucket.switches, IsWord name
  parameters : ∀ entry ∈ bucket.parameters.toList, IsPlainParameter entry.1 entry.2

/-- What all entries satisfy is left true by a change that keeps it. -/
theorem forall_mem_alterAscending {κ ν : Type} [Ordered κ] {P : κ → ν → Prop} {key : κ}
    {update : Option ν → ν} {entries : List (κ × ν)} (h : ∀ entry ∈ entries, P entry.1 entry.2)
    (hnew : P key (update none)) (hupdate : ∀ value, P key value → P key (update (some value))) :
    ∀ entry ∈ alterAscending key update entries, P entry.1 entry.2 := by
  induction entries with
  | nil => exact List.forall_mem_singleton.mpr hnew
  | cons entry rest ih =>
      obtain ⟨hentry, hrest⟩ := List.forall_mem_cons.mp h
      rw [alterAscending]
      split
      · exact List.forall_mem_cons.mpr ⟨hnew, h⟩
      · rename_i hafter
        split
        · exact List.forall_mem_cons.mpr ⟨hentry, ih hrest⟩
        · rename_i hbefore
          have hkey : key = entry.1 :=
            Ordered.total _ _ (Bool.eq_false_iff.mpr hafter) (Bool.eq_false_iff.mpr hbefore)
          rw [← hkey] at hentry ⊢
          exact List.forall_mem_cons.mpr ⟨hupdate _ hentry, hrest⟩

namespace Bucket.IsPlain

variable {bucket : Bucket}

theorem empty : Bucket.empty.IsPlain where
  switches _ hname := absurd hname (SortedSet.not_mem_empty _)
  parameters _ hentry := absurd hentry List.not_mem_nil

theorem addSwitch {name : String} (h : bucket.IsPlain) (hname : IsWord name) :
    (bucket.addSwitch name).IsPlain where
  switches other hother := by
    rcases SortedSet.mem_insert.mp hother with rfl | hother
    · exact hname
    · exact h.switches other hother
  parameters := h.parameters

theorem addParameter {key value : String} (h : bucket.IsPlain) (hkey : IsWord key)
    (hvalue : IsWord value) (hfree : isMetaKey key = false) :
    (bucket.addParameter key value).IsPlain where
  switches := h.switches
  parameters := by
    have hne : key ≠ metaKey := by
      rintro rfl
      exact absurd hfree (by decide)
    apply forall_mem_alterAscending h.parameters
    · refine ⟨hkey, hne, fun other hother => ?_⟩
      rcases SortedSet.mem_insert.mp hother with rfl | hother
      · exact hvalue
      · exact absurd hother (SortedSet.not_mem_empty other)
    · intro values hvalues
      refine ⟨hkey, hne, fun other hother => ?_⟩
      rcases SortedSet.mem_insert.mp hother with rfl | hother
      · exact hvalue
      · exact hvalues.values other hother

end Bucket.IsPlain

theorem Arguments.forall_mem_updateBucket {P : Bucket → Prop} {change : Bucket → Bucket}
    (hempty : P .empty) (hchange : ∀ bucket, P bucket → P (change bucket)) (depth : Nat)
    {buckets : List Bucket} (h : ∀ bucket ∈ buckets, P bucket) :
    ∀ bucket ∈ updateBucket change depth buckets, P bucket := by
  fun_induction updateBucket change depth buckets with
  | case1 => exact List.forall_mem_singleton.mpr (hchange _ hempty)
  | case2 bucket rest =>
      obtain ⟨hbucket, hrest⟩ := List.forall_mem_cons.mp h
      exact List.forall_mem_cons.mpr ⟨hchange bucket hbucket, hrest⟩
  | case3 depth ih => exact List.forall_mem_cons.mpr ⟨hempty, ih h⟩
  | case4 depth bucket rest ih =>
      obtain ⟨hbucket, hrest⟩ := List.forall_mem_cons.mp h
      exact List.forall_mem_cons.mpr ⟨hbucket, ih hrest⟩

/-- One addition keeps the buckets plain. -/
theorem Arguments.isPlain_add {arguments later : Arguments} {argument : Argument}
    (h : ∀ bucket ∈ arguments.buckets, bucket.IsPlain) (hwords : argument.IsOfWords)
    (hadd : arguments.add argument = .ok later) : ∀ bucket ∈ later.buckets, bucket.IsPlain := by
  cases argument with
  | switch depth name =>
      cases hadd
      exact forall_mem_updateBucket .empty (fun _ hbucket => hbucket.addSwitch hwords) depth h
  | parameter depth key value =>
      rw [add] at hadd
      split at hadd
      · cases hadd
      · rename_i hfree
        cases hadd
        refine forall_mem_updateBucket .empty (fun _ hbucket => ?_) depth h
        exact hbucket.addParameter hwords.1 hwords.2 (Bool.eq_false_iff.mpr hfree)

theorem Arguments.IsBuilt.isPlain {arguments : Arguments} (h : arguments.IsBuilt) :
    ∀ bucket ∈ arguments.buckets, bucket.IsPlain := by
  induction h with
  | empty => exact fun _ hbucket => absurd hbucket List.not_mem_nil
  | touch _ depth ih => exact forall_mem_updateBucket .empty (fun _ hbucket => hbucket) depth ih
  | add _ hwords hadd ih => exact isPlain_add ih hwords hadd

/-! ## One parameter -/

/-- What stands behind the key of a parameter. -/
def renderValues : List String → String
  | [value] => value
  | values => "(" ++ String.intercalate ", " values ++ ")"

theorem renderValues_cases (values : List String) :
    (∃ value, values = [value] ∧ renderValues values = value) ∨
      renderValues values = "(" ++ String.intercalate ", " values ++ ")" := by
  rw [renderValues.eq_def]
  split
  · exact .inl ⟨_, rfl, rfl⟩
  · exact .inr rfl

theorem renderParameter_eq (key : String) (values : SortedSet String) :
    Bucket.renderParameter key values = key ++ "=" ++ renderValues values.toList := by
  have hopening : key ++ "=(" = key ++ "=" ++ "(" := by
    rw [String.append_assoc]
    rfl
  rw [Bucket.renderParameter]
  split
  · rename_i value hvalues
    rw [hvalues]
    rfl
  · rename_i hmany
    rcases renderValues_cases values.toList with ⟨value, hvalue, -⟩ | hlist
    · exact absurd hvalue (hmany value)
    · rw [hlist, hopening]
      simp only [String.append_assoc]

/-- The key of an assignment ends before the first sign. -/
theorem cut_assignment {key : String} (h : IsWord key) (text : String) :
    (key ++ "=" ++ text).toList.takeWhile (· ≠ '=') = key.toList ∧
      (key ++ "=" ++ text).toList.dropWhile (· ≠ '=') = '=' :: text.toList := by
  have hkey : ∀ c ∈ key.toList, decide (c ≠ '=') = true := by
    intro c hc
    apply decide_eq_true
    rintro rfl
    exact h.not_mem (by decide) hc
  have hlist : (key ++ "=" ++ text).toList = key.toList ++ '=' :: text.toList := by
    simp
  rw [hlist]
  exact Text.takeWhile_append_stop hkey (by simp)

theorem assign_inj {key other text more : String} (hkey : IsWord key) (hother : IsWord other)
    (h : key ++ "=" ++ text = other ++ "=" ++ more) : key = other ∧ text = more := by
  obtain ⟨hfront, hback⟩ := cut_assignment hkey text
  rw [h, (cut_assignment hother more).1] at hfront
  rw [h, (cut_assignment hother more).2] at hback
  exact ⟨(String.toList_inj.mp hfront).symm, (String.toList_inj.mp (List.cons.inj hback).2).symm⟩

/-- A single value is a word, and begins with no bracket. -/
theorem renderValues_injective {values others : List String}
    (hvalues : ∀ value ∈ values, IsWord value) (hothers : ∀ value ∈ others, IsWord value)
    (h : renderValues values = renderValues others) : values = others := by
  have hbracket : ∀ value text : String, IsWord value → value ≠ "(" ++ text ++ ")" := by
    rintro value text hword rfl
    exact hword.not_mem (c := '(') (by decide) (by simp)
  rcases renderValues_cases values with ⟨value, rfl, hvalue⟩ | hlist
  · rcases renderValues_cases others with ⟨other, rfl, hother⟩ | hmany
    · rw [← hvalue, h, hother]
    · rw [hvalue, hmany] at h
      exact absurd h (hbracket _ _ (hvalues value List.mem_cons_self))
  · rcases renderValues_cases others with ⟨other, rfl, hother⟩ | hmany
    · rw [hlist, hother] at h
      exact absurd h.symm (hbracket _ _ (hothers other List.mem_cons_self))
    · rw [hlist, hmany, String.append_left_inj, String.append_right_inj] at h
      exact Arguments.intercalate_injective (fun value hvalue => (hvalues value hvalue).isListable)
        (fun value hvalue => (hothers value hvalue).isListable) h

/-- A parameter tells its key and its values. -/
theorem IsPlainParameter.renderParameter_inj {key other : String} {values others : SortedSet String}
    (h : IsPlainParameter key values) (hother : IsPlainParameter other others)
    (heq : Bucket.renderParameter key values = Bucket.renderParameter other others) :
    key = other ∧ values = others := by
  rw [renderParameter_eq, renderParameter_eq] at heq
  obtain ⟨hkey, htext⟩ := assign_inj h.word hother.word heq
  have hvalues := renderValues_injective h.values hother.values htext
  refine ⟨hkey, SortedSet.ext fun value => ?_⟩
  rw [SortedSet.mem_def, SortedSet.mem_def, hvalues]

/-! ## Parts of a bucket -/

/-- A part that can be told apart from its neighbours in a list. -/
def IsPart (part : String) : Prop :=
  part ≠ "" ∧ StaysWhole 0 part.toList

theorem IsWord.isPart {text : String} (h : IsWord text) : IsPart text :=
  ⟨h.1, h.staysWhole 0⟩

theorem isPart_assignment {key text : String} (hkey : IsWord key)
    (htext : StaysWhole 0 text.toList) : IsPart (key ++ "=" ++ text) := by
  constructor
  · simp
  · have hsign : StaysWhole 0 ['='] := .char (by decide) (by decide) (by decide)
    simpa using ((hkey.staysWhole 0).append hsign).append htext

theorem staysWhole_list {parts : List String} (h : ∀ part ∈ parts, StaysWhole 1 part.toList) :
    StaysWhole 1 (String.intercalate ", " parts).toList := by
  have hcomma : StaysWhole 1 [','] := .char (by decide) (by decide) (by decide)
  have hblank : StaysWhole 1 [' '] := .char (by decide) (by decide) (by decide)
  rw [String.toList_intercalate]
  exact (hcomma.append hblank).intercalate (List.forall_mem_map.mpr h)

theorem staysWhole_bracketed {text : String} (h : StaysWhole 1 text.toList) :
    StaysWhole 0 ("(" ++ text ++ ")").toList := by
  simpa using h.brackets

theorem IsPlainParameter.isPart {key : String} {values : SortedSet String}
    (h : IsPlainParameter key values) : IsPart (Bucket.renderParameter key values) := by
  rw [renderParameter_eq]
  apply isPart_assignment h.word
  rcases renderValues_cases values.toList with ⟨value, hvalues, htext⟩ | hlist
  · rw [htext]
    apply (h.values value _).staysWhole
    rw [SortedSet.mem_def, hvalues]
    exact List.mem_singleton_self value
  · rw [hlist]
    apply staysWhole_bracketed (staysWhole_list _)
    exact fun value hvalue => (h.values value hvalue).staysWhole 1

/-! ## Buckets -/

/-- The part that stands for the buckets inside of one, unless nothing is in them. -/
def nestedParts (buckets : List Bucket) : List String :=
  if buckets.all Bucket.isEmpty then []
  else [metaKey ++ "=" ++ ("(" ++ Arguments.renderBuckets buckets ++ ")")]

theorem renderBuckets_eq (buckets : List Bucket) :
    Arguments.renderBuckets buckets =
      String.intercalate ", " ((buckets.headD .empty).parts ++ nestedParts buckets.tail) := by
  cases buckets with
  | nil => rfl
  | cons bucket rest =>
      have hopening : metaKey ++ "=(" = metaKey ++ "=" ++ "(" := rfl
      rw [Arguments.renderBuckets, nestedParts, hopening]
      simp only [String.append_assoc, List.headD_cons, List.tail_cons]

theorem Bucket.IsPlain.isPart {bucket : Bucket} (h : bucket.IsPlain) :
    ∀ part ∈ bucket.parts, IsPart part := by
  intro part hpart
  rcases List.mem_append.mp hpart with hswitch | hparameter
  · exact (h.switches part hswitch).isPart
  · obtain ⟨entry, hentry, rfl⟩ := List.mem_map.mp hparameter
    exact (h.parameters entry hentry).isPart

theorem isPart_of_mem_nestedParts {buckets : List Bucket}
    (h : StaysWhole 1 (Arguments.renderBuckets buckets).toList) :
    ∀ part ∈ nestedParts buckets, IsPart part := by
  intro part hpart
  rw [nestedParts] at hpart
  split at hpart
  · cases hpart
  · rw [List.mem_singleton.mp hpart]
    exact isPart_assignment isWord_metaKey (staysWhole_bracketed h)

/-- However deep buckets nest, brackets around them keep their text in one piece. -/
theorem staysWhole_renderBuckets {buckets : List Bucket} (h : ∀ bucket ∈ buckets, bucket.IsPlain) :
    StaysWhole 1 (Arguments.renderBuckets buckets).toList := by
  induction buckets with
  | nil => exact .nil 1
  | cons bucket rest ih =>
      obtain ⟨hbucket, hrest⟩ := List.forall_mem_cons.mp h
      rw [renderBuckets_eq]
      apply staysWhole_list
      intro part hpart
      have hwhole : IsPart part := by
        rcases List.mem_append.mp hpart with hown | hnested
        · exact hbucket.isPart part hown
        · exact isPart_of_mem_nestedParts (ih hrest) part hnested
      exact hwhole.2.mono (Nat.zero_le 1)

/-! ## Reading an annotation back -/

/-- Parts can be read back from the text that lists them. -/
theorem parts_injective {parts others : List String} (hparts : ∀ part ∈ parts, IsPart part)
    (hothers : ∀ part ∈ others, IsPart part)
    (h : String.intercalate ", " parts = String.intercalate ", " others) : parts = others := by
  have hspace : StaysWhole 0 [' '] := .char (by decide) (by decide) (by decide)
  exact Arguments.intercalate_injective_of_cut (fun _ => Text.splitOutside_intercalate)
    (fun _ => hspace.append) rfl hparts hothers h

/-- Two parts of a list are told apart by a property that the items of the second have. -/
theorem append_inj_of_forall {α : Type} {P : α → Prop} {front back first last : List α}
    (hfront : ∀ item ∈ front, ¬P item) (hback : ∀ item ∈ back, P item)
    (hfirst : ∀ item ∈ first, ¬P item) (hlast : ∀ item ∈ last, P item)
    (h : front ++ back = first ++ last) : front = first ∧ back = last := by
  classical
  have hfilter : ∀ {left right : List α}, (∀ item ∈ left, ¬P item) → (∀ item ∈ right, P item) →
      (left ++ right).filter (fun item => decide (P item)) = right := by
    intro left right hleft hright
    rw [List.filter_append, List.filter_eq_nil_iff.mpr (by simpa using hleft),
      List.filter_eq_self.mpr (by simpa using hright), List.nil_append]
  have hsame : back = last := by
    rw [← hfilter hfront hback, h, hfilter hfirst hlast]
  rw [hsame] at h
  exact ⟨List.append_cancel_right h, hsame⟩

theorem map_inj_on {α β : Type} {f : α → β} {left right : List α}
    (hinj : ∀ item ∈ left, ∀ other ∈ right, f item = f other → item = other)
    (h : left.map f = right.map f) : left = right := by
  induction left generalizing right with
  | nil => exact (List.map_eq_nil_iff.mp h.symm).symm
  | cons item rest ih =>
      cases right with
      | nil => cases h
      | cons other more =>
          obtain ⟨hfirst, hrest⟩ := List.cons.inj h
          rw [hinj item List.mem_cons_self other List.mem_cons_self hfirst]
          refine congrArg (other :: ·) (ih (fun x hx y hy => ?_) hrest)
          exact hinj x (List.mem_cons_of_mem item hx) y (List.mem_cons_of_mem other hy)

/-- A part with a key. -/
def IsAssignment (part : String) : Prop :=
  '=' ∈ part.toList

/-- A part that the key of the nested bucket begins. -/
def IsNested (part : String) : Prop :=
  ∃ text, part = metaKey ++ "=" ++ text

theorem isNested_of_mem_nestedParts {buckets : List Bucket} :
    ∀ part ∈ nestedParts buckets, IsNested part := by
  intro part hpart
  rw [nestedParts] at hpart
  split at hpart
  · cases hpart
  · exact ⟨_, List.mem_singleton.mp hpart⟩

theorem IsNested.isAssignment {part : String} (h : IsNested part) : IsAssignment part := by
  obtain ⟨text, rfl⟩ := h
  simp [IsAssignment]

namespace Bucket

/-- The parts of the parameters. -/
def parameterParts (bucket : Bucket) : List String :=
  bucket.parameters.toList.map fun entry => renderParameter entry.1 entry.2

theorem parts_eq (bucket : Bucket) :
    bucket.parts = bucket.switches.toList ++ bucket.parameterParts := rfl

variable {bucket other : Bucket}

theorem IsPlain.not_isAssignment (h : bucket.IsPlain) :
    ∀ name ∈ bucket.switches.toList, ¬IsAssignment name :=
  fun name hname => (h.switches name hname).not_mem (by decide)

theorem isAssignment_of_mem_parameterParts :
    ∀ part ∈ bucket.parameterParts, IsAssignment part := by
  intro part hpart
  obtain ⟨entry, -, rfl⟩ := List.mem_map.mp hpart
  rw [IsAssignment, renderParameter_eq]
  simp

/-- The reserved key is that of no parameter. -/
theorem IsPlain.not_isNested (h : bucket.IsPlain) :
    ∀ part ∈ bucket.parameterParts, ¬IsNested part := by
  rintro part hpart ⟨text, htext⟩
  obtain ⟨entry, hentry, rfl⟩ := List.mem_map.mp hpart
  have hparameter := h.parameters entry hentry
  rw [renderParameter_eq] at htext
  exact hparameter.free (assign_inj hparameter.word isWord_metaKey htext).1

/-- Plain buckets with the same parts are equal. -/
theorem IsPlain.ext (h : bucket.IsPlain) (hother : other.IsPlain)
    (hswitches : bucket.switches.toList = other.switches.toList)
    (hparameters : bucket.parameterParts = other.parameterParts) : bucket = other := by
  have hentries : bucket.parameters.toList = other.parameters.toList := by
    apply map_inj_on _ hparameters
    intro left hleft right hright heq
    obtain ⟨hkey, hvalues⟩ :=
      (h.parameters left hleft).renderParameter_inj (hother.parameters right hright) heq
    exact Prod.ext hkey hvalues
  obtain ⟨⟨switches, _⟩, ⟨entries, _⟩⟩ := bucket
  obtain ⟨⟨otherSwitches, _⟩, ⟨otherEntries, _⟩⟩ := other
  cases hswitches
  cases hentries
  rfl

end Bucket

namespace Arguments

/-- Buckets with nothing in them leave no text. -/
theorem renderBuckets_of_isEmpty {buckets : List Bucket} (h : buckets.all Bucket.isEmpty) :
    renderBuckets buckets = "" := by
  cases buckets with
  | nil => rfl
  | cons bucket rest =>
      rw [List.all_cons, Bool.and_eq_true] at h
      obtain ⟨hbucket, hrest⟩ := h
      have hparts : bucket.parts = [] := by
        simp only [Bucket.isEmpty, SortedSet.isEmpty, SortedMap.isEmpty, Bool.and_eq_true,
          List.isEmpty_iff] at hbucket
        rw [Bucket.parts, hbucket.1, hbucket.2]
        rfl
      rw [renderBuckets_eq, List.headD_cons, List.tail_cons, hparts, nestedParts, if_pos hrest]
      rfl

theorem renderBuckets_eq_of_nestedParts_eq {left right : List Bucket}
    (h : nestedParts left = nestedParts right) : renderBuckets left = renderBuckets right := by
  rw [nestedParts, nestedParts] at h
  split at h
  · rename_i hleft
    split at h
    · rename_i hright
      rw [renderBuckets_of_isEmpty hleft, renderBuckets_of_isEmpty hright]
    · cases h
  · split at h
    · cases h
    · have htext := (List.cons.inj h).1
      rwa [String.append_right_inj, String.append_left_inj, String.append_right_inj] at htext

variable {buckets : List Bucket}

theorem isPlain_headD (h : ∀ bucket ∈ buckets, bucket.IsPlain) :
    (buckets.headD .empty).IsPlain := by
  cases buckets with
  | nil => exact .empty
  | cons bucket rest => exact h bucket List.mem_cons_self

theorem isPlain_tail (h : ∀ bucket ∈ buckets, bucket.IsPlain) :
    ∀ bucket ∈ buckets.tail, bucket.IsPlain :=
  fun bucket hbucket => h bucket (List.mem_of_mem_tail hbucket)

/-- What a chain of buckets lists at its outermost nesting. -/
theorem isPart_of_mem_headD (h : ∀ bucket ∈ buckets, bucket.IsPlain) :
    ∀ part ∈ (buckets.headD .empty).parts ++ nestedParts buckets.tail, IsPart part :=
  List.forall_mem_append.mpr ⟨(isPlain_headD h).isPart,
    isPart_of_mem_nestedParts (staysWhole_renderBuckets (isPlain_tail h))⟩

theorem isAssignment_of_mem_headD (buckets : List Bucket) :
    ∀ part ∈ (buckets.headD .empty).parameterParts ++ nestedParts buckets.tail,
      IsAssignment part :=
  List.forall_mem_append.mpr ⟨Bucket.isAssignment_of_mem_parameterParts,
    fun part hpart => (isNested_of_mem_nestedParts part hpart).isAssignment⟩

/-- A text tells the outermost bucket, and the text of the buckets inside. -/
theorem head_tail_of_renderBuckets_eq {left right : List Bucket}
    (hleft : ∀ bucket ∈ left, bucket.IsPlain) (hright : ∀ bucket ∈ right, bucket.IsPlain)
    (h : renderBuckets left = renderBuckets right) :
    left.headD .empty = right.headD .empty ∧
      renderBuckets left.tail = renderBuckets right.tail := by
  have hleftHead := isPlain_headD hleft
  have hrightHead := isPlain_headD hright
  rw [renderBuckets_eq, renderBuckets_eq right] at h
  have hparts := parts_injective (isPart_of_mem_headD hleft) (isPart_of_mem_headD hright) h
  rw [Bucket.parts_eq, Bucket.parts_eq, List.append_assoc, List.append_assoc] at hparts
  obtain ⟨hswitches, hrest⟩ := append_inj_of_forall hleftHead.not_isAssignment
    (isAssignment_of_mem_headD left) hrightHead.not_isAssignment
    (isAssignment_of_mem_headD right) hparts
  obtain ⟨hparameters, hnested⟩ := append_inj_of_forall hleftHead.not_isNested
    isNested_of_mem_nestedParts hrightHead.not_isNested isNested_of_mem_nestedParts hrest
  exact ⟨hleftHead.ext hrightHead hswitches hparameters,
    renderBuckets_eq_of_nestedParts_eq hnested⟩

/-- The buckets are read from the outside in. -/
theorem bucketAt_eq_of_renderBuckets_eq (depth : Nat) {left right : List Bucket}
    (hleft : ∀ bucket ∈ left, bucket.IsPlain) (hright : ∀ bucket ∈ right, bucket.IsPlain)
    (h : renderBuckets left = renderBuckets right) :
    bucketAt ⟨left⟩ depth = bucketAt ⟨right⟩ depth := by
  induction depth generalizing left right with
  | zero =>
      rw [bucketAt_zero, bucketAt_zero]
      exact (head_tail_of_renderBuckets_eq hleft hright h).1
  | succ depth ih =>
      rw [bucketAt_succ, bucketAt_succ]
      apply ih (isPlain_tail hleft) (isPlain_tail hright)
      exact (head_tail_of_renderBuckets_eq hleft hright h).2

/-- Arguments that are built from words and have the same text hold the same switches and the
same values of the same keys, at every nesting. -/
theorem bucketAt_eq_of_render_eq {left right : Arguments} (hleft : left.IsBuilt)
    (hright : right.IsBuilt) (h : left.render = right.render) (depth : Nat) :
    left.bucketAt depth = right.bucketAt depth :=
  bucketAt_eq_of_renderBuckets_eq depth hleft.isPlain hright.isPlain h

/-- Two values of a nested key, added in either order, with visits to empty buckets. -/
theorem bucketAt_eq_of_render_eq_tools :
    ∃ left right : Arguments, left.IsBuilt ∧ right.IsBuilt ∧ left ≠ right ∧
      left.render = "Abstract, meta=(Category=(Racks, Tools))" ∧
      right.render = "Abstract, meta=(Category=(Racks, Tools))" ∧
      left.bucketAt 1 = right.bucketAt 1 := by
  let left : Arguments := ⟨[⟨.ofList ["Abstract"], .empty⟩,
    ⟨.empty, SortedMap.empty.insert "Category" (.ofList ["Racks", "Tools"])⟩]⟩
  let right : Arguments := ⟨left.buckets ++ [.empty]⟩
  have hempty : Arguments.empty.IsBuilt := .empty
  have hswitch : (Argument.switch 0 "Abstract").IsOfWords :=
    (by decide : IsWord "Abstract")
  have htools : (Argument.parameter 1 "Category" "Tools").IsOfWords := ⟨by decide, by decide⟩
  have hracks : (Argument.parameter 1 "Category" "Racks").IsOfWords := ⟨by decide, by decide⟩
  have hleft : left.IsBuilt := ((hempty.add hswitch rfl).add htools rfl).add hracks rfl
  have hright : right.IsBuilt := (((hempty.touch 2).add hracks rfl).add hswitch rfl).add htools rfl
  have hleftText : left.render = "Abstract, meta=(Category=(Racks, Tools))" := by decide +kernel
  have hrightText : right.render = "Abstract, meta=(Category=(Racks, Tools))" := by decide +kernel
  exact ⟨left, right, hleft, hright, by decide +kernel, hleftText, hrightText,
    bucketAt_eq_of_render_eq hleft hright (hleftText.trans hrightText.symm) 1⟩

end Arguments

end HeaderSynth
