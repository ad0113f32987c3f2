import HeaderSynth.Annotation.Rule

/-!
# Collected arguments

Arguments are collected one by one into nested buckets.  What the buckets hold in the end is
what was added, whatever the order, and an annotation that consists of switches lists them in
ascending order.  Commas separate the switches, so where no name has a comma the text tells
which switches there are.
-/

namespace HeaderSynth

namespace Arguments

/-! ## What buckets hold -/

/-- The bucket at a nesting of `depth`. -/
def bucketAt (arguments : Arguments) (depth : Nat) : Bucket :=
  arguments.buckets[depth]?.getD .empty

theorem bucketAt_zero (buckets : List Bucket) : bucketAt ⟨buckets⟩ 0 = buckets.headD .empty := by
  cases buckets <;> rfl

theorem bucketAt_succ (buckets : List Bucket) (depth : Nat) :
    bucketAt ⟨buckets⟩ (depth + 1) = bucketAt ⟨buckets.tail⟩ depth := by
  cases buckets <;> rfl

/-- The argument is in its bucket. -/
def Holds (arguments : Arguments) : Argument → Prop
  | .switch depth name => name ∈ (arguments.bucketAt depth).switches
  | .parameter depth key value =>
    value ∈ ((arguments.bucketAt depth).parameters.get? key).getD .empty

theorem not_holds_empty (argument : Argument) : ¬empty.Holds argument := by
  cases argument <;> simp [Holds, empty, bucketAt, Bucket.empty, SortedMap.get?_empty]

/-- A change reaches one bucket and no other. -/
theorem bucketAt_updateBucket (change : Bucket → Bucket) (depth other : Nat)
    (buckets : List Bucket) :
    bucketAt ⟨updateBucket change depth buckets⟩ other =
      if other = depth then change (bucketAt ⟨buckets⟩ depth) else bucketAt ⟨buckets⟩ other := by
  induction depth generalizing other buckets with
  | zero => cases buckets <;> cases other <;> simp [updateBucket, bucketAt]
  | succ depth ih =>
      cases other with
      | zero => cases buckets <;> simp [updateBucket, bucketAt]
      | succ other =>
          have hrest := ih other buckets.tail
          cases buckets <;> simpa [updateBucket, bucketAt] using hrest

theorem holds_add {arguments later : Arguments} {added : Argument}
    (h : arguments.add added = .ok later) (argument : Argument) :
    later.Holds argument ↔ arguments.Holds argument ∨ argument = added := by
  cases added with
  | switch depth name =>
      cases h
      cases argument with
      | switch other switch =>
          rw [Holds, Holds, bucketAt_updateBucket]
          split <;> simp_all [Bucket.addSwitch, or_comm]
      | parameter other key value =>
          rw [Holds, Holds, bucketAt_updateBucket]
          split <;> simp_all [Bucket.addSwitch]
  | parameter depth key value =>
      rw [add] at h
      split at h
      · cases h
      cases h
      cases argument with
      | switch other switch =>
          rw [Holds, Holds, bucketAt_updateBucket]
          split <;> simp_all [Bucket.addParameter]
      | parameter other otherKey otherValue =>
          rw [Holds, Holds, bucketAt_updateBucket]
          split
          · by_cases hkey : otherKey = key <;> simp_all [Bucket.addParameter, or_comm]
          · simp_all

/-- The buckets hold what they held before and what was added. -/
theorem holds_collect {items : List Argument} {arguments later : Arguments}
    (h : collect items arguments = (later, .ok ())) (argument : Argument) :
    later.Holds argument ↔ arguments.Holds argument ∨ argument ∈ items := by
  induction items generalizing arguments with
  | nil =>
      cases h
      simp
  | cons item rest ih =>
      rw [collect] at h
      split at h
      · rename_i next hadd
        rw [ih h, holds_add hadd, List.mem_cons, or_assoc]
      · cases h

/-! ## Annotations of switches -/

/-- Switches of the outermost bucket change nothing else in it. -/
theorem exists_collect_switches {items : List Argument}
    (h : ∀ item ∈ items, ∃ name, item = .switch 0 name) (bucket : Bucket) :
    ∃ switches, collect items ⟨[bucket]⟩ = (⟨[{ bucket with switches }]⟩, .ok ()) := by
  induction items generalizing bucket with
  | nil => exact ⟨bucket.switches, rfl⟩
  | cons item rest ih =>
      obtain ⟨⟨name, rfl⟩, hrest⟩ := List.forall_mem_cons.mp h
      exact ih hrest (bucket.addSwitch name)

/-- An annotation of switches lists them in ascending order. -/
theorem textOf_switches {items : List Argument}
    (h : ∀ item ∈ items, ∃ name, item = .switch 0 name) :
    ∃ switches : SortedSet String,
      textOf items = .ok (String.intercalate ", " switches.toList) ∧
      ∀ name, name ∈ switches ↔ .switch 0 name ∈ items := by
  cases items with
  | nil => exact ⟨.empty, rfl, by simp [SortedSet.not_mem_empty]⟩
  | cons item rest =>
      obtain ⟨⟨first, rfl⟩, hrest⟩ := List.forall_mem_cons.mp h
      obtain ⟨switches, hcollect⟩ := exists_collect_switches hrest (Bucket.empty.addSwitch first)
      have hall : collect (.switch 0 first :: rest) empty =
          (⟨[{ Bucket.empty.addSwitch first with switches }]⟩, .ok ()) := hcollect
      refine ⟨switches, ?_, ?_⟩
      · rw [textOf, hall]
        simp [render, renderBuckets, Bucket.parts, Bucket.addSwitch, Bucket.empty, SortedMap.empty]
      · intro name
        exact (holds_collect hall (.switch 0 name)).trans (or_iff_right (not_holds_empty _))

/-! ## Reading an annotation back -/

/-- A list of names as the pieces between commas: each but the first begins with a blank. -/
theorem toList_intercalate_comma (name : String) (rest : List String) :
    (String.intercalate ", " (name :: rest)).toList =
      [','].intercalate (name.toList :: rest.map (' ' :: ·.toList)) := by
  rw [String.toList_intercalate]
  induction rest generalizing name with
  | nil => simp
  | cons next rest ih =>
      rw [List.map_cons, List.map_cons, List.intercalate_cons_cons, ← List.map_cons, ih,
        List.map_cons, List.intercalate_cons_cons]
      cases rest with
      | nil => simp
      | cons last rest => simp [List.intercalate_cons_cons]

/-- Names can be read back from the text that lists them if the text can be cut into pieces of
their kind, of which all but the first begin with a blank. -/
theorem intercalate_injective_of_cut {Q : List Char → Prop} {cut : List Char → List (List Char)}
    (hcut : ∀ pieces, (∀ piece ∈ pieces, Q piece) → pieces ≠ [] →
      cut ([','].intercalate pieces) = pieces)
    (hblank : ∀ piece, Q piece → Q (' ' :: piece)) (hnil : cut [] = [[]])
    {names others : List String} (hnames : ∀ name ∈ names, name ≠ "" ∧ Q name.toList)
    (hothers : ∀ name ∈ others, name ≠ "" ∧ Q name.toList)
    (h : String.intercalate ", " names = String.intercalate ", " others) : names = others := by
  have hpieces : ∀ {name : String} {rest : List String},
      (∀ listed ∈ name :: rest, listed ≠ "" ∧ Q listed.toList) →
        cut (String.intercalate ", " (name :: rest)).toList =
          name.toList :: rest.map (' ' :: ·.toList) := by
    intro name rest hlisted
    obtain ⟨hname, hrest⟩ := List.forall_mem_cons.mp hlisted
    rw [toList_intercalate_comma]
    apply hcut
    · refine List.forall_mem_cons.mpr ⟨hname.2, List.forall_mem_map.mpr fun listed hmem => ?_⟩
      exact hblank listed.toList (hrest listed hmem).2
    · exact List.cons_ne_nil _ _
  have hempty : ∀ {listed : List String}, (∀ name ∈ listed, name ≠ "" ∧ Q name.toList) →
      String.intercalate ", " listed = "" → listed = [] := by
    intro listed hlisted hnone
    cases listed with
    | nil => rfl
    | cons name rest =>
        have hfirst := hpieces hlisted
        rw [hnone, String.toList_empty, hnil] at hfirst
        have hname : [] = name.toList := (List.cons.inj hfirst).1
        exact absurd (String.toList_eq_nil_iff.mp hname.symm) (hlisted name List.mem_cons_self).1
  cases names with
  | nil => exact (hempty hothers h.symm).symm
  | cons name rest =>
      cases others with
      | nil => exact hempty hnames h
      | cons other more =>
          have hsame := hpieces hnames
          rw [h, hpieces hothers] at hsame
          obtain ⟨hfirst, hrest⟩ := List.cons.inj hsame
          have hinjective : Function.Injective fun name : String => ' ' :: name.toList := by
            intro left right heq
            exact String.toList_inj.mp (List.cons.inj heq).2
          rw [String.toList_inj.mp hfirst, List.map_inj_right hinjective |>.mp hrest]

/-- A name that can be told apart from its neighbours in a list. -/
def IsListable (name : String) : Prop :=
  name ≠ "" ∧ ',' ∉ name.toList

/-- Listable names can be read back from the text that lists them. -/
theorem intercalate_injective {names others : List String}
    (hnames : ∀ name ∈ names, IsListable name) (hothers : ∀ name ∈ others, IsListable name)
    (h : String.intercalate ", " names = String.intercalate ", " others) : names = others := by
  have hblank : ∀ piece : List Char, ',' ∉ piece → ',' ∉ ' ' :: piece :=
    fun _ => List.not_mem_cons_of_ne_of_not_mem (by decide)
  exact intercalate_injective_of_cut (fun _ => List.splitOn_intercalate ',') hblank rfl
    hnames hothers h

end Arguments

/-- A switch of the outermost bucket that can be told apart from its neighbours. -/
def Argument.IsListed : Argument → Prop
  | .switch depth name => depth = 0 ∧ Arguments.IsListable name
  | .parameter _ _ _ => False

instance (name : String) : Decidable (Arguments.IsListable name) :=
  inferInstanceAs (Decidable (_ ∧ _))

instance : DecidablePred Argument.IsListed
  | .switch _ _ => inferInstanceAs (Decidable (_ ∧ _))
  | .parameter _ _ _ => instDecidableFalse

theorem Argument.IsListed.exists_switch {argument : Argument} (h : argument.IsListed) :
    ∃ name, argument = .switch 0 name := by
  cases argument with
  | switch depth name =>
      obtain ⟨rfl, -⟩ := h
      exact ⟨name, rfl⟩
  | parameter depth key value => exact h.elim

namespace Arguments

theorem textOf_listed {items : List Argument} (h : ∀ item ∈ items, item.IsListed) :
    ∃ switches : SortedSet String,
      textOf items = .ok (String.intercalate ", " switches.toList) ∧
      (∀ name ∈ switches.toList, IsListable name) ∧
      ∀ name, name ∈ switches ↔ .switch 0 name ∈ items := by
  obtain ⟨switches, htext, hmem⟩ := textOf_switches fun item hitem => (h item hitem).exists_switch
  refine ⟨switches, htext, fun name hname => ?_, hmem⟩
  exact (h _ ((hmem name).mp hname)).2

/-- Listed switches can be read back from the text of an annotation. -/
theorem mem_of_textOf_eq {items others : List Argument} (hitems : ∀ item ∈ items, item.IsListed)
    (hothers : ∀ item ∈ others, item.IsListed) (h : textOf items = textOf others) :
    ∀ item ∈ items, item ∈ others := by
  obtain ⟨left, hleft, hleftNames, hleftMem⟩ := textOf_listed hitems
  obtain ⟨right, hright, hrightNames, hrightMem⟩ := textOf_listed hothers
  rw [hleft, hright] at h
  have hsame := intercalate_injective hleftNames hrightNames (Except.ok.inj h)
  intro item hitem
  obtain ⟨name, rfl⟩ := (hitems item hitem).exists_switch
  rw [← hrightMem, SortedSet.mem_def, ← hsame]
  exact (hleftMem name).mpr hitem

end Arguments

/-! ## Rules that fire -/

/-- The argument that a group yields. -/
def RuleGroup.fired? (group : RuleGroup) (input : FlagInput) : Option Argument :=
  (group.find? (·.applies input)).map (·.argument)

theorem RuleGroup.exists_of_fired? {group : RuleGroup} {input : FlagInput} {argument : Argument}
    (h : RuleGroup.fired? group input = some argument) :
    ∃ rule ∈ group, rule.argument = argument := by
  obtain ⟨rule, hrule, rfl⟩ := Option.map_eq_some_iff.mp h
  exact ⟨rule, List.mem_of_find?_eq_some hrule, rfl⟩

theorem exists_rule_of_mem_firedArguments {table : List RuleGroup} {input : FlagInput}
    {argument : Argument} (h : argument ∈ firedArguments table input) :
    ∃ group ∈ table, ∃ rule ∈ group, rule.argument = argument := by
  obtain ⟨group, hgroup, hfired⟩ := List.mem_filterMap.mp h
  exact ⟨group, hgroup, RuleGroup.exists_of_fired? hfired⟩

end HeaderSynth
