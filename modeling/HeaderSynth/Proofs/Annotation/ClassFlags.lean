import HeaderSynth.Annotation.Tables
import HeaderSynth.Proofs.Annotation.Collected

/-!
# Flags of classes

The annotation of a class lists switches for the bits of its mask that its super class does not
already guarantee, and for some bits of the super class that it takes back.  Given the mask of
the super class, the text of these switches determines every bit that the rules look at.
-/

namespace HeaderSynth

/-! ## Groups that share no arguments -/

/-- No two groups have an argument in common. -/
def RuleTable.IsDistinct (table : List RuleGroup) : Prop :=
  ∀ group ∈ table, ∀ rule ∈ group, ∀ other ∈ table, ∀ alternative ∈ other,
    rule.argument = alternative.argument → group = other

/-- Where no groups share arguments, what fires as a whole tells what each group yields. -/
theorem RuleTable.IsDistinct.fired?_eq_some {table : List RuleGroup}
    (hdistinct : RuleTable.IsDistinct table) {first second : FlagInput}
    (h : ∀ argument ∈ firedArguments table first, argument ∈ firedArguments table second)
    {group : RuleGroup} (hgroup : group ∈ table) {argument : Argument}
    (hfired : RuleGroup.fired? group first = some argument) :
    RuleGroup.fired? group second = some argument := by
  have hmem : argument ∈ firedArguments table first :=
    List.mem_filterMap.mpr ⟨group, hgroup, hfired⟩
  obtain ⟨other, hother, hagain⟩ := List.mem_filterMap.mp (h argument hmem)
  obtain ⟨rule, hrule, rfl⟩ := RuleGroup.exists_of_fired? hfired
  obtain ⟨alternative, halternative, hsame⟩ := RuleGroup.exists_of_fired? hagain
  rw [hdistinct group hgroup rule hrule other hother alternative halternative hsame.symm]
  exact hagain

/-! ## Rules about one bit -/

section OneBit

variable {bits : BitVec 64} {index : Nat}

theorem twoPow_ne_zero (hindex : index < 64) : BitVec.twoPow 64 index ≠ 0 := by
  intro hzero
  have hbit := congrArg (·.getLsbD index) hzero
  simp [hindex] at hbit

theorem and_twoPow_beq_self (hindex : index < 64) :
    (bits &&& BitVec.twoPow 64 index == BitVec.twoPow 64 index) = bits.getLsbD index := by
  rw [BitVec.and_twoPow]
  cases bits.getLsbD index with
  | true => simp
  | false => simpa using (twoPow_ne_zero hindex).symm

theorem and_twoPow_beq_zero (hindex : index < 64) :
    (bits &&& BitVec.twoPow 64 index == 0) = !bits.getLsbD index := by
  rw [BitVec.and_twoPow]
  cases bits.getLsbD index with
  | true => simpa using twoPow_ne_zero hindex
  | false => simp

end OneBit

namespace Rule

variable {kind : FlagKind} {flags : Flags kind} {index : Nat}

theorem applies_whenOwn (hindex : index < 64) (hflags : flags.raw = BitVec.twoPow 64 index)
    (name : String) (input : FlagInput) :
    (whenOwn flags name).applies input = input.own.getLsbD index := by
  simp [applies, whenOwn, hflags, and_twoPow_beq_self hindex]

theorem applies_whenDropped (hindex : index < 64) (hflags : flags.raw = BitVec.twoPow 64 index)
    (name : String) (input : FlagInput) :
    (whenDropped flags name).applies input =
      (input.parent.getLsbD index && !input.current.getLsbD index) := by
  simp only [applies, whenDropped, hflags, and_twoPow_beq_self hindex, and_twoPow_beq_zero hindex]
  simp

/-- The bits that a rule looks at. -/
def mentioned (rule : Rule) : BitVec 64 :=
  rule.ownAll ||| rule.ownNone ||| rule.parentAll ||| rule.currentNone

end Rule

/-- The bits that some rule of a table looks at. -/
def mentionedBits (table : List RuleGroup) : BitVec 64 :=
  table.flatten.foldr (fun rule bits => rule.mentioned ||| bits) 0

/-- Masks that agree on what each rule looks at agree on what the table looks at. -/
theorem and_mentionedBits_congr {table : List RuleGroup} {left right : BitVec 64}
    (h : ∀ group ∈ table, ∀ rule ∈ group, left &&& rule.mentioned = right &&& rule.mentioned) :
    left &&& mentionedBits table = right &&& mentionedBits table := by
  have hrules : ∀ rule ∈ table.flatten, left &&& rule.mentioned = right &&& rule.mentioned := by
    intro rule hrule
    obtain ⟨group, hgroup, hrule⟩ := List.mem_flatten.mp hrule
    exact h group hgroup rule hrule
  rw [mentionedBits]
  generalize table.flatten = rules at hrules
  induction rules with
  | nil => simp
  | cons rule rest ih =>
      obtain ⟨hrule, hrest⟩ := List.forall_mem_cons.mp hrules
      rw [List.foldr_cons, BitVec.and_or_distrib_left, BitVec.and_or_distrib_left, hrule,
        ih hrest]

/-! ## What the masks of a class and its super class say -/

section Masks

variable {kind : FlagKind} (current : Flags kind) (parent : Option (Flags kind)) (index : Nat)

theorem getLsbD_raw (hindex : index < 64) :
    current.raw.getLsbD index = current.bits.getLsbD index := by
  simp [Flags.raw, hindex]

theorem getLsbD_guaranteed :
    (Flags.guaranteed parent).bits.getLsbD index =
      ((parent.getD .none).bits.getLsbD index && (Flags.inherited kind).bits.getLsbD index) :=
  BitVec.getLsbD_and

theorem getLsbD_own :
    (current.own parent).bits.getLsbD index =
      (current.bits.getLsbD index && !(Flags.guaranteed parent).bits.getLsbD index) := by
  rw [Flags.own, Flags.difference, BitVec.getLsbD_and, BitVec.getLsbD_not]
  by_cases hindex : index < kind.width
  · simp [hindex]
  · simp [BitVec.getLsbD_of_ge _ _ (Nat.le_of_not_lt hindex)]

/-- The masks that rules look at, bit by bit. -/
theorem getLsbD_flagInput (hindex : index < 64) :
    (FlagInput.of current parent).current.getLsbD index = current.bits.getLsbD index ∧
      (FlagInput.of current parent).parent.getLsbD index =
        (parent.getD .none).bits.getLsbD index ∧
      (FlagInput.of current parent).own.getLsbD index =
        (current.bits.getLsbD index && !(Flags.guaranteed parent).bits.getLsbD index) := by
  rw [FlagInput.of, getLsbD_raw _ _ hindex, getLsbD_raw _ _ hindex, getLsbD_raw _ _ hindex,
    getLsbD_own]
  exact ⟨rfl, rfl, rfl⟩

end Masks

/-- The bits of a super class that a class can take back. -/
def ClassFlags.revocable : ClassFlags :=
  transient ||| notPlaceable

/-- The mask has what the super class guarantees, but perhaps not what a class can take back. -/
def ClassFlags.Inherits (flags : ClassFlags) (parent : Option ClassFlags) : Prop :=
  flags.contains ((Flags.guaranteed parent).difference revocable) = true

theorem ClassFlags.Inherits.getLsbD {flags : ClassFlags} {parent : Option ClassFlags}
    (h : flags.Inherits parent) {index : Nat} (hkept : revocable.bits.getLsbD index = false)
    (hparent : (Flags.guaranteed parent).bits.getLsbD index = true) :
    flags.bits.getLsbD index = true := by
  have hindex := BitVec.lt_of_getLsbD hparent
  have hguaranteed :
      ((Flags.guaranteed parent).difference revocable).bits.getLsbD index = true := by
    rw [Flags.difference, BitVec.getLsbD_and, BitVec.getLsbD_not, hparent, hkept]
    simpa using hindex
  have hbits := congrArg (·.getLsbD index) (eq_of_beq h)
  rw [BitVec.getLsbD_and, hguaranteed, Bool.and_true] at hbits
  exact hbits

/-! ## The table of classes -/

/-- A group of rules about the bit `index`, for which nothing is lost. -/
inductive RuleGroup.Tells (index : Nat) : RuleGroup → Prop where
  /-- A switch for the own bit, where a class cannot take back the bit of its super class. -/
  | alone {flags : ClassFlags} (name : String) (hflags : flags.raw = BitVec.twoPow 64 index)
      (hkept : ClassFlags.revocable.bits.getLsbD index = false) :
      Tells index (Rule.alone flags name)
  | keptOrDropped {flags : ClassFlags} {kept dropped : String}
      (hflags : flags.raw = BitVec.twoPow 64 index) (hnames : kept ≠ dropped) :
      Tells index (Rule.keptOrDropped flags kept dropped)

theorem RuleGroup.Tells.mentioned_eq {index : Nat} {group : RuleGroup} (h : Tells index group) :
    ∀ rule ∈ group, rule.mentioned = BitVec.twoPow 64 index := by
  cases h with
  | alone name hflags => simp [Rule.alone, Rule.whenOwn, Rule.mentioned, hflags]
  | keptOrDropped hflags =>
      simp [Rule.keptOrDropped, Rule.whenOwn, Rule.whenDropped, Rule.mentioned, hflags]

theorem RuleGroup.fired?_alone {flags : ClassFlags} {index : Nat} (hindex : index < 64)
    (hflags : flags.raw = BitVec.twoPow 64 index) (name : String) (input : FlagInput) :
    fired? (Rule.alone flags name) input =
      if input.own.getLsbD index then some (.switch 0 name) else none := by
  have hrule := Rule.applies_whenOwn hindex hflags name input
  cases hown : input.own.getLsbD index <;> simp_all [fired?, Rule.alone, Rule.whenOwn]

theorem RuleGroup.fired?_keptOrDropped {flags : ClassFlags} {index : Nat} (hindex : index < 64)
    (hflags : flags.raw = BitVec.twoPow 64 index) (kept dropped : String) (input : FlagInput) :
    fired? (Rule.keptOrDropped flags kept dropped) input =
      if input.own.getLsbD index then some (.switch 0 kept)
      else if input.parent.getLsbD index && !input.current.getLsbD index then
        some (.switch 0 dropped)
      else none := by
  have hkept := Rule.applies_whenOwn hindex hflags kept input
  have hdropped := Rule.applies_whenDropped hindex hflags dropped input
  rw [fired?, Rule.keptOrDropped, List.find?_cons, hkept]
  cases input.own.getLsbD index with
  | true => rfl
  | false =>
      rw [List.find?_cons, hdropped]
      cases input.parent.getLsbD index && !input.current.getLsbD index <;> rfl

/-- What a group about a bit yields tells the bit. -/
theorem RuleGroup.Tells.getLsbD_eq {index : Nat} {group : RuleGroup} (h : Tells index group)
    (hindex : index < 64) {parent : Option ClassFlags} {left right : ClassFlags}
    (hleft : left.Inherits parent) (hright : right.Inherits parent)
    (hfired : fired? group (.of left parent) = fired? group (.of right parent)) :
    left.bits.getLsbD index = right.bits.getLsbD index := by
  obtain ⟨hleftCurrent, hleftParent, hleftOwn⟩ := getLsbD_flagInput left parent index hindex
  obtain ⟨hrightCurrent, hrightParent, hrightOwn⟩ := getLsbD_flagInput right parent index hindex
  cases h with
  | alone name hflags hkept =>
      rw [fired?_alone hindex hflags, fired?_alone hindex hflags, hleftOwn, hrightOwn] at hfired
      cases hguaranteed : (Flags.guaranteed parent).bits.getLsbD index with
      | true => rw [hleft.getLsbD hkept hguaranteed, hright.getLsbD hkept hguaranteed]
      | false =>
          rw [hguaranteed] at hfired
          generalize left.bits.getLsbD index = first, right.bits.getLsbD index = second at hfired ⊢
          cases first <;> cases second <;> simp at hfired ⊢
  | keptOrDropped hflags hnames =>
      -- A bit that is guaranteed is not an own bit, but the second switch tells its absence.
      rw [fired?_keptOrDropped hindex hflags, fired?_keptOrDropped hindex hflags, hleftOwn,
        hrightOwn, hleftCurrent, hrightCurrent, hleftParent, hrightParent,
        getLsbD_guaranteed] at hfired
      generalize left.bits.getLsbD index = first, right.bits.getLsbD index = second at hfired ⊢
      generalize (parent.getD Flags.none).bits.getLsbD index = above at hfired
      generalize (Flags.inherited .classes).bits.getLsbD index = passed at hfired
      cases first <;> cases second <;> cases above <;> cases passed <;>
        simp [hnames, hnames.symm] at hfired ⊢

theorem tells_of_mem_classes : ∀ group ∈ RuleTable.classes,
    ∃ index < 64, RuleGroup.Tells index group := by
  simp only [RuleTable.classes, List.forall_mem_cons, List.not_mem_nil, false_implies,
    implies_true, and_true]
  exact ⟨⟨19, by decide, .alone _ rfl rfl⟩, ⟨25, by decide, .alone _ rfl rfl⟩,
    ⟨0, by decide, .alone _ rfl rfl⟩, ⟨8, by decide, .alone _ rfl rfl⟩,
    ⟨16, by decide, .alone _ rfl rfl⟩, ⟨21, by decide, .alone _ rfl rfl⟩,
    ⟨3, by decide, .keptOrDropped rfl (by decide)⟩,
    ⟨12, by decide, .keptOrDropped rfl (by decide)⟩,
    ⟨9, by decide, .keptOrDropped rfl (by decide)⟩, ⟨1, by decide, .alone _ rfl rfl⟩,
    ⟨27, by decide, .alone _ rfl rfl⟩, ⟨6, by decide, .alone _ rfl rfl⟩,
    ⟨10, by decide, .alone _ rfl rfl⟩, ⟨30, by decide, .alone _ rfl rfl⟩,
    ⟨26, by decide, .alone _ rfl rfl⟩, ⟨13, by decide, .keptOrDropped rfl (by decide)⟩⟩

theorem isListed_of_mem_classes : ∀ group ∈ RuleTable.classes, ∀ rule ∈ group,
    rule.argument.IsListed := by
  decide +kernel

theorem isDistinct_classes : RuleTable.IsDistinct RuleTable.classes := by
  unfold RuleTable.IsDistinct
  decide +kernel

/-- Given the mask of the super class, the text of the switches of a class determines every bit
that the rules look at, and these are the sixteen bits of the list. -/
theorem mentioned_classFlags_of_textOf {parent : Option ClassFlags} {left right : ClassFlags}
    {text : String} (hleft : left.Inherits parent) (hright : right.Inherits parent)
    (hleftText : Arguments.textOf (firedArguments RuleTable.classes (.of left parent)) = .ok text)
    (hrightText :
      Arguments.textOf (firedArguments RuleTable.classes (.of right parent)) = .ok text) :
    left.raw &&& mentionedBits RuleTable.classes =
        right.raw &&& mentionedBits RuleTable.classes ∧
      mentionedBits RuleTable.classes =
        (ClassFlags.minimalApi ||| ClassFlags.deprecated ||| ClassFlags.abstract |||
          ClassFlags.noExport ||| ClassFlags.const ||| ClassFlags.defaultToInstanced |||
          ClassFlags.transient ||| ClassFlags.editInlineNew ||| ClassFlags.notPlaceable |||
          ClassFlags.defaultConfig ||| ClassFlags.globalUserConfig |||
          ClassFlags.projectUserConfig ||| ClassFlags.perObjectConfig |||
          ClassFlags.configDoNotCheckDefaults ||| ClassFlags.hideDropDown |||
          ClassFlags.collapseCategories).raw := by
  refine ⟨?_, by decide⟩
  have hlisted : ∀ input, ∀ argument ∈ firedArguments RuleTable.classes input,
      argument.IsListed := by
    intro input argument hargument
    obtain ⟨group, hgroup, rule, hrule, rfl⟩ := exists_rule_of_mem_firedArguments hargument
    exact isListed_of_mem_classes group hgroup rule hrule
  have htext := hleftText.trans hrightText.symm
  have hleftRight := Arguments.mem_of_textOf_eq (hlisted _) (hlisted _) htext
  have hrightLeft := Arguments.mem_of_textOf_eq (hlisted _) (hlisted _) htext.symm
  apply and_mentionedBits_congr
  intro group hgroup rule hrule
  have hfired : RuleGroup.fired? group (.of left parent) =
      RuleGroup.fired? group (.of right parent) :=
    Option.ext fun argument =>
      ⟨isDistinct_classes.fired?_eq_some hleftRight hgroup,
        isDistinct_classes.fired?_eq_some hrightLeft hgroup⟩
  obtain ⟨index, hindex, htells⟩ := tells_of_mem_classes group hgroup
  have hbit := htells.getLsbD_eq hindex hleft hright hfired
  rw [htells.mentioned_eq rule hrule, BitVec.and_twoPow, BitVec.and_twoPow,
    getLsbD_raw _ _ hindex, getLsbD_raw _ _ hindex, hbit]

/-- A super class of instances that are neither changed nor saved. -/
def relic : ClassFlags :=
  ClassFlags.const ||| ClassFlags.transient

/-- A class that takes back a bit of its super class. -/
def heirloom : ClassFlags :=
  ClassFlags.const ||| ClassFlags.abstract

/-- No rule looks at the bit of native code. -/
theorem mentioned_classFlags_of_textOf_heirloom :
    heirloom ≠ heirloom ||| ClassFlags.native ∧
      heirloom.raw &&& mentionedBits RuleTable.classes =
        (heirloom ||| ClassFlags.native).raw &&& mentionedBits RuleTable.classes := by
  have hinherits : heirloom.Inherits (some relic) := rfl
  have hagain : (heirloom ||| ClassFlags.native).Inherits (some relic) := rfl
  have htext : Arguments.textOf (firedArguments RuleTable.classes (.of heirloom (some relic))) =
      .ok "Abstract, NonTransient" := rfl
  have hnative : Arguments.textOf (firedArguments RuleTable.classes
      (.of (heirloom ||| ClassFlags.native) (some relic))) = .ok "Abstract, NonTransient" := rfl
  exact ⟨by decide, (mentioned_classFlags_of_textOf hinherits hagain htext hnative).1⟩

end HeaderSynth
