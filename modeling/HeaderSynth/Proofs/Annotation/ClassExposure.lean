import HeaderSynth.Annotation.Types
import HeaderSynth.Proofs.Annotation.Collected
import HeaderSynth.Proofs.Outcome
import HeaderSynth.Proofs.Reflection.Walks

/-!
# Exposure of classes

What scripts can do with a class adds up along its super classes, from the last root that passes
nothing on.  An annotation states only what the class adds to its super class.  Together the
annotations state the whole exposure, and none repeats what another has stated.
-/

namespace HeaderSynth

/-! ## Switches for exposure -/

/-- The switches that expose a class. -/
def exposureNames : List String := ["Blueprintable", "BlueprintType"]

theorem derivable_mem_exposureSwitch {exposure inherited : Exposure} :
    .switch 0 "Blueprintable" ∈ exposureSwitch exposure inherited ↔
      exposure.derivable = true ∧ inherited.derivable = false := by
  rw [exposureSwitch]
  split
  · split <;> simp_all
  · split <;> simp_all

theorem usable_mem_exposureSwitch {exposure inherited : Exposure} :
    .switch 0 "BlueprintType" ∈ exposureSwitch exposure inherited ↔
      exposure.derivable = false ∧ exposure.usable = true ∧ inherited.usable = false := by
  rw [exposureSwitch]
  split
  · split <;> simp_all
  · split <;> simp_all

theorem not_mem_firedArguments_classes {name : String} (hname : name ∈ exposureNames)
    (input : FlagInput) : .switch 0 name ∉ firedArguments RuleTable.classes input := by
  intro hfired
  obtain ⟨group, hgroup, rule, hrule, hargument⟩ := exists_rule_of_mem_firedArguments hfired
  have hnone : ∀ name ∈ exposureNames, ∀ group ∈ RuleTable.classes, ∀ rule ∈ group,
      rule.argument ≠ .switch 0 name := by decide
  exact hnone name hname group hgroup rule hrule hargument

namespace Graph

variable {graph : Graph} {options : GeneratorOptions} {id : ObjectId}

theorem not_mem_withinArguments {info : ClassInfo} {listed : List Argument}
    (h : graph.withinArguments info = .ok listed) (name : String) :
    .switch 0 name ∉ listed := by
  rw [withinArguments] at h
  split at h
  · cases h
    exact List.not_mem_nil
  split at h
  · cases h
    exact List.not_mem_nil
  · obtain ⟨within, -, hlisted⟩ := Outcome.bind_eq_ok.mp h
    cases hlisted
    simp

/-- No other argument of a class is one of the switches that expose it. -/
theorem mem_classArguments_iff (hoptions : options.exposeFields = false) {info : ClassInfo}
    {listed : List Argument} (h : graph.classArguments options id info = .ok listed)
    {name : String} (hname : name ∈ exposureNames) :
    .switch 0 name ∈ listed ↔
      .switch 0 name ∈
        exposureSwitch (graph.exposure id) (graph.superExposure info.superClass) := by
  obtain ⟨within, hwithin, hlisted⟩ := Outcome.bind_eq_ok.mp h
  rw [← Outcome.pure_eq_ok.mp hlisted, hoptions, if_neg Bool.false_ne_true]
  have hfired := not_mem_firedArguments_classes hname
  have hconfig : .switch 0 name ∉ graph.configArguments info := by
    rw [configArguments]
    split <;> simp
  split <;> simp [hfired, hconfig, not_mem_withinArguments hwithin]

/-- The annotation of the class `id` is written, with `arguments`. -/
def AnnotatesClass (graph : Graph) (options : GeneratorOptions) (id : ObjectId)
    (arguments : Arguments) : Prop :=
  ∃ object info listed, graph.object? id = some object ∧ object.classInfo? = some info ∧
    graph.classArguments options id info = .ok listed ∧
    Arguments.collect listed .empty = (arguments, .ok ())

/-- The annotation of the class `id` is written and has the switch `name`. -/
def HasSwitch (graph : Graph) (options : GeneratorOptions) (name : String) (id : ObjectId) :
    Prop :=
  ∃ arguments, graph.AnnotatesClass options id arguments ∧ arguments.Holds (.switch 0 name)

/-- An annotation compares the exposure of a class with that of its super class. -/
theorem AnnotatesClass.hasSwitch_iff {arguments : Arguments}
    (h : graph.AnnotatesClass options id arguments) (hoptions : options.exposeFields = false)
    {name : String} (hname : name ∈ exposureNames) :
    graph.HasSwitch options name id ↔
      .switch 0 name ∈
        exposureSwitch (graph.exposure id) (graph.superExposure (graph.super? id)) := by
  obtain ⟨object, info, listed, hobject, hinfo, hlisted, hcollect⟩ := h
  have hsuper : graph.super? id = info.superClass := by
    rw [super?, hobject, Option.bind_some, Object.super?]
    rw [Object.classInfo?] at hinfo
    split at hinfo <;> simp_all
  rw [hsuper, ← mem_classArguments_iff hoptions hlisted hname]
  have hholds := Arguments.holds_collect hcollect (.switch 0 name)
  rw [or_iff_right (Arguments.not_holds_empty _)] at hholds
  rw [← hholds]
  constructor
  · rintro ⟨other, ⟨object', info', listed', hobject', hinfo', hlisted', hcollect'⟩, hother⟩
    cases hobject.symm.trans hobject'
    cases hinfo.symm.trans hinfo'
    cases hlisted.symm.trans hlisted'
    cases hcollect.symm.trans hcollect'
    exact hother
  · exact fun harguments => ⟨arguments, ⟨object, info, listed, hobject, hinfo, hlisted, hcollect⟩,
      harguments⟩

end Graph

/-! ## From a super class to a class -/

/-- The exposure keeps what is inherited, and what scripts can derive from they can use. -/
structure Exposure.Extends (exposure inherited : Exposure) : Prop where
  derivable : inherited.derivable = true → exposure.derivable = true
  usable : inherited.usable = true → exposure.usable = true
  usable_of_derivable : exposure.derivable = true → exposure.usable = true

theorem Exposure.extends_withMembers (graph : Graph) (object : Object) (info : ClassInfo)
    {inherited : Exposure} (h : inherited.derivable = true → inherited.usable = true) :
    (inherited.withMembers graph object info).Extends inherited := by
  constructor
  · intro hderivable
    simp [withMembers, hderivable]
  · intro husable
    simp [withMembers, husable]
  · intro hderivable
    rcases Bool.or_eq_true_iff.mp hderivable with hinherited | hevent
    · simp [withMembers, h hinherited]
    · simp only [withMembers, hevent, Bool.or_true, Bool.true_or]

namespace Graph

variable {graph : Graph} {options : GeneratorOptions} {id : ObjectId}

/-- Whether the class passes nothing on. -/
def isIntrinsicRoot (graph : Graph) (id : ObjectId) : Bool :=
  (graph.object? id).any (·.isIntrinsicRoot)

/-- The class and its super classes before the first that passes nothing on. -/
def exposingChain (graph : Graph) (id : ObjectId) : List ObjectId :=
  (graph.superChain id).takeWhile (!graph.isIntrinsicRoot ·)

/-- The annotations of `ids` together state `exposure`, and none repeats another. -/
structure Accounts (graph : Graph) (options : GeneratorOptions) (ids : List ObjectId)
    (exposure : Exposure) : Prop where
  derivable : exposure.derivable = true ↔
    ∃ id ∈ ids, graph.HasSwitch options "Blueprintable" id
  usable : exposure.usable = true ↔
    ∃ id ∈ ids, graph.HasSwitch options "Blueprintable" id ∨
      graph.HasSwitch options "BlueprintType" id
  once : ids.Pairwise fun lower upper => ∀ name ∈ exposureNames,
    ¬(graph.HasSwitch options name lower ∧ graph.HasSwitch options name upper)

theorem Accounts.nil : graph.Accounts options [] {} where
  derivable := by simp
  usable := by simp
  once := .nil

/-- What scripts can derive from they can also use. -/
theorem Accounts.usable_of_derivable {ids : List ObjectId} {exposure : Exposure}
    (h : graph.Accounts options ids exposure) (hderivable : exposure.derivable = true) :
    exposure.usable = true := by
  obtain ⟨id, hid, hswitch⟩ := h.derivable.mp hderivable
  exact h.usable.mpr ⟨id, hid, .inl hswitch⟩

/-- A class that adds to what it inherits states what it adds. -/
theorem Accounts.cons {ids : List ObjectId} {inherited : Exposure} {arguments : Arguments}
    (h : graph.Accounts options ids inherited) (hoptions : options.exposeFields = false)
    (hannotates : graph.AnnotatesClass options id arguments)
    (hinherited : inherited = graph.superExposure (graph.super? id))
    (hextends : (graph.exposure id).Extends inherited) :
    graph.Accounts options (id :: ids) (graph.exposure id) := by
  have hderive : graph.HasSwitch options "Blueprintable" id ↔
      (graph.exposure id).derivable = true ∧ inherited.derivable = false := by
    rw [hannotates.hasSwitch_iff hoptions (by decide), ← hinherited, derivable_mem_exposureSwitch]
  have huse : graph.HasSwitch options "BlueprintType" id ↔
      (graph.exposure id).derivable = false ∧ (graph.exposure id).usable = true ∧
        inherited.usable = false := by
    rw [hannotates.hasSwitch_iff hoptions (by decide), ← hinherited, usable_mem_exposureSwitch]
  obtain ⟨hderivable, husable, hcoherent⟩ := hextends
  have hinherits := h.usable_of_derivable
  constructor
  · rw [List.exists_mem_cons_iff, ← h.derivable, hderive]
    cases hcase : inherited.derivable <;> simp_all
  · rw [List.exists_mem_cons_iff, ← h.usable, hderive, huse]
    cases hcase : inherited.usable <;> cases hown : (graph.exposure id).derivable <;> simp_all
  · refine List.pairwise_cons.mpr ⟨?_, h.once⟩
    intro upper hupper name hname hboth
    rcases List.mem_pair.mp hname with rfl | rfl
    · have hagain : inherited.derivable = true := h.derivable.mpr ⟨upper, hupper, hboth.2⟩
      rw [(hderive.mp hboth.1).2] at hagain
      cases hagain
    · have hagain : inherited.usable = true := h.usable.mpr ⟨upper, hupper, .inr hboth.2⟩
      rw [(huse.mp hboth.1).2.2] at hagain
      cases hagain

/-- The members of a class come to what its super chain has exposed, but a root starts anew. -/
theorem Accounts.descend {rest : List ObjectId} {inherited : Exposure} {arguments : Arguments}
    (h : graph.Accounts options (rest.takeWhile (!graph.isIntrinsicRoot ·)) inherited)
    (hoptions : options.exposeFields = false)
    (hannotates : graph.AnnotatesClass options id arguments)
    (hinherited : inherited = graph.superExposure (graph.super? id))
    (hchain : graph.superChain id = id :: rest)
    (hrest : inherited = rest.reverse.foldl (Exposure.descend graph) {}) :
    graph.Accounts options (graph.exposingChain id) (graph.exposure id) := by
  have hexposure : graph.exposure id = inherited.descend graph id := by
    rw [exposure, hchain, List.reverse_cons, List.foldl_append, ← hrest]
    rfl
  have ⟨object, info, _, hobject, hinfo, _⟩ := hannotates
  cases hroot : object.isIntrinsicRoot with
  | true =>
      have hnone : graph.exposure id = {} := by
        simp only [hexposure, Exposure.descend, hobject, hroot, if_true]
      have hbelow : graph.exposingChain id = [] := by
        simp [exposingChain, hchain, isIntrinsicRoot, hobject, hroot]
      rw [hnone, hbelow]
      exact .nil
  | false =>
      have hmembers : graph.exposure id = inherited.withMembers graph object info := by
        simp only [hexposure, Exposure.descend, hobject, hroot, hinfo, Bool.false_eq_true, if_false]
      have hbelow : graph.exposingChain id =
          id :: rest.takeWhile (!graph.isIntrinsicRoot ·) := by
        simp [exposingChain, hchain, isIntrinsicRoot, hobject, hroot]
      rw [hbelow]
      apply h.cons hoptions hannotates hinherited
      rw [hmembers]
      exact Exposure.extends_withMembers graph object info h.usable_of_derivable

/-! ## Along the super chain -/

/-- The annotations along a super chain state the exposure of its first class, without repeating
any of it. -/
theorem accounts_of_superChain {last : ObjectId} (hoptions : options.exposeFields = false)
    (hclasses : ∀ ancestor ∈ graph.superChain id, ∃ arguments,
      graph.AnnotatesClass options ancestor arguments)
    (hlast : (graph.superChain id).getLast? = some last) (hend : graph.super? last = none) :
    graph.Accounts options (graph.exposingChain id) (graph.exposure id) := by
  have hreaches := (mem_chain graph.leadsOn_super?).mp (List.mem_of_getLast? hlast)
  clear hlast
  -- From the last class down: each class adds to what its super class has.
  induction hreaches using Relation.ReflTransGen.head_induction_on with
  | refl =>
      have hchain : graph.superChain last = [last] := chain_eq_singleton hend
      obtain ⟨arguments, hannotates⟩ := hclasses last (by simp [hchain])
      exact Accounts.nil.descend hoptions hannotates (by rw [hend]; rfl) hchain rfl
  | @head lower upper hstep hreaches ih =>
      have hmem := (mem_chain graph.leadsOn_super?).mpr (hreaches.head hstep)
      have hchain : graph.superChain lower = lower :: graph.superChain upper :=
        (chain_eq_cons hstep hmem hend).1
      rw [hchain] at hclasses
      obtain ⟨⟨arguments, hannotates⟩, hupper⟩ := List.forall_mem_cons.mp hclasses
      exact Accounts.descend (ih hupper) hoptions hannotates (by rw [hstep]; rfl) hchain rfl

end Graph

/-- Three classes below a root: scripts can use the first, derive from the second, and the third
adds nothing. -/
def gatehouse : Graph where
  objects := #[
    { name := "Object", package := corePackage, kind := .classType { flags := .none } },
    { name := "Door", package := "/Script/Game",
      kind := .classType { flags := .none, superClass := some ⟨0⟩, functions := [⟨4⟩] } },
    { name := "Gate", package := "/Script/Game",
      kind := .classType { flags := .none, superClass := some ⟨1⟩, functions := [⟨5⟩] } },
    { name := "Portcullis", package := "/Script/Game",
      kind := .classType { flags := .none, superClass := some ⟨2⟩ } },
    { name := "Knock", package := "/Script/Game", outer := some ⟨1⟩,
      kind := .function { flags := FunctionFlags.blueprintCallable } },
    { name := "OnRaised", package := "/Script/Game", outer := some ⟨2⟩,
      kind := .function { flags := FunctionFlags.blueprintEvent } }]

theorem accounts_of_superChain_gatehouse :
    gatehouse.exposingChain ⟨3⟩ = [⟨3⟩, ⟨2⟩, ⟨1⟩] ∧ gatehouse.exposure ⟨3⟩ = ⟨true, true⟩ ∧
      gatehouse.Accounts {} (gatehouse.exposingChain ⟨3⟩) (gatehouse.exposure ⟨3⟩) := by
  have hchain : gatehouse.superChain ⟨3⟩ = [⟨3⟩, ⟨2⟩, ⟨1⟩, ⟨0⟩] := by decide
  have hclasses : ∀ ancestor ∈ gatehouse.superChain ⟨3⟩, ∃ arguments,
      gatehouse.AnnotatesClass {} ancestor arguments := by
    rw [hchain]
    simp only [List.forall_mem_cons, List.not_mem_nil, false_implies, implies_true, and_true]
    exact ⟨⟨_, _, _, _, rfl, rfl, rfl, rfl⟩, ⟨_, _, _, _, rfl, rfl, rfl, rfl⟩,
      ⟨_, _, _, _, rfl, rfl, rfl, rfl⟩, ⟨_, _, _, _, rfl, rfl, rfl, rfl⟩⟩
  have hlast : (gatehouse.superChain ⟨3⟩).getLast? = some ⟨0⟩ := by
    rw [hchain]
    rfl
  exact ⟨by decide, by decide, Graph.accounts_of_superChain rfl hclasses hlast rfl⟩

end HeaderSynth
