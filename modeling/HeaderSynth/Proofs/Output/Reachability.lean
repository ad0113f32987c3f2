import HeaderSynth.Output.Modules
import HeaderSynth.Proofs.Sorted.Lookups
import Mathlib.Data.Finset.Card
import Mathlib.Logic.Relation

/-!
# Reachable modules

A series of records leaves behind which module refers to which.  The modules that a build
descriptor lists are found by a fixed number of rounds, one for each module with an entry.  Every
round that is not the last one meets a module with an entry that it had not met before, so the
rounds suffice whatever cycles the references make.
-/

namespace HeaderSynth.ModuleReferences

/-! ## Recorded references -/

/-- A module refers to another one. -/
def Refers (references : ModuleReferences) (module other : String) : Prop :=
  ∃ others, references.get? module = some others ∧ other ∈ others

theorem not_refers_empty (module other : String) : ¬Refers .empty module other := by
  rintro ⟨others, hothers, -⟩
  cases hothers

theorem refers_ensure {references : ModuleReferences} {entry module other : String} :
    Refers (references.ensure entry) module other ↔ references.Refers module other := by
  rw [Refers, ensure, SortedMap.get?_alter]
  by_cases hentry : module = entry
  · subst hentry
    rw [if_pos rfl]
    cases hget : references.get? module with
    | none => simp [Refers, hget]
    | some others => simp [Refers, hget]
  · rw [if_neg hentry]
    rfl

/-- One record adds one reference, if it is one. -/
theorem refers_record {references : ModuleReferences} {entry name module other : String} :
    Refers (references.record entry name) module other ↔
      (module = entry ∧ other = name ∧ name ≠ "" ∧ name ≠ entry) ∨
        references.Refers module other := by
  rw [Refers, record, SortedMap.get?_alter]
  by_cases hentry : module = entry
  · subst hentry
    have hbefore : references.Refers module other ↔
        other ∈ (references.get? module).getD .empty := by
      cases hget : references.get? module with
      | none => simp [Refers, hget]
      | some others => simp [Refers, hget]
    rw [if_pos rfl, hbefore]
    by_cases hname : name = "" ∨ name = module
    · simp only [if_pos hname, Option.some.injEq, exists_eq_left', true_and]
      rcases hname with rfl | rfl
      · simp
      · simp
    · simp only [if_neg hname, Option.some.injEq, exists_eq_left', true_and, SortedSet.mem_insert]
      rw [not_or] at hname
      simp [hname.1, hname.2]
  · rw [if_neg hentry]
    simp [Refers, hentry]

/-! ## Rounds -/

theorem mem_direct {references : ModuleReferences} {module other : String} :
    other ∈ references.direct module ↔ references.Refers module other := by
  rw [direct, Refers]
  cases references.get? module with
  | none => simp [← SortedSet.mem_def]
  | some others => simp [← SortedSet.mem_def]

/-- Only a module with an entry refers to anything. -/
theorem Refers.mem_keys {references : ModuleReferences} {module other : String}
    (h : references.Refers module other) : module ∈ references.keys := by
  obtain ⟨others, hothers, -⟩ := h
  rw [SortedMap.get?, Option.map_eq_some_iff] at hothers
  obtain ⟨entry, hentry, -⟩ := hothers
  have hmodule : entry.1 = module := by simpa using List.find?_some hentry
  rw [← hmodule]
  exact List.mem_map_of_mem (List.mem_of_find?_eq_some hentry)

theorem mem_expand {references : ModuleReferences} {modules : SortedSet String} {other : String} :
    other ∈ references.expand modules ↔
      (∃ module ∈ modules, references.Refers module other) ∨ other ∈ modules := by
  rw [expand, SortedSet.mem_insertAll, List.mem_flatMap]
  simp only [mem_direct, SortedSet.mem_def]

/-! ## Closed sets -/

/-- Nothing outside the set is referred to from inside. -/
def Closed (references : ModuleReferences) (modules : SortedSet String) : Prop :=
  ∀ module ∈ modules, ∀ other, references.Refers module other → other ∈ modules

theorem Closed.mem_of_reflTransGen {references : ModuleReferences} {modules : SortedSet String}
    (h : references.Closed modules) {module other : String} (hmodule : module ∈ modules)
    (hother : Relation.ReflTransGen references.Refers module other) : other ∈ modules := by
  induction hother with
  | refl => exact hmodule
  | tail _ hstep ih => exact h _ ih _ hstep

theorem Closed.expandTimes_eq {references : ModuleReferences} {modules : SortedSet String}
    (h : references.Closed modules) (rounds : Nat) :
    references.expandTimes rounds modules = modules := by
  induction rounds with
  | zero => rfl
  | succ rounds ih =>
      have hexpand : references.expand modules = modules := by
        ext other
        rw [mem_expand]
        constructor
        · rintro (⟨module, hmodule, hother⟩ | hother)
          · exact h module hmodule other hother
          · exact hother
        · exact .inr
      rw [expandTimes, hexpand, ih]

/-- The modules with an entry that are not in the set. -/
def missing (references : ModuleReferences) (modules : SortedSet String) : Finset String :=
  references.keys.toFinset.filter (· ∉ modules)

theorem mem_missing {references : ModuleReferences} {modules : SortedSet String} {key : String} :
    key ∈ references.missing modules ↔ key ∈ references.keys ∧ key ∉ modules := by
  rw [missing, Finset.mem_filter, List.mem_toFinset]

theorem card_missing_expand_lt {references : ModuleReferences} {modules : SortedSet String}
    {key : String} (hkey : key ∈ references.keys) (hbefore : key ∉ modules)
    (hafter : key ∈ references.expand modules) :
    (references.missing (references.expand modules)).card < (references.missing modules).card := by
  have hsubset : references.missing (references.expand modules) ⊆ references.missing modules := by
    intro other hother
    obtain ⟨hentry, hexpand⟩ := mem_missing.mp hother
    exact mem_missing.mpr ⟨hentry, fun hmem => hexpand (mem_expand.mpr (.inr hmem))⟩
  apply Finset.card_lt_card
  rw [Finset.ssubset_iff_of_subset hsubset]
  exact ⟨key, mem_missing.mpr ⟨hkey, hbefore⟩, fun hmem => (mem_missing.mp hmem).2 hafter⟩

/-- One round more than there are modules missing closes a set. -/
theorem closed_expandTimes {references : ModuleReferences} {modules : SortedSet String}
    {rounds : Nat} (h : (references.missing modules).card < rounds) :
    references.Closed (references.expandTimes rounds modules) := by
  induction rounds generalizing modules with
  | zero => exact absurd h (Nat.not_lt_zero _)
  | succ rounds ih =>
      rw [expandTimes]
      by_cases hnew : ∃ key ∈ references.keys, key ∉ modules ∧ key ∈ references.expand modules
      · obtain ⟨key, hkey, hbefore, hafter⟩ := hnew
        have hlt := card_missing_expand_lt hkey hbefore hafter
        exact ih (by omega)
      -- What a round adds without meeting an entry refers to nothing.
      · have hclosed : references.Closed (references.expand modules) := by
          intro module hmodule other hother
          have hold : module ∈ modules := by
            by_contra hbefore
            exact hnew ⟨module, hother.mem_keys, hbefore, hmodule⟩
          exact mem_expand.mpr (.inl ⟨module, hold, hother⟩)
        rw [hclosed.expandTimes_eq]
        exact hclosed

/-! ## Everything that can be reached -/

theorem reflTransGen_of_mem_expandTimes {references : ModuleReferences} {rounds : Nat}
    {modules : SortedSet String} {other : String}
    (h : other ∈ references.expandTimes rounds modules) :
    ∃ module ∈ modules, Relation.ReflTransGen references.Refers module other := by
  induction rounds generalizing modules with
  | zero => exact ⟨other, h, .refl⟩
  | succ rounds ih =>
      obtain ⟨middle, hmiddle, hother⟩ := ih h
      rcases mem_expand.mp hmiddle with ⟨module, hmodule, hstep⟩ | hmiddle
      · exact ⟨module, hmodule, .head hstep hother⟩
      · exact ⟨middle, hmiddle, hother⟩

/-- A module whose references are in a set adds nothing to it but itself. -/
theorem expandTimes_insert {references : ModuleReferences} {modules : SortedSet String}
    {module : String} (h : ∀ other, references.Refers module other → other ∈ modules)
    (rounds : Nat) :
    references.expandTimes rounds (modules.insert module) =
      (references.expandTimes rounds modules).insert module := by
  induction rounds generalizing modules with
  | zero => rfl
  | succ rounds ih =>
      have hexpand : references.expand (modules.insert module) =
          (references.expand modules).insert module := by
        ext other
        simp only [mem_expand, SortedSet.mem_insert]
        constructor
        · rintro (⟨source, rfl | hsource, hother⟩ | rfl | hother)
          · exact .inr (.inr (h other hother))
          · exact .inr (.inl ⟨source, hsource, hother⟩)
          · exact .inl rfl
          · exact .inr (.inr hother)
        · rintro (rfl | ⟨source, hsource, hother⟩ | hother)
          · exact .inr (.inl rfl)
          · exact .inl ⟨source, .inr hsource, hother⟩
          · exact .inr (.inr hother)
      rw [expandTimes, expandTimes, hexpand]
      apply ih
      intro other hother
      exact mem_expand.mpr (.inr (h other hother))

/-- The rounds of a search close the references of a module together with the module. -/
theorem closed_search (references : ModuleReferences) (module : String) :
    references.Closed ((references.expandTimes references.size
      (.ofList (references.direct module))).insert module) := by
  have hdirect : ∀ other, references.Refers module other →
      other ∈ SortedSet.ofList (references.direct module) := by
    intro other hother
    exact SortedSet.mem_ofList.mpr (mem_direct.mpr hother)
  rw [← expandTimes_insert hdirect]
  by_cases hmodule : module ∈ references.keys
  · apply closed_expandTimes
    calc
      (references.missing _).card < references.keys.toFinset.card := by
        apply Finset.card_lt_card
        rw [missing, Finset.filter_ssubset]
        exact ⟨module, List.mem_toFinset.mpr hmodule, by simp⟩
      _ ≤ references.keys.length := List.toFinset_card_le _
      _ = references.size := List.length_map _
  · have hclosed : references.Closed
        ((SortedSet.ofList (references.direct module)).insert module) := by
      intro source hsource other hother
      rcases SortedSet.mem_insert.mp hsource with rfl | hsource
      · exact absurd hother.mem_keys hmodule
      · have hstep := mem_direct.mp (SortedSet.mem_ofList.mp hsource)
        exact absurd hstep.mem_keys hmodule
    rw [hclosed.expandTimes_eq]
    exact hclosed

/-- A search finds the other modules that can be reached by one reference or more. -/
theorem mem_transitive {references : ModuleReferences} {module other : String} :
    other ∈ references.transitive module ↔
      other ≠ module ∧ Relation.TransGen references.Refers module other := by
  rw [transitive, SortedSet.mem_erase, and_comm, and_congr_right_iff]
  intro hother
  constructor
  · intro hmem
    obtain ⟨first, hfirst, hrest⟩ := reflTransGen_of_mem_expandTimes hmem
    rw [SortedSet.mem_ofList, mem_direct] at hfirst
    exact .head' hfirst hrest
  · intro hreach
    have hmem := (references.closed_search module).mem_of_reflTransGen
      (SortedSet.mem_insert.mpr (.inl rfl)) hreach.to_reflTransGen
    exact (SortedSet.mem_insert.mp hmem).resolve_left hother

end HeaderSynth.ModuleReferences
