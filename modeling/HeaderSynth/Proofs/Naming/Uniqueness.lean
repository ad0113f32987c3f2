import HeaderSynth.Naming.Header
import Mathlib.Data.List.Nodup
import Mathlib.Data.List.Perm.Subperm

/-!
# Granted names are new

A registry grants every name once.  The search for a free number looks at one number
more than there are names, and different numbers make different names, so it always
finds one.
-/

namespace HeaderSynth.NameRegistry

theorem numbered_injective (base : String) {first second : Nat}
    (h : numbered base first = numbered base second) : first = second := by
  have hchars : base.toList ++ (toString first).toList = base.toList ++ (toString second).toList := by
    simpa only [numbered, String.toList_append] using congrArg String.toList h
  have hdigits : (toString first).toList = (toString second).toList :=
    List.append_cancel_left hchars
  have hvalues := congrArg (fun digits => Nat.ofDigitChars 10 digits 0) hdigits
  simpa [Nat.toString_eq_ofList_toDigits] using hvalues

/-- A search that ends at a granted name has seen granted names only. -/
theorem mem_granted_of_firstFree_mem {granted : SortedSet String} {base : String}
    {fuel number : Nat}
    (h : numbered base (firstFree granted base fuel number) ∈ granted) :
    ∀ step < fuel, numbered base (number + step) ∈ granted := by
  induction fuel generalizing number with
  | zero => simp
  | succ fuel ih =>
      by_cases hnumber : numbered base number ∈ granted
      · rw [firstFree, if_pos hnumber] at h
        intro step hstep
        cases step with
        | zero => exact hnumber
        | succ step =>
            have hrest := ih h step (by omega)
            rwa [Nat.add_right_comm] at hrest
      · rw [firstFree, if_neg hnumber] at h
        exact absurd h hnumber

/-- Different numbers make different names, so no more numbers can be taken than there are
names. -/
theorem le_size_of_numbered_mem {granted : SortedSet String} {base : String} {number count : Nat}
    (h : ∀ step < count, numbered base (number + step) ∈ granted) : count ≤ granted.size := by
  let tried := (List.range count).map fun step => numbered base (number + step)
  have htried : tried.Nodup := by
    refine List.Nodup.map (fun first second hsame => ?_) List.nodup_range
    have hsum := numbered_injective base hsame
    omega
  have hsubset : tried ⊆ granted.toList := by
    intro name hname
    obtain ⟨step, hstep, rfl⟩ := List.mem_map.mp hname
    exact h step (List.mem_range.mp hstep)
  calc count = tried.length := by simp [tried]
    _ ≤ granted.toList.length := (List.subperm_of_subset htried hsubset).length_le
    _ = granted.size := rfl

theorem numbered_firstFree_not_mem (granted : SortedSet String) (base : String) (number : Nat) :
    numbered base (firstFree granted base (granted.size + 1) number) ∉ granted := by
  intro h
  have hcount := le_size_of_numbered_mem (mem_granted_of_firstFree_mem h)
  omega

theorem le_firstFree (granted : SortedSet String) (base : String) (fuel number : Nat) :
    number ≤ firstFree granted base fuel number := by
  induction fuel generalizing number with
  | zero => exact Nat.le_refl number
  | succ fuel ih =>
      rw [firstFree]
      split
      · exact Nat.le_trans (Nat.le_succ number) (ih (number + 1))
      · exact Nat.le_refl number

/-- A search passes over taken numbers only. -/
theorem mem_granted_of_lt_firstFree {granted : SortedSet String} {base : String}
    {fuel number tried : Nat} (hle : number ≤ tried)
    (hlt : tried < firstFree granted base fuel number) : numbered base tried ∈ granted := by
  induction fuel generalizing number with
  | zero =>
      rw [firstFree] at hlt
      omega
  | succ fuel ih =>
      rw [firstFree] at hlt
      split at hlt
      · rename_i hnumber
        rcases Nat.eq_or_lt_of_le hle with rfl | hlater
        · exact hnumber
        · exact ih hlater hlt
      · omega

/-- The number at which the search behind `last` ends: the first one that makes a free name. -/
structure IsNextFree (granted : SortedSet String) (base : String) (last number : Nat) : Prop where
  after : last < number
  taken : ∀ tried, last < tried → tried < number → numbered base tried ∈ granted
  free : numbered base number ∉ granted

theorem isNextFree_firstFree (granted : SortedSet String) (base : String) (last : Nat) :
    IsNextFree granted base last (firstFree granted base (granted.size + 1) (last + 1)) where
  after := le_firstFree granted base (granted.size + 1) (last + 1)
  taken _ := mem_granted_of_lt_firstFree
  free := numbered_firstFree_not_mem granted base (last + 1)

/-! ## One claim -/

variable (registry : NameRegistry) (base : String) (object : ObjectId)

/-- The last number that was tried behind a name. -/
def lastNumber : Nat :=
  (registry.counters.get? base).getD 0

theorem claim_of_granted (h : base ∈ registry.granted) :
    ∃ number, IsNextFree registry.granted base (registry.lastNumber base) number ∧
      registry.claim base object =
        (⟨registry.granted.insert (numbered base number), registry.counters.insert base number,
          registry.assigned.insert object (numbered base number)⟩, numbered base number) :=
  ⟨_, isNextFree_firstFree registry.granted base (registry.lastNumber base), if_pos h⟩

theorem claim_of_new (h : base ∉ registry.granted) :
    registry.claim base object =
      (⟨registry.granted.insert base, registry.counters.alter base (·.getD 0),
        registry.assigned⟩, base) :=
  if_neg h

/-- A claim grants a name that was not granted before. -/
theorem claim_not_mem : (registry.claim base object).2 ∉ registry.granted := by
  by_cases h : base ∈ registry.granted
  · obtain ⟨number, hnumber, hclaim⟩ := registry.claim_of_granted base object h
    rw [hclaim]
    exact hnumber.free
  · rwa [registry.claim_of_new base object h]

theorem mem_granted_claim (name : String) :
    name ∈ (registry.claim base object).1.granted ↔
      name = (registry.claim base object).2 ∨ name ∈ registry.granted := by
  by_cases h : base ∈ registry.granted
  · obtain ⟨number, -, hclaim⟩ := registry.claim_of_granted base object h
    rw [hclaim]
    exact SortedSet.mem_insert
  · rw [registry.claim_of_new base object h]
    exact SortedSet.mem_insert

/-- A claim changes the name of no other object. -/
theorem assigned_claim_of_ne {other : ObjectId} (h : other ≠ object) :
    (registry.claim base object).1.assigned.get? other = registry.assigned.get? other := by
  by_cases hbase : base ∈ registry.granted
  · obtain ⟨number, -, hclaim⟩ := registry.claim_of_granted base object hbase
    rw [hclaim]
    exact (SortedMap.get?_insert ..).trans (if_neg h)
  · rw [registry.claim_of_new base object hbase]

/-- After a claim the object goes by the granted name, unless it has a number from an
earlier claim and keeps it. -/
theorem existing_claim :
    (registry.claim base object).1.existing base object = (registry.claim base object).2 ∨
      registry.assigned.get? object ≠ none ∧
        (registry.claim base object).1.existing base object = registry.existing base object := by
  by_cases hbase : base ∈ registry.granted
  · left
    obtain ⟨number, -, hclaim⟩ := registry.claim_of_granted base object hbase
    rw [hclaim, existing, SortedMap.get?_insert, if_pos rfl]
    rfl
  · rw [registry.claim_of_new base object hbase]
    by_cases hassigned : registry.assigned.get? object = none
    · left
      rw [existing, hassigned]
      rfl
    · exact .inr ⟨hassigned, rfl⟩

end HeaderSynth.NameRegistry
