import HeaderSynth.Proofs.Naming.Uniqueness
import Mathlib.Data.List.Induction

/-!
# Series of claims

Objects claim names one after the other, with any bases: equal ones, and ones that look like
a base with a number.  Every search for a number ends, no name is granted twice, and a
reference to an object leads to the name it was granted, however many claims follow.
-/

namespace HeaderSynth.NameRegistry

/-- A request for a name that begins with `base`. -/
structure Claim where
  base : String
  object : ObjectId
deriving DecidableEq, Repr

/-- The registry after a series of claims. -/
def claimAll (registry : NameRegistry) (claims : List Claim) : NameRegistry :=
  claims.foldl (fun registry claim => (registry.claim claim.base claim.object).1) registry

/-- The names that a series of claims is granted, in order. -/
def grantedTo (registry : NameRegistry) : List Claim → List String
  | [] => []
  | claim :: rest =>
      (registry.claim claim.base claim.object).2 ::
        grantedTo (registry.claim claim.base claim.object).1 rest

theorem claimAll_concat (registry : NameRegistry) (claims : List Claim) (claim : Claim) :
    registry.claimAll (claims ++ [claim]) =
      ((registry.claimAll claims).claim claim.base claim.object).1 := by
  rw [claimAll, List.foldl_append]
  rfl

theorem grantedTo_append (registry : NameRegistry) (claims others : List Claim) :
    registry.grantedTo (claims ++ others) =
      registry.grantedTo claims ++ (registry.claimAll claims).grantedTo others := by
  induction claims generalizing registry with
  | nil => rfl
  | cons claim rest ih =>
      rw [List.cons_append, grantedTo, grantedTo, List.cons_append, ih]
      rfl

@[simp]
theorem length_grantedTo (registry : NameRegistry) (claims : List Claim) :
    (registry.grantedTo claims).length = claims.length := by
  induction claims generalizing registry with
  | nil => rfl
  | cons claim rest ih => rw [grantedTo, List.length_cons, ih, List.length_cons]

/-! ## What a registry knows -/

/-- What a registry knows after a series of claims that were granted `names`. -/
structure Reflects (registry : NameRegistry) (claims : List Claim) (names : List String) :
    Prop where
  mem_granted : ∀ name, name ∈ registry.granted ↔ name ∈ names
  nodup : names.Nodup
  /-- Every number up to the last one that was tried is taken. -/
  taken : ∀ base number, 0 < number → number ≤ registry.lastNumber base →
    numbered base number ∈ registry.granted
  unassigned : ∀ object, object ∉ claims.map (·.object) → registry.assigned.get? object = none

theorem reflects_empty : empty.Reflects [] [] where
  mem_granted := by simp [empty]
  nodup := List.nodup_nil
  taken base number hpos hle := by
    have hlast : empty.lastNumber base = 0 := rfl
    omega
  unassigned _ _ := rfl

/-- A claim tries the numbers up to the one it grants, and only behind its own base. -/
theorem taken_claim {registry : NameRegistry} {claims : List Claim} {names : List String}
    (h : registry.Reflects claims names) (base : String) (object : ObjectId) (other : String)
    (number : Nat) (hpos : 0 < number)
    (hle : number ≤ (registry.claim base object).1.lastNumber other) :
    numbered other number ∈ (registry.claim base object).1.granted := by
  by_cases hbase : base ∈ registry.granted
  · obtain ⟨granted, hgranted, hclaim⟩ := registry.claim_of_granted base object hbase
    rw [hclaim] at hle ⊢
    rw [lastNumber, SortedMap.get?_insert] at hle
    rw [SortedSet.mem_insert]
    by_cases hother : other = base
    · subst hother
      rw [if_pos rfl, Option.getD_some] at hle
      rcases Nat.eq_or_lt_of_le hle with rfl | hlt
      · exact .inl rfl
      · right
        by_cases hlast : number ≤ registry.lastNumber other
        · exact h.taken other number hpos hlast
        · exact hgranted.taken number (by omega) hlt
    · rw [if_neg hother] at hle
      exact .inr (h.taken other number hpos hle)
  · rw [registry.claim_of_new base object hbase] at hle ⊢
    have hlast : number ≤ registry.lastNumber other := by
      rw [lastNumber, SortedMap.get?_alter] at hle
      split at hle
      · rename_i hother
        rwa [hother]
      · exact hle
    exact SortedSet.mem_insert.mpr (.inr (h.taken other number hpos hlast))

/-- One claim keeps the registry in step with the series. -/
theorem Reflects.claim {registry : NameRegistry} {claims : List Claim} {names : List String}
    (h : registry.Reflects claims names) (claim : Claim) :
    (registry.claim claim.base claim.object).1.Reflects (claims ++ [claim])
      (names ++ [(registry.claim claim.base claim.object).2]) where
  mem_granted name := by
    rw [mem_granted_claim, h.mem_granted, List.mem_append, List.mem_singleton]
    exact or_comm
  nodup := by
    have hnew := registry.claim_not_mem claim.base claim.object
    rw [h.mem_granted] at hnew
    exact List.nodup_append.mpr ⟨h.nodup, List.nodup_singleton _, by
      intro name hname other hother hsame
      rw [List.mem_singleton] at hother
      rw [hsame, hother] at hname
      exact hnew hname⟩
  taken := taken_claim h claim.base claim.object
  unassigned object hobject := by
    rw [List.map_append, List.mem_append, not_or] at hobject
    have hother : object ≠ claim.object := by simpa using hobject.2
    rw [assigned_claim_of_ne registry claim.base claim.object hother]
    exact h.unassigned object hobject.1

/-- A registry always reflects the claims that led to it. -/
theorem reflects_claimAll (claims : List Claim) :
    (empty.claimAll claims).Reflects claims (empty.grantedTo claims) := by
  induction claims using List.reverseRecOn with
  | nil => exact reflects_empty
  | append_singleton claims claim ih =>
      rw [claimAll_concat, grantedTo_append]
      exact ih.claim claim

/-- Numbers stay below the count of claims. -/
theorem Reflects.lastNumber_le {registry : NameRegistry} {claims : List Claim}
    {names : List String} (h : registry.Reflects claims names) (base : String) :
    registry.lastNumber base ≤ names.length := by
  have htaken : ∀ step < registry.lastNumber base,
      numbered base (1 + step) ∈ registry.granted := by
    intro step hstep
    exact h.taken base (1 + step) (by omega) (by omega)
  have hnodup : registry.granted.toList.Nodup :=
    registry.granted.ascending.imp Ordered.ne_of_before
  have hsubset : registry.granted.toList ⊆ names := by
    intro name hname
    exact (h.mem_granted name).mp hname
  calc registry.lastNumber base ≤ registry.granted.size := le_size_of_numbered_mem htaken
    _ = registry.granted.toList.length := rfl
    _ ≤ names.length := (List.subperm_of_subset hnodup hsubset).length_le

/-! ## Names that last -/

/-- A name stays with its object while others claim. -/
theorem existing_claimAll {registry : NameRegistry} {object : ObjectId} {claims : List Claim}
    (h : object ∉ claims.map (·.object)) (base : String) :
    (registry.claimAll claims).existing base object = registry.existing base object := by
  induction claims generalizing registry with
  | nil => rfl
  | cons claim rest ih =>
      rw [List.map_cons, List.mem_cons, not_or] at h
      calc (registry.claimAll (claim :: rest)).existing base object
          = ((registry.claim claim.base claim.object).1.claimAll rest).existing base object := rfl
        _ = (registry.claim claim.base claim.object).1.existing base object := ih h.2
        _ = registry.existing base object := by
            rw [existing, assigned_claim_of_ne registry claim.base claim.object h.1]
            rfl

/-- How the claim behind `earlier` ends: its base is granted if it is free, and otherwise the
first free number behind it.  The number is found before 32 bits are used up. -/
def IsGranted (earlier : List Claim) (claim : Claim) (name : String) : Prop :=
  (claim.base ∉ empty.grantedTo earlier ∧ name = claim.base) ∨
    claim.base ∈ empty.grantedTo earlier ∧ ∃ number,
      IsNextFree (empty.claimAll earlier).granted claim.base
        ((empty.claimAll earlier).lastNumber claim.base) number ∧
      number < UInt32.size ∧ name = numbered claim.base number

theorem isGranted_claim {earlier : List Claim} {claim : Claim}
    (hcount : earlier.length + 1 < UInt32.size) :
    IsGranted earlier claim ((empty.claimAll earlier).claim claim.base claim.object).2 := by
  have hreflects := reflects_claimAll earlier
  by_cases hbase : claim.base ∈ (empty.claimAll earlier).granted
  · right
    refine ⟨(hreflects.mem_granted claim.base).mp hbase, ?_⟩
    obtain ⟨number, hnumber, hclaim⟩ :=
      (empty.claimAll earlier).claim_of_granted claim.base claim.object hbase
    refine ⟨number, hnumber, ?_, by rw [hclaim]⟩
    have hlast := (hreflects.claim claim).lastNumber_le claim.base
    rw [hclaim, lastNumber, SortedMap.get?_insert, if_pos rfl] at hlast
    simp only [Option.getD_some, List.length_append, length_grantedTo, List.length_singleton]
      at hlast
    omega
  · left
    rw [(empty.claimAll earlier).claim_of_new claim.base claim.object hbase]
    exact ⟨(hreflects.mem_granted claim.base).not.mp hbase, rfl⟩

/-- In every series of claims by different objects each search ends, no name is granted twice,
and from its own claim on every object goes by the name it was granted. -/
theorem grantedTo_of_distinct_objects (claims : List Claim)
    (hobjects : (claims.map (·.object)).Nodup) (hcount : claims.length < UInt32.size) :
    (empty.grantedTo claims).length = claims.length ∧ (empty.grantedTo claims).Nodup ∧
      ∀ earlier claim later, claims = earlier ++ claim :: later →
        ∃ name, (empty.grantedTo claims)[earlier.length]? = some name ∧
          IsGranted earlier claim name ∧
          ∀ passed, passed <+: later →
            (empty.claimAll (earlier ++ claim :: passed)).existing claim.base claim.object =
              name := by
  refine ⟨length_grantedTo empty claims, (reflects_claimAll claims).nodup, ?_⟩
  rintro earlier claim later rfl
  let registry := empty.claimAll earlier
  refine ⟨(registry.claim claim.base claim.object).2, ?_, isGranted_claim ?_, ?_⟩
  · rw [grantedTo_append, List.getElem?_append_right (by simp)]
    simp [grantedTo, registry]
  · rw [List.length_append, List.length_cons] at hcount
    omega
  · intro passed hpassed
    rw [List.map_append, List.map_cons, List.nodup_append] at hobjects
    obtain ⟨-, hlater, hearlier⟩ := hobjects
    have hfresh : claim.object ∉ earlier.map (·.object) := by
      intro hmem
      exact hearlier claim.object hmem claim.object List.mem_cons_self rfl
    have hpassedBy : claim.object ∉ passed.map (·.object) := by
      intro hmem
      exact (List.nodup_cons.mp hlater).1 (List.map_subset _ hpassed.subset hmem)
    have hunassigned := (reflects_claimAll earlier).unassigned claim.object hfresh
    calc (empty.claimAll (earlier ++ claim :: passed)).existing claim.base claim.object
        = ((registry.claim claim.base claim.object).1.claimAll passed).existing claim.base
            claim.object := by rw [claimAll, List.foldl_append]; rfl
      _ = (registry.claim claim.base claim.object).1.existing claim.base claim.object :=
          existing_claimAll hpassedBy claim.base
      _ = (registry.claim claim.base claim.object).2 :=
          (registry.existing_claim claim.base claim.object).resolve_right
            fun hassigned => hassigned.1 hunassigned

/-- Bases that are equal, and bases that look like another one with a number. -/
def weaponClaims : List Claim :=
  [⟨"Weapon", ⟨1⟩⟩, ⟨"Weapon2", ⟨7⟩⟩, ⟨"Weapon", ⟨2⟩⟩, ⟨"Weapon", ⟨3⟩⟩, ⟨"Weapon1", ⟨4⟩⟩]

theorem grantedTo_of_distinct_objects_weaponClaims :
    (weaponClaims.map (·.object)).Nodup ∧ weaponClaims.length < UInt32.size ∧
      empty.grantedTo weaponClaims = ["Weapon", "Weapon2", "Weapon1", "Weapon3", "Weapon11"] ∧
      (empty.grantedTo weaponClaims).length = weaponClaims.length ∧
      (empty.grantedTo weaponClaims).Nodup ∧
      ∀ earlier claim later, weaponClaims = earlier ++ claim :: later →
        ∃ name, (empty.grantedTo weaponClaims)[earlier.length]? = some name ∧
          IsGranted earlier claim name ∧
          ∀ passed, passed <+: later →
            (empty.claimAll (earlier ++ claim :: passed)).existing claim.base claim.object =
              name :=
  ⟨by decide, by decide, by decide +kernel,
    grantedTo_of_distinct_objects weaponClaims (by decide) (by decide)⟩

end HeaderSynth.NameRegistry
