import HeaderSynth.Sorted.Map
import Mathlib.Data.List.Nodup
import Mathlib.Tactic.SplitIfs
import Mathlib.Tactic.Tauto

/-!
# Lookups in maps

The entries of a map are what its lookups find.  They stand in the order of their keys, so maps
in which every lookup finds the same are equal.  What is put in last stays, so the same entry or
member put in before makes no difference.
-/

namespace HeaderSynth

namespace SortedSet

variable {α : Type} [Ordered α]

theorem insert_twice (members : SortedSet α) (member : α) :
    (members.insert member).insert member = members.insert member := by
  ext other
  simp

theorem insert_earlier (members : SortedSet α) (member between : α) :
    ((members.insert member).insert between).insert member =
      (members.insert between).insert member := by
  ext other
  simp only [mem_insert]
  tauto

end SortedSet

namespace SortedMap

variable {κ ν : Type} [Ordered κ]

theorem mem_keys_alter {entries : SortedMap κ ν} {key other : κ} {update : Option ν → ν} :
    other ∈ (entries.alter key update).keys ↔ other = key ∨ other ∈ entries.keys := by
  have hkeys : (entries.alter key update).keys = insertAscending key entries.keys :=
    map_fst_alterAscending key update entries.toList
  rw [hkeys]
  exact mem_insertAscending key other entries.keys

theorem nodup_keys (entries : SortedMap κ ν) : entries.keys.Nodup :=
  entries.ascending.imp Ordered.ne_of_before

variable [DecidableEq κ]

theorem mem_toList_iff {entries : SortedMap κ ν} {key : κ} {value : ν} :
    (key, value) ∈ entries.toList ↔ entries.get? key = some value := by
  have hfind : ∀ {found : κ × ν}, entries.toList.find? (·.1 = key) = some found → found.1 = key :=
    fun hfound => by simpa using List.find?_some hfound
  rw [get?, Option.map_eq_some_iff]
  constructor
  · intro hentry
    have hsome : (entries.toList.find? (·.1 = key)).isSome :=
      List.find?_isSome.mpr ⟨(key, value), hentry, decide_eq_true rfl⟩
    obtain ⟨found, hfound⟩ := Option.isSome_iff_exists.mp hsome
    have hsame : found = (key, value) :=
      List.inj_on_of_nodup_map entries.nodup_keys (List.mem_of_find?_eq_some hfound) hentry
        (hfind hfound)
    exact ⟨found, hfound, congrArg Prod.snd hsame⟩
  · rintro ⟨found, hfound, rfl⟩
    rw [← hfind hfound]
    exact List.mem_of_find?_eq_some hfound

/-- Maps are equal if every lookup finds the same. -/
theorem ext_get? {entries others : SortedMap κ ν} (h : ∀ key, entries.get? key = others.get? key) :
    entries = others := by
  have hnodup : ∀ map : SortedMap κ ν, map.toList.Nodup := fun map =>
    List.Nodup.of_map Prod.fst map.nodup_keys
  have hperm : entries.toList.Perm others.toList := by
    refine (List.perm_ext_iff_of_nodup (hnodup entries) (hnodup others)).mpr ?_
    rintro ⟨key, value⟩
    rw [mem_toList_iff, mem_toList_iff, h]
  have hentries : entries.toList = others.toList := by
    refine hperm.eq_of_pairwise ?_ (List.pairwise_map.mp entries.ascending)
      (List.pairwise_map.mp others.ascending)
    intro left right _ _ hbefore hafter
    rw [Ordered.asymm hbefore] at hafter
    cases hafter
  obtain ⟨_, _⟩ := entries
  obtain ⟨_, _⟩ := others
  cases hentries
  rfl

theorem insert_twice (entries : SortedMap κ ν) (key : κ) (value : ν) :
    (entries.insert key value).insert key value = entries.insert key value := by
  apply ext_get?
  intro other
  simp only [get?_insert]
  split_ifs <;> rfl

theorem insert_earlier (entries : SortedMap κ ν) (key between : κ) (value later : ν) :
    ((entries.insert key value).insert between later).insert key value =
      (entries.insert between later).insert key value := by
  apply ext_get?
  intro other
  simp only [get?_insert]
  split_ifs <;> rfl

end SortedMap

end HeaderSynth
