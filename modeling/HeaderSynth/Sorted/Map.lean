import HeaderSynth.Sorted.Set

/-!
# Maps in ascending key order

A finite map is kept as its list of entries with strictly ascending keys.
`alter` is the one operation that changes a map; everything else reads it.
-/

namespace HeaderSynth

open Ordered

/-- Replaces the value under `key` by `update` of the value there, if any; a new
key goes to its place. -/
def alterAscending {κ ν : Type} [Ordered κ] (key : κ) (update : Option ν → ν) :
    List (κ × ν) → List (κ × ν)
  | [] => [(key, update none)]
  | (k, v) :: rest =>
    if before key k then (key, update none) :: (k, v) :: rest
    else if before k key then (k, v) :: alterAscending key update rest
    else (k, update (some v)) :: rest

section

variable {κ ν : Type} [Ordered κ]

theorem map_fst_alterAscending (key : κ) (update : Option ν → ν) (entries : List (κ × ν)) :
    (alterAscending key update entries).map Prod.fst =
      insertAscending key (entries.map Prod.fst) := by
  induction entries with
  | nil => rfl
  | cons entry rest ih =>
    obtain ⟨k, v⟩ := entry
    simp only [alterAscending, List.map_cons, insertAscending]
    split
    · simp
    · split <;> simp [ih]

end

/-- A finite map, kept as its entries in ascending key order. -/
structure SortedMap (κ ν : Type) [Ordered κ] where
  toList : List (κ × ν)
  ascending : Ascending (toList.map Prod.fst)

namespace SortedMap

variable {κ ν : Type} [Ordered κ]

instance [DecidableEq κ] [DecidableEq ν] : DecidableEq (SortedMap κ ν) := fun s t =>
  if h : s.toList = t.toList then
    .isTrue (by cases s; cases t; cases h; rfl)
  else
    .isFalse fun hst => h (congrArg toList hst)

def empty : SortedMap κ ν where
  toList := []
  ascending := ascending_nil

instance : Inhabited (SortedMap κ ν) := ⟨empty⟩

def keys (m : SortedMap κ ν) : List κ :=
  m.toList.map Prod.fst

def size (m : SortedMap κ ν) : Nat :=
  m.toList.length

def isEmpty (m : SortedMap κ ν) : Bool :=
  m.toList.isEmpty

def get? [DecidableEq κ] (m : SortedMap κ ν) (key : κ) : Option ν :=
  (m.toList.find? (·.1 = key)).map Prod.snd

/-- Replaces the value under `key` by `update` of the value there, if any. -/
def alter (key : κ) (update : Option ν → ν) (m : SortedMap κ ν) : SortedMap κ ν where
  toList := alterAscending key update m.toList
  ascending := by
    rw [map_fst_alterAscending]
    exact ascending_insertAscending key m.ascending

def insert (key : κ) (value : ν) (m : SortedMap κ ν) : SortedMap κ ν :=
  m.alter key fun _ => value

theorem get?_empty [DecidableEq κ] (key : κ) : (empty : SortedMap κ ν).get? key = none := rfl

theorem find?_alterAscending [DecidableEq κ] (key other : κ) (update : Option ν → ν)
    {entries : List (κ × ν)} (h : Ascending (entries.map Prod.fst)) :
    ((alterAscending key update entries).find? (·.1 = other)).map Prod.snd =
      if other = key then some (update ((entries.find? (·.1 = key)).map Prod.snd))
      else (entries.find? (·.1 = other)).map Prod.snd := by
  induction entries with
  | nil =>
    by_cases hkey : other = key
    · simp [alterAscending, hkey]
    · have : key ≠ other := fun e => hkey e.symm
      simp [alterAscending, hkey, this]
  | cons entry rest ih =>
    obtain ⟨k, v⟩ := entry
    simp only [List.map_cons] at h
    have hrest := List.pairwise_cons.mp h
    have ih := ih hrest.2
    simp only [alterAscending]
    split
    · rename_i hbefore
      have hmissing : ∀ x ∈ (k, v) :: rest, x.1 ≠ key := by
        intro x hx hxk
        rcases List.mem_cons.mp hx with rfl | hx
        · exact ne_of_before hbefore hxk.symm
        · have hkx := hrest.1 x.1 (List.mem_map_of_mem hx)
          have := Ordered.trans _ _ _ hbefore hkx
          exact ne_of_before this hxk.symm
      have hnone : ((k, v) :: rest).find? (·.1 = key) = none := by
        simpa using hmissing
      by_cases hkey : other = key
      · subst hkey
        simp [hnone]
      · have : key ≠ other := fun e => hkey e.symm
        simp [List.find?_cons, this, hkey]
    · split
      · rename_i hafter
        have hne : k ≠ key := ne_of_before hafter
        by_cases hkey : other = key
        · subst hkey
          simp only at ih ⊢
          simp [hne, ih]
        · simp only [if_neg hkey] at ih ⊢
          simp only [List.find?_cons]
          split <;> simp_all
      · rename_i hnot hnot'
        have hsame : key = k := Ordered.total _ _ (by simpa using hnot) (by simpa using hnot')
        subst hsame
        by_cases hkey : other = key
        · subst hkey
          simp
        · have : key ≠ other := fun e => hkey e.symm
          simp [this, hkey]

@[simp]
theorem get?_alter [DecidableEq κ] (m : SortedMap κ ν) (key other : κ) (update : Option ν → ν) :
    (m.alter key update).get? other =
      if other = key then some (update (m.get? key)) else m.get? other :=
  find?_alterAscending key other update m.ascending

@[simp]
theorem get?_insert [DecidableEq κ] (m : SortedMap κ ν) (key other : κ) (value : ν) :
    (m.insert key value).get? other = if other = key then some value else m.get? other := by
  simp [insert]

end SortedMap

end HeaderSynth
