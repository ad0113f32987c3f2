import HeaderSynth.Sorted.Order

/-!
# Sets in ascending order

A finite set is kept as the strictly ascending list of its members, so two
sets with the same members are equal and listing one needs no sorting.
-/

namespace HeaderSynth

open Ordered

/-- A list is ascending when each member stands before all later ones. -/
abbrev Ascending {α : Type} [Ordered α] (items : List α) : Prop :=
  items.Pairwise fun a b => before a b = true

/-- Adds `x` at its place, unless it is already there. -/
def insertAscending {α : Type} [Ordered α] (x : α) : List α → List α
  | [] => [x]
  | y :: ys =>
    if before x y then x :: y :: ys
    else if before y x then y :: insertAscending x ys
    else y :: ys

section

variable {α : Type} [Ordered α]

theorem ascending_nil : Ascending ([] : List α) := List.Pairwise.nil

theorem mem_insertAscending (x a : α) (items : List α) :
    a ∈ insertAscending x items ↔ a = x ∨ a ∈ items := by
  induction items with
  | nil => simp [insertAscending]
  | cons y ys ih =>
    simp only [insertAscending]
    split
    · simp
    · split
      · simp only [List.mem_cons, ih]
        grind
      · rename_i hxy hyx
        have : x = y := total x y (by simpa using hxy) (by simpa using hyx)
        grind

theorem ascending_insertAscending (x : α) {items : List α} (h : Ascending items) :
    Ascending (insertAscending x items) := by
  induction items with
  | nil => simp [insertAscending, Ascending]
  | cons y ys ih =>
    rw [Ascending, List.pairwise_cons] at h
    simp only [insertAscending]
    split
    · rename_i hxy
      refine List.pairwise_cons.mpr ⟨?_, List.pairwise_cons.mpr h⟩
      intro z hz
      rcases List.mem_cons.mp hz with rfl | hz
      · exact hxy
      · exact trans x y z hxy (h.1 z hz)
    · split
      · rename_i hyx
        refine List.pairwise_cons.mpr ⟨?_, ih h.2⟩
        intro z hz
        rcases (mem_insertAscending x z ys).mp hz with rfl | hz
        · exact hyx
        · exact h.1 z hz
      · exact List.pairwise_cons.mpr h

/-- An ascending list is determined by its members. -/
theorem Ascending.ext {items others : List α} (hitems : Ascending items)
    (hothers : Ascending others) (h : ∀ a, a ∈ items ↔ a ∈ others) : items = others := by
  induction items generalizing others with
  | nil =>
    cases others with
    | nil => rfl
    | cons b bs => simpa using (h b).mpr (by simp)
  | cons a as ih =>
    cases others with
    | nil => simpa using (h a).mp (by simp)
    | cons b bs =>
      have ha := List.pairwise_cons.mp hitems
      have hb := List.pairwise_cons.mp hothers
      have hab : a = b := by
        rcases List.mem_cons.mp ((h a).mp (by simp)) with hab | hmem
        · exact hab
        rcases List.mem_cons.mp ((h b).mpr (by simp)) with hba | hmem'
        · exact hba.symm
        · have := Ordered.trans a b a (ha.1 b hmem') (hb.1 a hmem)
          simp [Ordered.irrefl] at this
      subst hab
      refine congrArg (a :: ·) (ih ha.2 hb.2 fun c => ?_)
      have hc := h c
      simp only [List.mem_cons] at hc
      constructor
      · intro hmem
        rcases hc.mp (Or.inr hmem) with rfl | hmem'
        · exact absurd rfl (ne_of_before (ha.1 c hmem))
        · exact hmem'
      · intro hmem
        rcases hc.mpr (Or.inr hmem) with rfl | hmem'
        · exact absurd rfl (ne_of_before (hb.1 c hmem))
        · exact hmem'

end

/-- A finite set, kept as the ascending list of its members. -/
structure SortedSet (α : Type) [Ordered α] where
  toList : List α
  ascending : Ascending toList

namespace SortedSet

variable {α : Type} [Ordered α]

instance [DecidableEq α] : DecidableEq (SortedSet α) := fun s t =>
  if h : s.toList = t.toList then
    .isTrue (by cases s; cases t; cases h; rfl)
  else
    .isFalse fun hst => h (congrArg toList hst)

def empty : SortedSet α where
  toList := []
  ascending := ascending_nil

instance : Inhabited (SortedSet α) := ⟨empty⟩

instance : Membership α (SortedSet α) where
  mem s a := a ∈ s.toList

instance [DecidableEq α] (a : α) (s : SortedSet α) : Decidable (a ∈ s) :=
  inferInstanceAs (Decidable (a ∈ s.toList))

def insert (x : α) (s : SortedSet α) : SortedSet α where
  toList := insertAscending x s.toList
  ascending := ascending_insertAscending x s.ascending

def insertAll (items : List α) (s : SortedSet α) : SortedSet α :=
  items.foldl (fun s x => s.insert x) s

def ofList (items : List α) : SortedSet α :=
  insertAll items empty

def erase [DecidableEq α] (x : α) (s : SortedSet α) : SortedSet α where
  toList := s.toList.filter (· ≠ x)
  ascending := s.ascending.filter _

def isEmpty (s : SortedSet α) : Bool :=
  s.toList.isEmpty

def size (s : SortedSet α) : Nat :=
  s.toList.length

theorem mem_def {a : α} {s : SortedSet α} : a ∈ s ↔ a ∈ s.toList := Iff.rfl

@[simp]
theorem not_mem_empty (a : α) : a ∉ (empty : SortedSet α) := by
  simp [mem_def, empty]

@[simp]
theorem mem_insert {x a : α} {s : SortedSet α} : a ∈ s.insert x ↔ a = x ∨ a ∈ s :=
  mem_insertAscending x a s.toList

@[simp]
theorem mem_erase [DecidableEq α] {x a : α} {s : SortedSet α} :
    a ∈ s.erase x ↔ a ∈ s ∧ a ≠ x := by
  simp [mem_def, erase]

/-- Sets with the same members are equal. -/
@[ext]
theorem ext {s t : SortedSet α} (h : ∀ a, a ∈ s ↔ a ∈ t) : s = t := by
  obtain ⟨items, hitems⟩ := s
  obtain ⟨others, hothers⟩ := t
  congr
  exact Ascending.ext hitems hothers h

@[simp]
theorem mem_insertAll {items : List α} {a : α} {s : SortedSet α} :
    a ∈ s.insertAll items ↔ a ∈ items ∨ a ∈ s := by
  induction items generalizing s with
  | nil => simp [insertAll]
  | cons x xs ih =>
    have := ih (s := s.insert x)
    simp only [insertAll, List.foldl_cons] at this ⊢
    simp only [this, mem_insert, List.mem_cons]
    grind

@[simp]
theorem mem_ofList {items : List α} {a : α} : a ∈ ofList items ↔ a ∈ items := by
  simp [ofList]

end SortedSet

end HeaderSynth
