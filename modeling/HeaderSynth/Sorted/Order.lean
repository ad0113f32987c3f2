/-!
# Keys with a strict total order

Everything that the generator lists, it lists in ascending order: texts in
code point order, which is also the byte order of their UTF-8 encodings, object
ids by number, and pairs by their first parts before their second.
-/

namespace HeaderSynth

/-- A type whose values can be listed in ascending order. -/
class Ordered (α : Type) where
  before : α → α → Bool
  irrefl : ∀ a, before a a = false
  trans : ∀ a b c, before a b = true → before b c = true → before a c = true
  total : ∀ a b, before a b = false → before b a = false → a = b

namespace Ordered

variable {α : Type} [Ordered α]

theorem ne_of_before {a b : α} (h : before a b = true) : a ≠ b := by
  rintro rfl
  simp [Ordered.irrefl] at h

theorem asymm {a b : α} (h : before a b = true) : before b a = false := by
  cases hba : before b a with
  | false => rfl
  | true =>
    have := Ordered.trans a b a h hba
    simp [Ordered.irrefl] at this

end Ordered

/-- Whether `s` stands before `t` in code point order. -/
def Text.precedes (s t : String) : Bool :=
  @decide (@LT.lt String String.instLT s t) (String.decidableLT s t)

theorem Text.precedes_eq_true {s t : String} :
    Text.precedes s t = true ↔ @LT.lt String String.instLT s t := by
  simp [Text.precedes]

theorem Text.precedes_eq_false {s t : String} :
    Text.precedes s t = false ↔ ¬ @LT.lt String String.instLT s t := by
  simp [Text.precedes]

instance : Ordered String where
  before := Text.precedes
  irrefl s := Text.precedes_eq_false.mpr (String.lt_irrefl s)
  trans _ _ _ hst htu :=
    Text.precedes_eq_true.mpr
      (String.lt_trans (Text.precedes_eq_true.mp hst) (Text.precedes_eq_true.mp htu))
  total _ _ hst hts :=
    String.le_antisymm (String.not_lt.mp (Text.precedes_eq_false.mp hts))
      (String.not_lt.mp (Text.precedes_eq_false.mp hst))

instance {α β : Type} [DecidableEq α] [Ordered α] [Ordered β] : Ordered (α × β) where
  before s t := Ordered.before s.1 t.1 || (s.1 = t.1 && Ordered.before s.2 t.2)
  irrefl s := by simp [Ordered.irrefl]
  trans s t u hst htu := by
    simp only [Bool.or_eq_true, Bool.and_eq_true, decide_eq_true_eq] at hst htu ⊢
    rcases hst with hst | ⟨hst, hst'⟩
    · rcases htu with htu | ⟨htu, -⟩
      · exact .inl (Ordered.trans _ _ _ hst htu)
      · exact .inl (htu ▸ hst)
    · rcases htu with htu | ⟨htu, htu'⟩
      · exact .inl (hst ▸ htu)
      · exact .inr ⟨hst.trans htu, Ordered.trans _ _ _ hst' htu'⟩
  total s t hst hts := by
    simp only [Bool.or_eq_false_iff, Bool.and_eq_false_iff, decide_eq_false_iff_not] at hst hts
    have hfirst : s.1 = t.1 := Ordered.total _ _ hst.1 hts.1
    have hsecond : s.2 = t.2 :=
      Ordered.total _ _ (hst.2.resolve_left (· hfirst)) (hts.2.resolve_left (· hfirst.symm))
    exact Prod.ext hfirst hsecond

end HeaderSynth
