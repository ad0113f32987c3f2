import Mathlib.Data.List.Forall2

/-!
# Computations that succeed

A sequence of computations succeeds when each of its steps does, and then the result
of each step is known.
-/

namespace HeaderSynth.Outcome

variable {ε α β : Type}

theorem bind_eq_ok {first : Except ε α} {next : α → Except ε β} {result : β} :
    first >>= next = .ok result ↔ ∃ value, first = .ok value ∧ next value = .ok result := by
  cases first with
  | error error => simp [bind, Except.bind]
  | ok value => simp [bind, Except.bind]

theorem bind_eq_error {first : Except ε α} {next : α → Except ε β} {fault : ε} :
    first >>= next = .error fault ↔
      first = .error fault ∨ ∃ value, first = .ok value ∧ next value = .error fault := by
  cases first with
  | error error => simp [bind, Except.bind]
  | ok value => simp [bind, Except.bind]

theorem pure_eq_ok {value result : α} : (pure value : Except ε α) = .ok result ↔ value = result := by
  simp [pure, Except.pure]

theorem map_eq_ok {first : Except ε α} {f : α → β} {result : β} :
    first.map f = .ok result ↔ ∃ value, first = .ok value ∧ f value = result := by
  cases first with
  | error error => simp [Except.map]
  | ok value => simp [Except.map]

/-- A failure satisfies `E`, and a result satisfies `P`. -/
def Meets (E : ε → Prop) (P : α → Prop) : Except ε α → Prop
  | .error fault => E fault
  | .ok result => P result

theorem Meets.bind {E : ε → Prop} {P : α → Prop} {Q : β → Prop} {first : Except ε α}
    {next : α → Except ε β} (h : Meets E P first)
    (hnext : ∀ value, first = .ok value → P value → Meets E Q (next value)) :
    Meets E Q (first >>= next) := by
  cases first with
  | error fault => exact h
  | ok value => exact hnext value rfl h

theorem Meets.imp {E E' : ε → Prop} {P P' : α → Prop} {outcome : Except ε α}
    (h : Meets E P outcome) (herror : ∀ fault, E fault → E' fault)
    (hok : ∀ result, P result → P' result) : Meets E' P' outcome := by
  cases outcome with
  | error fault => exact herror fault h
  | ok result => exact hok result h

/-- A closed computation is seen to succeed by running it. -/
theorem exists_of_toBool {outcome : Except ε α} (h : outcome.toBool = true) :
    ∃ result, outcome = .ok result := by
  cases outcome with
  | ok result => exact ⟨result, rfl⟩
  | error fault => cases h

/-- A list is computed item by item. -/
theorem mapM_eq_ok {f : α → Except ε β} {items : List α} {results : List β} :
    items.mapM f = .ok results ↔
      List.Forall₂ (fun item result => f item = .ok result) items results := by
  induction items generalizing results with
  | nil =>
      rw [List.mapM_nil, pure_eq_ok, List.forall₂_nil_left_iff]
      exact eq_comm
  | cons item rest ih =>
      simp only [List.mapM_cons, bind_eq_ok, pure_eq_ok]
      constructor
      · rintro ⟨value, hvalue, values, hvalues, rfl⟩
        exact .cons hvalue (ih.mp hvalues)
      · intro h
        cases h with
        | cons hvalue hvalues => exact ⟨_, hvalue, _, ih.mpr hvalues, rfl⟩

/-- A list fails with the failure of one of its items. -/
theorem exists_of_mapM_eq_error {f : α → Except ε β} {items : List α} {fault : ε}
    (h : items.mapM f = .error fault) : ∃ item ∈ items, f item = .error fault := by
  induction items with
  | nil => cases h
  | cons item rest ih =>
      rw [List.mapM_cons] at h
      rcases bind_eq_error.mp h with hitem | ⟨value, -, h⟩
      · exact ⟨item, List.mem_cons_self, hitem⟩
      rcases bind_eq_error.mp h with hrest | ⟨values, -, h⟩
      · obtain ⟨other, hother, hfault⟩ := ih hrest
        exact ⟨other, List.mem_cons_of_mem item hother, hfault⟩
      · cases h

theorem exists_related_of_mem {R : α → β → Prop} {items : List α} {results : List β}
    (h : List.Forall₂ R items results) {item : α} (hitem : item ∈ items) :
    ∃ result ∈ results, R item result := by
  obtain ⟨index, rfl⟩ := List.get_of_mem hitem
  have hlength := h.length_eq
  exact ⟨_, List.get_mem .., h.get index.isLt (by omega)⟩

theorem flatMap_eq_of_forall₂ {γ : Type} {items : List α} {results : List β}
    {f : β → List γ} {g : α → List γ}
    (h : List.Forall₂ (fun item result => f result = g item) items results) :
    results.flatMap f = items.flatMap g := by
  induction h with
  | nil => rfl
  | cons hitem _ ih => rw [List.flatMap_cons, List.flatMap_cons, hitem, ih]

end HeaderSynth.Outcome
