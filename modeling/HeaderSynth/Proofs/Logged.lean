import HeaderSynth.Logged
import Mathlib.Data.List.Forall2

/-!
# Bounds on logged computations

A computation stays within bounds when every entry that it writes and every failure that it
ends with does.  Bounds are kept by each step of a sequence, so those of a whole declaration
follow from those of its lines.  Where a computation succeeds, more can be said: each of its
steps has succeeded, and its log holds the logs of all of them.  Two computations agree when
they fail alike or their results are related.
-/

namespace HeaderSynth.Logged

variable {ω ε α β : Type} {Q : ω → Prop} {E : ε → Prop}

/-- Every entry satisfies `Q`, and a failure satisfies `E`. -/
structure Within (Q : ω → Prop) (E : ε → Prop) (computation : Logged ω ε α) : Prop where
  log : ∀ entry ∈ computation.log, Q entry
  failure : ∀ error, computation.result = .error error → E error

namespace Within

theorem pure (value : α) : (Pure.pure value : Logged ω ε α).Within Q E where
  log _ hentry := by cases hentry
  failure _ herror := by cases herror

theorem fail {error : ε} (h : E error) : (Logged.fail error : Logged ω ε α).Within Q E where
  log _ hentry := by cases hentry
  failure _ herror := by
    cases herror
    exact h

theorem write {entry : ω} (h : Q entry) : (Logged.write entry : Logged ω ε Unit).Within Q E where
  log _ hentry := by
    rw [List.mem_singleton.mp hentry]
    exact h
  failure _ herror := by cases herror

theorem ofExcept {result : Except ε α} (h : ∀ error, result = .error error → E error) :
    (Logged.ofExcept result : Logged ω ε α).Within Q E where
  log _ hentry := by cases hentry
  failure := h

theorem bind {first : Logged ω ε α} {next : α → Logged ω ε β} (h : first.Within Q E)
    (hnext : ∀ value, first.result = .ok value → (next value).Within Q E) :
    (first >>= next).Within Q E := by
  cases hfirst : first.result with
  | error fault =>
      rw [bind_error hfirst]
      refine ⟨h.log, ?_⟩
      rintro _ ⟨⟩
      exact h.failure fault hfirst
  | ok value =>
      rw [bind_ok hfirst]
      have hrest := hnext value hfirst
      refine ⟨?_, hrest.failure⟩
      intro entry hentry
      rcases List.mem_append.mp hentry with hentry | hentry
      · exact h.log entry hentry
      · exact hrest.log entry hentry

theorem mapM {f : α → Logged ω ε β} {items : List α}
    (h : ∀ item ∈ items, (f item).Within Q E) : (items.mapM f).Within Q E := by
  induction items with
  | nil =>
      rw [List.mapM_nil]
      exact pure []
  | cons item rest ih =>
      rw [List.mapM_cons]
      apply (h item List.mem_cons_self).bind
      intro value _
      apply (ih fun other hother => h other (List.mem_cons_of_mem item hother)).bind
      intro values _
      exact pure _

theorem forM {f : α → Logged ω ε PUnit} {items : List α}
    (h : ∀ item ∈ items, (f item).Within Q E) : (items.forM f).Within Q E := by
  induction items with
  | nil => exact pure _
  | cons item rest ih =>
      apply (h item List.mem_cons_self).bind
      intro _ _
      exact ih fun other hother => h other (List.mem_cons_of_mem item hother)

theorem mapLog {ω' : Type} {Q' : ω' → Prop} {f : ω → ω'} {computation : Logged ω ε α}
    (h : computation.Within Q E) (hf : ∀ entry, Q entry → Q' (f entry)) :
    (computation.mapLog f).Within Q' E where
  log entry hentry := by
    obtain ⟨source, hsource, rfl⟩ := List.mem_map.mp hentry
    exact hf source (h.log source hsource)
  failure := h.failure

end Within

/-! ## Success -/

theorem result_bind_eq_ok {first : Logged ω ε α} {next : α → Logged ω ε β} {value : β} :
    (first >>= next).result = .ok value ↔
      ∃ middle, first.result = .ok middle ∧ (next middle).result = .ok value := by
  cases hfirst : first.result with
  | error fault =>
      rw [bind_error hfirst]
      simp
  | ok middle =>
      rw [bind_ok hfirst]
      simp

/-- A computation yields a result. -/
def Succeeds (computation : Logged ω ε α) : Prop :=
  ∃ value, computation.result = .ok value

/-- A list is computed item by item. -/
theorem forall₂_of_mapM_eq_ok {f : α → Logged ω ε β} {items : List α} {results : List β}
    (h : (items.mapM f).result = .ok results) :
    List.Forall₂ (fun item result => (f item).result = .ok result) items results := by
  induction items generalizing results with
  | nil =>
      cases h
      exact .nil
  | cons item rest ih =>
      rw [List.mapM_cons] at h
      obtain ⟨value, hvalue, h⟩ := result_bind_eq_ok.mp h
      obtain ⟨values, hvalues, h⟩ := result_bind_eq_ok.mp h
      cases h
      exact .cons hvalue (ih hvalues)

/-- The computation succeeds only if `P` holds. -/
def Requires (P : Prop) (computation : Logged ω ε α) : Prop :=
  computation.Succeeds → P

namespace Requires

variable {P : Prop}

theorem bind_left {first : Logged ω ε α} (h : first.Requires P) (next : α → Logged ω ε β) :
    (first >>= next).Requires P := by
  rintro ⟨value, hvalue⟩
  obtain ⟨middle, hfirst, -⟩ := result_bind_eq_ok.mp hvalue
  exact h ⟨middle, hfirst⟩

theorem bind_right (first : Logged ω ε α) {next : α → Logged ω ε β}
    (h : ∀ value, (next value).Requires P) : (first >>= next).Requires P := by
  rintro ⟨value, hvalue⟩
  obtain ⟨middle, -, hrest⟩ := result_bind_eq_ok.mp hvalue
  exact h middle ⟨value, hrest⟩

end Requires

/-- Whenever the computation succeeds, the entries of `T` in its log are those of `P`. -/
def Exactly (T P : ω → Prop) (computation : Logged ω ε α) : Prop :=
  ∀ value, computation.result = .ok value → ∀ entry, T entry →
    (entry ∈ computation.log ↔ P entry)

namespace Exactly

variable {T P R : ω → Prop}

theorem congr {computation : Logged ω ε α} (h : computation.Exactly T P)
    (hsame : ∀ entry, T entry → (P entry ↔ R entry)) : computation.Exactly T R := by
  intro value hvalue entry hentry
  rw [h value hvalue entry hentry, hsame entry hentry]

theorem bind {first : Logged ω ε α} {next : α → Logged ω ε β} (h : first.Exactly T P)
    (hnext : ∀ value, first.result = .ok value → (next value).Exactly T R) :
    (first >>= next).Exactly T fun entry => P entry ∨ R entry := by
  intro value hvalue entry hentry
  obtain ⟨middle, hmiddle, hrest⟩ := result_bind_eq_ok.mp hvalue
  rw [bind_ok hmiddle, List.mem_append, h middle hmiddle entry hentry,
    hnext middle hmiddle value hrest entry hentry]

end Exactly

/-! ## Replays -/

/-- Writes entries up to the first failure among them, and yields the value if there is none. -/
def replay (value : α) : List (Except ε ω) → Logged ω ε α
  | [] => pure value
  | .ok entry :: rest => do
    write entry
    replay value rest
  | .error error :: _ => fail error

/-- The failure that an entry of a replay is. -/
def failure? : Except ε ω → Option ε
  | .ok _ => none
  | .error error => some error

@[simp]
theorem filterMap_failure?_ok (entries : List ω) :
    (entries.map Except.ok).filterMap (failure? : Except ε ω → Option ε) = [] := by
  rw [List.filterMap_map]
  exact List.filterMap_eq_nil_iff.mpr fun _ _ => rfl

@[simp]
theorem filterMap_toOption_ok (entries : List ω) :
    (entries.map Except.ok).filterMap (Except.toOption : Except ε ω → Option ω) = entries := by
  rw [List.filterMap_map]
  exact List.filterMap_some

section Replay

variable {value : α} {steps : List (Except ε ω)}

/-- What is replayed after a replay is replayed with it. -/
theorem replay_bind {next : α → Logged ω ε β} {result : β} {more : List (Except ε ω)}
    (h : next value = replay result more) :
    replay value steps >>= next = replay result (steps ++ more) := by
  induction steps with
  | nil => exact h
  | cons step rest ih =>
      cases step with
      | ok entry =>
          rw [replay, bind_assoc, List.cons_append, replay]
          simp only [ih]
      | error error => rfl

theorem replay_bind_done {next : α → Logged ω ε β} {result : β} (h : next value = pure result) :
    replay value steps >>= next = replay result steps := by
  have hdone : next value = replay result [] := h
  rw [replay_bind hdone, List.append_nil]

theorem result_replay : (replay value steps).result =
    match steps.findSome? failure? with
    | some error => .error error
    | none => .ok value := by
  induction steps with
  | nil => rfl
  | cons step rest ih =>
      cases step with
      | ok entry => exact ih
      | error error => rfl

theorem log_replay (h : (replay value steps).Succeeds) :
    (replay value steps).log = steps.filterMap Except.toOption := by
  induction steps with
  | nil => rfl
  | cons step rest ih =>
      cases step with
      | ok entry => exact congrArg (entry :: ·) (ih h)
      | error error =>
          obtain ⟨_, hvalue⟩ := h
          cases hvalue

theorem Within.replay (hlog : ∀ entry, .ok entry ∈ steps → Q entry)
    (hfailure : ∀ error, .error error ∈ steps → E error) :
    (replay value steps).Within Q E := by
  induction steps with
  | nil => exact .pure value
  | cons step rest ih =>
      have hrest := ih (fun entry hentry => hlog entry (List.mem_cons_of_mem step hentry))
        fun error herror => hfailure error (List.mem_cons_of_mem step herror)
      cases step with
      | ok entry => exact (Within.write (hlog entry List.mem_cons_self)).bind fun _ _ => hrest
      | error error => exact .fail (hfailure error List.mem_cons_self)

end Replay

/-! ## Agreement -/

/-- Two computations fail with the same error, or succeed with related results. -/
def Agree (R : α → β → Prop) (left : Logged ω ε α) (right : Logged ω ε β) : Prop :=
  match left.result, right.result with
  | .ok first, .ok second => R first second
  | .error first, .error second => first = second
  | _, _ => False

namespace Agree

variable {γ δ : Type} {R : α → β → Prop} {S : γ → δ → Prop}

theorem pure {first : α} {second : β} (h : R first second) :
    Agree R (Pure.pure first : Logged ω ε α) (Pure.pure second : Logged ω ε β) :=
  h

theorem refl (computation : Logged ω ε α) : Agree Eq computation computation := by
  rw [Agree]
  cases computation.result <;> rfl

theorem bind {left : Logged ω ε α} {right : Logged ω ε β} {next : α → Logged ω ε γ}
    {other : β → Logged ω ε δ} (h : Agree R left right)
    (hnext : ∀ first second, R first second → Agree S (next first) (other second)) :
    Agree S (left >>= next) (right >>= other) := by
  rw [Agree] at h
  split at h
  · rename_i first second hfirst hsecond
    rw [bind_ok hfirst, bind_ok hsecond]
    exact hnext first second h
  · rename_i fault same hfault hsame
    rw [bind_error hfault, bind_error hsame]
    exact h
  · exact h.elim

theorem mapM {f : γ → Logged ω ε α} {g : γ → Logged ω ε β} (h : ∀ item, Agree R (f item) (g item))
    (items : List γ) : Agree (List.Forall₂ R) (items.mapM f) (items.mapM g) := by
  induction items with
  | nil => exact pure .nil
  | cons item rest ih =>
      rw [List.mapM_cons, List.mapM_cons]
      apply (h item).bind
      intro first second hitem
      apply ih.bind
      intro firsts seconds hrest
      exact pure (.cons hitem hrest)

/-- Where one computation succeeds, so does the other. -/
theorem exists_of_ok {left : Logged ω ε α} {right : Logged ω ε β} (h : Agree R left right)
    {first : α} (hfirst : left.result = .ok first) :
    ∃ second, right.result = .ok second ∧ R first second := by
  rw [Agree, hfirst] at h
  split at h
  · rename_i value second hvalue hsecond
    cases hvalue
    exact ⟨second, hsecond, h⟩
  · rename_i hvalue _
    cases hvalue
  · exact h.elim

end Agree

end HeaderSynth.Logged
