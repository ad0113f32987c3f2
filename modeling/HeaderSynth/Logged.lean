/-!
# Computations that keep a log

A computation writes entries and then yields a result or fails; what it wrote
before a failure stays.  Nothing reads the log while it is written, so the log of
a sequence is the concatenation of the logs of its steps.
-/

namespace HeaderSynth

/-- A result or failure, with the entries written on the way to it. -/
structure Logged (ω ε α : Type) where
  log : List ω
  result : Except ε α

namespace Logged

variable {ω ε α β : Type}

def fail (error : ε) : Logged ω ε α := ⟨[], .error error⟩

def write (entry : ω) : Logged ω ε Unit := ⟨[entry], .ok ()⟩

def ofExcept (result : Except ε α) : Logged ω ε α := ⟨[], result⟩

protected def bind (first : Logged ω ε α) (next : α → Logged ω ε β) : Logged ω ε β :=
  match first.result with
  | .ok value => ⟨first.log ++ (next value).log, (next value).result⟩
  | .error error => ⟨first.log, .error error⟩

instance : Monad (Logged ω ε) where
  pure value := ⟨[], .ok value⟩
  bind := Logged.bind

theorem bind_def (first : Logged ω ε α) (next : α → Logged ω ε β) :
    first >>= next = first.bind next := rfl

instance : LawfulMonad (Logged ω ε) := LawfulMonad.mk' _
  (fun ⟨log, result⟩ => by cases result <;> simp [Functor.map, Logged.bind])
  (fun value next => by simp [bind_def, pure, Logged.bind])
  (fun ⟨log, result⟩ next after => by
    cases result with
    | error => rfl
    | ok value => rcases h : next value with ⟨_, _ | _⟩ <;> simp [bind_def, Logged.bind, h])

/-- The same computation with other entries in its log. -/
def mapLog {ω' : Type} (f : ω → ω') (computation : Logged ω ε α) : Logged ω' ε α :=
  ⟨computation.log.map f, computation.result⟩

@[simp]
theorem pure_eq (value : α) : (pure value : Logged ω ε α) = ⟨[], .ok value⟩ := rfl

theorem bind_ok {first : Logged ω ε α} {value : α} (h : first.result = .ok value)
    (next : α → Logged ω ε β) :
    first >>= next = ⟨first.log ++ (next value).log, (next value).result⟩ := by
  show Logged.bind first next = _
  simp [Logged.bind, h]

theorem bind_error {first : Logged ω ε α} {error : ε} (h : first.result = .error error)
    (next : α → Logged ω ε β) :
    first >>= next = ⟨first.log, .error error⟩ := by
  show Logged.bind first next = _
  simp [Logged.bind, h]

end Logged

end HeaderSynth
