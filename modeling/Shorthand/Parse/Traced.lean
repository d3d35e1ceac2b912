import Shorthand.Parse.Event

/-!
# Results with events

A `Traced ε α` is an outcome together with the events that were reported on the way to it. A
failure keeps the events before it.
-/

namespace Shorthand

/-- Outcomes can be compared when results and failures can. -/
instance decidableEqOutcome {ε α : Type} [DecidableEq ε] [DecidableEq α] :
    DecidableEq (Except ε α)
  | .ok a, .ok b => decidable_of_iff (a = b) ⟨congrArg Except.ok, Except.ok.inj⟩
  | .error a, .error b => decidable_of_iff (a = b) ⟨congrArg Except.error, Except.error.inj⟩
  | .ok _, .error _ => .isFalse nofun
  | .error _, .ok _ => .isFalse nofun

/-- An outcome with the events before it. -/
structure Traced (ε α : Type) where
  events : List Event
  outcome : Except ε α

namespace Traced

variable {ε ε' α β γ : Type}

/-- A result without events. -/
def ok (result : α) : Traced ε α := ⟨[], .ok result⟩

/-- A failure without events. -/
def fail (error : ε) : Traced ε α := ⟨[], .error error⟩

/-- One event. -/
def report (event : Event) : Traced ε Unit := ⟨[event], .ok ()⟩

/-- Goes on with the result; the events come one after the other, and a failure ends it. -/
def bind (first : Traced ε α) (next : α → Traced ε β) : Traced ε β :=
  match first.outcome with
  | .ok result => ⟨first.events ++ (next result).events, (next result).outcome⟩
  | .error error => ⟨first.events, .error error⟩

instance : Monad (Traced ε) where
  pure := ok
  bind := bind

/-- Puts the cause of a failure differently. -/
def mapError (f : ε → ε') (traced : Traced ε α) : Traced ε' α :=
  ⟨traced.events, traced.outcome.mapError f⟩

theorem pure_eq (result : α) : (pure result : Traced ε α) = ok result := rfl

theorem bind_eq (first : Traced ε α) (next : α → Traced ε β) : first >>= next = first.bind next :=
  rfl

@[simp] theorem ok_bind (result : α) (next : α → Traced ε β) :
    (ok result).bind next = next result := by
  simp [bind, ok]

@[simp] theorem fail_bind (error : ε) (next : α → Traced ε β) :
    (fail error).bind next = fail error := rfl

theorem report_bind (event : Event) (next : Unit → Traced ε β) :
    (report event).bind next = ⟨event :: (next ()).events, (next ()).outcome⟩ := rfl

theorem exists_of_isOk {outcome : Except ε α} (h : outcome.isOk = true) :
    ∃ result, outcome = .ok result := by
  cases outcome with
  | error error => cases h
  | ok result => exact ⟨result, rfl⟩

/-- The cause of a failure. -/
def error? (traced : Traced ε α) : Option ε :=
  match traced.outcome with
  | .ok _ => none
  | .error error => some error

theorem error?_eq_some {traced : Traced ε α} {error : ε} :
    traced.error? = some error ↔ traced.outcome = .error error := by
  unfold error?
  split
  · next h => simp [h]
  · next h => simp [h]

/-- A composed program succeeds exactly when both of its parts do. -/
theorem outcome_bind_eq_ok {first : Traced ε α} {next : α → Traced ε β} {result : β} :
    (first.bind next).outcome = .ok result ↔
      ∃ between, first.outcome = .ok between ∧ (next between).outcome = .ok result := by
  obtain ⟨events, outcome⟩ := first
  cases outcome with
  | error error => simp [bind]
  | ok between => simp [bind]

theorem bind_of_ok {first : Traced ε α} {between : α} (h : first.outcome = .ok between)
    (next : α → Traced ε β) :
    first.bind next = ⟨first.events ++ (next between).events, (next between).outcome⟩ := by
  obtain ⟨events, outcome⟩ := first
  cases h
  rfl

theorem outcome_bind_of_ok {first : Traced ε α} {between : α}
    (h : first.outcome = .ok between) (next : α → Traced ε β) :
    (first.bind next).outcome = (next between).outcome := by
  rw [bind_of_ok h]

/-- What fails in the first part of a composed program fails in the same way as a whole. -/
theorem outcome_bind_of_error {first : Traced ε α} {error : ε}
    (h : first.outcome = .error error) (next : α → Traced ε β) :
    (first.bind next).outcome = .error error := by
  obtain ⟨events, outcome⟩ := first
  cases h
  rfl

theorem bind_assoc (first : Traced ε α) (second : α → Traced ε β) (third : β → Traced ε γ) :
    (first.bind second).bind third = first.bind fun result => (second result).bind third := by
  obtain ⟨events, outcome⟩ := first
  cases outcome with
  | error error => rfl
  | ok result =>
    simp only [bind]
    split <;> simp

end Traced

end Shorthand
