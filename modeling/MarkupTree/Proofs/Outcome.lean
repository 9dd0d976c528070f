import MarkupTree.Failure

/-!
# Outcomes of steps in order

Steps that may fail run one after another; the first that fails ends the run.

Results:

* `bind_eq_ok`: a run succeeds if each of its steps does.
* `failure?_bind`: its failure is the first of the failures of its steps.
* `FailsIf.bind`: steps that can only fail in one way fail if one of them does.
-/

namespace MarkupTree.Outcome

variable {α β : Type}

theorem bind_eq_ok {x : Except Failure α} {f : α → Except Failure β} {b : β} :
    x >>= f = .ok b ↔ ∃ a, x = .ok a ∧ f a = .ok b := by
  constructor
  · intro h
    cases x with
    | error e => contradiction
    | ok a => exact ⟨a, rfl, h⟩
  · rintro ⟨a, rfl, h⟩
    exact h

theorem ok_bind (a : α) (f : α → Except Failure β) : .ok a >>= f = f a := rfl

theorem pure_eq_ok {a b : α} : (pure a : Except Failure α) = .ok b ↔ a = b := by
  constructor
  · intro h
    exact Except.ok.inj h
  · rintro rfl
    rfl

/-- The failure that an outcome is, if it is one. -/
def failure? : Except Failure α → Option Failure
  | .ok _ => none
  | .error e => some e

@[simp] theorem failure?_bind_pure (x : Except Failure α) (f : α → β) :
    failure? (x >>= fun a => pure (f a)) = failure? x := by
  cases x <;> rfl

theorem failure?_eq_some {x : Except Failure α} {e : Failure} :
    failure? x = some e ↔ x = .error e := by
  cases x <;> simp [failure?]

theorem failure?_eq_none {x : Except Failure α} : failure? x = none ↔ ∃ a, x = .ok a := by
  cases x <;> simp [failure?]

/-- If the failures of a step head a list, and those of what follows a success head another, then
those of both in order head the two lists in order. -/
theorem failure?_bind {x : Except Failure α} {f : α → Except Failure β} {first second : List Failure}
    (hx : failure? x = first.head?) (hf : ∀ a, x = .ok a → failure? (f a) = second.head?) :
    failure? (x >>= f) = (first ++ second).head? := by
  cases x with
  | error e =>
    rw [List.head?_append, ← hx]
    rfl
  | ok a =>
    rw [List.head?_append, ← hx, ← hf a rfl]
    rfl

/-! ## One way to fail -/

/-- Whether an outcome is this failure if a condition holds, and a success otherwise. -/
def FailsIf (failing : Bool) (e : Failure) (x : Except Failure α) : Prop :=
  if failing then x = .error e else ∃ a, x = .ok a

variable {e : Failure} {x : Except Failure α} {failing : Bool}

theorem failsIf_error (e : Failure) : FailsIf true e (.error e : Except Failure α) := rfl

theorem failsIf_ok (e : Failure) (a : α) : FailsIf false e (.ok a) := ⟨a, rfl⟩

theorem FailsIf.bind {f : α → Except Failure β} {later : Bool} (hx : FailsIf failing e x)
    (hf : ∀ a, x = .ok a → FailsIf later e (f a)) : FailsIf (failing || later) e (x >>= f) := by
  cases failing with
  | true =>
    obtain rfl : x = .error e := hx
    exact failsIf_error e
  | false =>
    obtain ⟨a, rfl⟩ : ∃ a, x = .ok a := hx
    exact hf a rfl

theorem FailsIf.bind_pure {f : α → β} (hx : FailsIf failing e x) :
    FailsIf failing e (x >>= fun a => pure (f a)) := by
  have h := hx.bind fun a _ => failsIf_ok e (f a)
  rw [Bool.or_false] at h
  exact h

theorem FailsIf.map {f : α → β} (hx : FailsIf failing e x) : FailsIf failing e (x.map f) := by
  cases failing with
  | true =>
    obtain rfl : x = .error e := hx
    exact failsIf_error e
  | false =>
    obtain ⟨a, rfl⟩ : ∃ a, x = .ok a := hx
    exact failsIf_ok e (f a)

end MarkupTree.Outcome
