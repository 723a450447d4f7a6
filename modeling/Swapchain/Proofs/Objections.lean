import Swapchain.Pool.Error

/-!
# The first objection

An operation passes stages, and each of them may object. The first objection is the answer, and if
there is none the operation succeeds. What a stage looks at is told without the program, so a later
stage may object as well; it is not asked.

* `FirstObjection`, `FirstObjection.eq`: the answer to an operation that some stage objects to;
* `DecidedBy`: an answer by this rule, with `DecidedBy.error_iff` and `DecidedBy.ok_iff` for what it
  says of either outcome.
-/

namespace Swapchain

variable {α : Type} {objects : Nat → PoolError → Prop} {e e' : PoolError}

/-- The objection of the first stage that has one. -/
def FirstObjection (objects : Nat → PoolError → Prop) (e : PoolError) : Prop :=
  ∃ k, objects k e ∧ ∀ k' e', objects k' e' → k ≤ k'

/-- The answer is the first objection, or a success if there is none. -/
def DecidedBy (objects : Nat → PoolError → Prop) : Except PoolError α → Prop
  | .error e => FirstObjection objects e
  | .ok _ => ∀ k e, ¬ objects k e

variable (hu : ∀ k e e', objects k e → objects k e' → e = e')
include hu

theorem FirstObjection.eq (hf : FirstObjection objects e) (hf' : FirstObjection objects e') :
    e = e' := by
  obtain ⟨k, ho, hle⟩ := hf
  obtain ⟨k', ho', hle'⟩ := hf'
  obtain rfl : k = k' := Nat.le_antisymm (hle _ _ ho') (hle' _ _ ho)
  exact hu k e e' ho ho'

theorem DecidedBy.error_iff {r : Except PoolError α} (hd : DecidedBy objects r) :
    r = .error e ↔ FirstObjection objects e := by
  constructor
  · rintro rfl
    exact hd
  · intro hf
    cases r with
    | error e' => rw [FirstObjection.eq hu hd hf]
    | ok a =>
      obtain ⟨k, ho, -⟩ := hf
      exact absurd ho (hd k e)

omit hu in
theorem DecidedBy.ok_iff {r : Except PoolError α} (hd : DecidedBy objects r) :
    (∃ a, r = .ok a) ↔ ∀ k e, ¬ objects k e := by
  constructor
  · rintro ⟨a, rfl⟩
    exact hd
  · intro hnone
    cases r with
    | error e =>
      obtain ⟨k, ho, -⟩ := (hd : FirstObjection objects e)
      exact absurd ho (hnone k e)
    | ok a => exact ⟨a, rfl⟩

end Swapchain
