import QueryComposer.Binding
import QueryComposer.Proofs.Failure

namespace QueryComposer.Binding

/-!
# How compositions are refused

`Refuses` is the judgement on compositions that goes with `FailsWith`: every error with which one
can be refused is allowed, whatever was bound before.
-/

variable {α β : Type}

/-- Every error that the composition can fail with is allowed. -/
def Refuses
    (allowed : Error → Prop)
    (composition : Binding α) : Prop :=
  ∀ bound, FailsWith allowed (composition.outcome bound).1

namespace Refuses

variable {allowed : Error → Prop}

theorem pure (result : α) : Refuses allowed (Pure.pure result) :=
  fun _ => .ok result

theorem throw
    {error : Error}
    (permitted : allowed error) :
    Refuses allowed (MonadExcept.throw error : Binding α) :=
  fun _ => .error permitted

theorem lift
    {computed : Except Error α}
    (fails : FailsWith allowed computed) :
    Refuses allowed (Binding.lift computed) :=
  fun _ => fails

theorem bindValue (value : Value) : Refuses allowed (Binding.bindValue value) :=
  fun _ => .ok ()

theorem bindValues (values : List Value) : Refuses allowed (Binding.bindValues values) :=
  fun _ => .ok ()

theorem bind
    {first : Binding α}
    {next : α → Binding β}
    (opening : Refuses allowed first)
    (closing : ∀ result, Refuses allowed (next result)) :
    Refuses allowed (first >>= next) := by
  intro bound
  have before := opening bound
  rw [outcome_bind]
  rcases made : first.outcome bound with ⟨cause | result, after⟩
  · rw [made] at before
    exact .error (before cause rfl)
  · exact closing result after

/-- What follows a computation without placeholders is refused for what it has computed. -/
theorem lift_bind
    {computed : Except Error α}
    {next : α → Binding β}
    (opening : FailsWith allowed computed)
    (closing : ∀ result, computed = .ok result → Refuses allowed (next result)) :
    Refuses allowed (Binding.lift computed >>= next) := by
  intro bound
  rw [outcome_bind, outcome_lift]
  cases made : computed with
  | error cause =>
      exact .error (opening cause made)
  | ok result =>
      exact closing result made bound

/-- A composition that is refused under a condition. -/
theorem guard
    {condition : Prop}
    {_ : Decidable condition}
    {error : Error}
    {next : Unit → Binding α}
    (permitted : allowed error)
    (accepted : Refuses allowed (next ())) :
    Refuses allowed (if condition then MonadExcept.throw error >>= next else next ()) := by
  by_cases refused : condition
  · rw [if_pos refused]
    exact (throw permitted).bind fun _ => accepted
  · rw [if_neg refused]
    exact accepted

/-- What a composition collects fails as the composition does. -/
theorem collect
    {composition : Binding α}
    (refuses : Refuses allowed composition) :
    FailsWith allowed composition.collect := by
  have fails := refuses []
  unfold Binding.collect
  rcases made : composition.outcome [] with ⟨cause | result, after⟩
  · rw [made] at fails
    exact .error (fails cause rfl)
  · exact .ok _

end Refuses

end QueryComposer.Binding
