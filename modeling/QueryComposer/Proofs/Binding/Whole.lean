import QueryComposer.Proofs.Binding.Appends

namespace QueryComposer.Binding

/-!
# Compositions that bind nothing when they are refused

A composition is `Whole` if it leaves the bound values as they were whenever it fails. That is so
as long as nothing is refused after something has been bound.
-/

variable {α β : Type}

/-- A failure leaves what was bound before as it is. -/
def Whole (composition : Binding α) : Prop :=
  ∀ bound error after,
    composition.outcome bound = (.error error, after) →
    after = bound

namespace Whole

theorem throw (error : Error) : Whole (MonadExcept.throw error : Binding α) := by
  intro bound _ _ failed
  cases failed
  rfl

/-- A computation without placeholders may be followed by a composition that binds all at once. -/
theorem lift_bind
    {computed : Except Error α}
    {next : α → Binding β}
    (closing : ∀ result, Whole (next result)) :
    Whole (Binding.lift computed >>= next) := by
  intro bound error after failed
  rw [outcome_bind, outcome_lift] at failed
  cases computed with
  | error cause =>
      cases failed
      rfl
  | ok result =>
      exact closing result bound error after failed

/-- Nothing is refused once the values are bound. -/
theorem bindValues_pure
    (values : List Value)
    (result : α) :
    Whole (Binding.bindValues values >>= fun _ => Pure.pure result) := by
  intro bound _ _ failed
  cases failed

/-- A refusal comes before anything is bound. -/
theorem guard
    {condition : Prop}
    {_ : Decidable condition}
    {error : Error}
    {next : Unit → Binding α}
    (accepted : Whole (next ())) :
    Whole (if condition then MonadExcept.throw error >>= next else next ()) := by
  by_cases refused : condition
  · rw [if_pos refused]
    intro bound _ _ failed
    cases failed
    rfl
  · rw [if_neg refused]
    exact accepted

/-- A composition that appends and that is refused as a whole binds nothing with its error. -/
theorem outcome_of_error
    {composition : Binding α}
    (whole : Whole composition)
    (appends : Appends composition)
    {error : Error}
    (failed : (composition.outcome []).1 = .error error)
    (bound : List Value) :
    composition.outcome bound = (.error error, bound) := by
  have nothing : (composition.outcome []).2 = [] :=
    whole [] error _ (by rw [← failed])
  rw [appends bound, failed, nothing, List.append_nil]

end Whole

end QueryComposer.Binding
