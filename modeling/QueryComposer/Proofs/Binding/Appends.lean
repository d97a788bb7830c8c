import QueryComposer.Proofs.Binding.Yields

namespace QueryComposer.Binding

/-!
# Compositions that only append

A composition does not look at the values that are bound before it: it comes to the same outcome
whatever they are, and appends the same values to them, also if it fails. So what a composition
yields inside a longer one is what it collects on its own.
-/

variable {α β : Type}

/-- The outcome does not depend on what is bound before, which stays in front. -/
def Appends (composition : Binding α) : Prop :=
  ∀ bound,
    composition.outcome bound =
      ((composition.outcome []).1, bound ++ (composition.outcome []).2)

namespace Appends

theorem pure (result : α) : Appends (Pure.pure result) := by
  intro bound
  simp

theorem throw (error : Error) : Appends (MonadExcept.throw error : Binding α) := by
  intro bound
  simp

theorem lift (computed : Except Error α) : Appends (Binding.lift computed) := by
  intro bound
  simp

theorem bindValue (value : Value) : Appends (Binding.bindValue value) := by
  intro bound
  simp

theorem bindValues (values : List Value) : Appends (Binding.bindValues values) := by
  intro bound
  simp

/-- What follows a composition appends to what that has appended. -/
theorem bind
    {first : Binding α}
    {next : α → Binding β}
    (opening : Appends first)
    (closing : ∀ result, Appends (next result)) :
    Appends (first >>= next) := by
  intro bound
  rw [outcome_bind, outcome_bind, opening bound]
  rcases first.outcome [] with ⟨error | result, after⟩
  · rfl
  · dsimp only
    rw [closing result (bound ++ after), closing result after, List.append_assoc]

/-- A refusal appends nothing. -/
theorem guard
    {condition : Prop}
    {_ : Decidable condition}
    {error : Error}
    {next : Unit → Binding α}
    (accepted : Appends (next ())) :
    Appends (if condition then MonadExcept.throw error >>= next else next ()) := by
  by_cases refused : condition
  · rw [if_pos refused]
    exact (throw error).bind fun _ => accepted
  · rw [if_neg refused]
    exact accepted

/-- A composition yields what it collects on its own. -/
theorem yields_collected
    {composition : Binding α}
    (appends : Appends composition) :
    composition.Yields fun result values => composition.collect = .ok (result, values) := by
  intro bound result after succeeded
  rw [appends bound, Prod.mk.injEq] at succeeded
  refine ⟨(composition.outcome []).2, succeeded.2.symm, (collect_eq_ok_iff _ _ _).mpr ?_⟩
  rw [← succeeded.1]

end Appends

end QueryComposer.Binding
