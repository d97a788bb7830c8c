import QueryComposer.Binding

namespace QueryComposer.Binding

/-!
# What a composition yields

`Yields` is a judgement on compositions: whenever one succeeds, it has appended values to those
bound before, and a property holds of its result and of the values it has appended. There is one
rule for each way in which a composition is put together, so that a property of a whole
statement follows from those of its parts.
-/

variable {α β : Type}

/-- A successful composition only appends values, and the property holds of its result and them. -/
def Yields
    (composition : Binding α)
    (holds : α → List Value → Prop) : Prop :=
  ∀ bound result after,
    composition.outcome bound = (.ok result, after) →
    ∃ values, after = bound ++ values ∧ holds result values

namespace Yields

variable {holds : α → List Value → Prop}

theorem pure
    {result : α}
    (here : holds result []) :
    Yields (Pure.pure result) holds := by
  intro bound _ _ succeeded
  cases succeeded
  exact ⟨[], by simp, here⟩

theorem throw (error : Error) : Yields (MonadExcept.throw error) holds := by
  intro bound _ _ succeeded
  cases succeeded

theorem lift
    {computed : Except Error α}
    (here : ∀ {result}, computed = .ok result → holds result []) :
    Yields (Binding.lift computed) holds := by
  intro bound result after succeeded
  rw [outcome_lift, Prod.mk.injEq] at succeeded
  exact ⟨[], by simp [succeeded.2], here succeeded.1⟩

theorem bindValue (value : Value) :
    Yields (Binding.bindValue value) fun _ values => values = [value] := by
  intro bound _ _ succeeded
  cases succeeded
  exact ⟨[value], rfl, rfl⟩

theorem bindValues (values : List Value) :
    Yields (Binding.bindValues values) fun _ appended => appended = values := by
  intro bound _ _ succeeded
  cases succeeded
  exact ⟨values, rfl, rfl⟩

/-- Two steps append their values one after the other. -/
theorem bind
    {first : Binding α}
    {next : α → Binding β}
    {middle : α → List Value → Prop}
    {holds : β → List Value → Prop}
    (opening : Yields first middle)
    (closing :
      ∀ {result values},
        middle result values →
        Yields (next result) fun last more => holds last (values ++ more)) :
    Yields (first >>= next) holds := by
  intro bound result after succeeded
  rw [outcome_bind] at succeeded
  rcases made : first.outcome bound with ⟨_ | value, between⟩
  · rw [made] at succeeded
    cases succeeded
  · rw [made] at succeeded
    obtain ⟨values, appended, held⟩ := opening _ _ _ made
    obtain ⟨more, appendedMore, holdsAll⟩ := closing held _ _ _ succeeded
    refine ⟨values ++ more, ?_, holdsAll⟩
    rw [appendedMore, appended, List.append_assoc]

/-- A computation without placeholders leaves what follows it as it is. -/
theorem lift_bind
    {computed : Except Error α}
    {next : α → Binding β}
    {holds : β → List Value → Prop}
    (closing : ∀ result, computed = .ok result → Yields (next result) holds) :
    Yields (Binding.lift computed >>= next) holds := by
  have opening :
      Yields (Binding.lift computed) fun result values => computed = .ok result ∧ values = [] :=
    lift fun succeeded => ⟨succeeded, rfl⟩
  apply opening.bind
  rintro result _ ⟨succeeded, rfl⟩
  exact closing result succeeded

/-- A composition that is refused under a condition yields what it does otherwise. -/
theorem guard
    {condition : Prop}
    {_ : Decidable condition}
    {error : Error}
    {next : Unit → Binding α}
    (accepted : ¬ condition → Yields (next ()) holds) :
    Yields (if condition then MonadExcept.throw error >>= next else next ()) holds := by
  by_cases refused : condition
  · rw [if_pos refused]
    intro bound _ _ succeeded
    cases succeeded
  · rw [if_neg refused]
    exact accepted refused

/-- A property that follows holds too. -/
theorem mono
    {composition : Binding α}
    {weaker : α → List Value → Prop}
    (yields : Yields composition holds)
    (follows : ∀ {result values}, holds result values → weaker result values) :
    Yields composition weaker := by
  intro bound result after succeeded
  obtain ⟨values, appended, held⟩ := yields _ _ _ succeeded
  exact ⟨values, appended, follows held⟩

/-- A composition that starts without bound values collects what it yields. -/
theorem of_collect
    {composition : Binding α}
    (yields : Yields composition holds)
    {result : α}
    {values : List Value}
    (collected : composition.collect = .ok (result, values)) :
    holds result values := by
  obtain ⟨appended, same, held⟩ := yields _ _ _ ((collect_eq_ok_iff _ _ _).mp collected)
  rw [List.nil_append] at same
  rwa [same]

end Yields

end QueryComposer.Binding
