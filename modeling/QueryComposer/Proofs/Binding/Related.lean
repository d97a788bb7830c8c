import Mathlib.Data.List.Forall2
import QueryComposer.Binding

namespace QueryComposer

/-!
# Compositions that differ in their values only

Two computations are the `Same` up to a relation between their results if both fail with one error
or both succeed with related results.

`Binding.Related` is that judgement for compositions. Two of them are related if, from bound
values that correspond to each other one by one, they come to the same outcome and the bound
values still correspond. There is one rule for each way in which a composition is put together.
-/

section Same

variable {α β γ δ : Type}

/-- Both computations fail with one error, or both succeed and their results are related. -/
inductive Same (related : α → β → Prop) : Except Error α → Except Error β → Prop where
  | refused
      (error : Error) :
      Same related (.error error) (.error error)
  | accepted
      {result : α}
      {result' : β}
      (results : related result result') :
      Same related (.ok result) (.ok result')

namespace Same

variable {related : α → β → Prop}

theorem refl (computed : Except Error α) : Same Eq computed computed := by
  cases computed with
  | error error =>
      exact .refused error
  | ok result =>
      exact .accepted rfl

/-- Computations stay the same if what follows them is the same for related results. -/
theorem bind
    {first : Except Error α}
    {first' : Except Error β}
    {next : α → Except Error γ}
    {next' : β → Except Error δ}
    {relatedNext : γ → δ → Prop}
    (opening : Same related first first')
    (closing :
      ∀ {result result'},
        related result result' →
        Same relatedNext (next result) (next' result')) :
    Same relatedNext (first >>= next) (first' >>= next') := by
  cases opening with
  | refused error =>
      exact .refused error
  | accepted results =>
      exact closing results

theorem map
    {first : Except Error α}
    {first' : Except Error β}
    {change : α → γ}
    {change' : β → δ}
    {relatedChanged : γ → δ → Prop}
    (same : Same related first first')
    (changed :
      ∀ {result result'},
        related result result' →
        relatedChanged (change result) (change' result')) :
    Same relatedChanged (first.map change) (first'.map change') := by
  cases same with
  | refused error =>
      exact .refused error
  | accepted results =>
      exact .accepted (changed results)

/-- Computations for members that are related one by one stay the same. -/
theorem mapM
    {compute : α → Except Error γ}
    {compute' : β → Except Error δ}
    {relatedComputed : γ → δ → Prop}
    {items : List α}
    {items' : List β}
    (members : List.Forall₂ related items items')
    (each :
      ∀ {item item'},
        related item item' →
        Same relatedComputed (compute item) (compute' item')) :
    Same (List.Forall₂ relatedComputed) (items.mapM compute) (items'.mapM compute') := by
  induction members with
  | nil =>
      exact .accepted .nil
  | cons first _ inductionHypothesis =>
      rw [List.mapM_cons, List.mapM_cons]
      apply (each first).bind
      intro computed computed' results
      apply inductionHypothesis.bind
      intro others others' resultsOthers
      exact .accepted (.cons results resultsOthers)

end Same

end Same

namespace Binding

variable {α β γ δ : Type}

/-- Both compositions come to the same outcome, and what they bind corresponds. -/
def Related
    (replaced : Value → Value → Prop)
    (related : α → β → Prop)
    (first : Binding α)
    (second : Binding β) : Prop :=
  ∀ bound bound',
    List.Forall₂ replaced bound bound' →
    Same related (first.outcome bound).1 (second.outcome bound').1 ∧
      List.Forall₂ replaced (first.outcome bound).2 (second.outcome bound').2

namespace Related

variable {replaced : Value → Value → Prop} {related : α → β → Prop}

theorem pure
    {result : α}
    {result' : β}
    (results : related result result') :
    Related replaced related (Pure.pure result) (Pure.pure result') := by
  intro bound bound' correspond
  exact ⟨.accepted results, correspond⟩

theorem throw (error : Error) :
    Related replaced related (MonadExcept.throw error) (MonadExcept.throw error) := by
  intro bound bound' correspond
  exact ⟨.refused error, correspond⟩

theorem lift
    {computed : Except Error α}
    {computed' : Except Error β}
    (same : Same related computed computed') :
    Related replaced related (Binding.lift computed) (Binding.lift computed') := by
  intro bound bound' correspond
  exact ⟨same, correspond⟩

/-- A computation that is not about the values is the same in both compositions. -/
theorem unchanged (computed : Except Error α) :
    Related replaced Eq (Binding.lift computed) (Binding.lift computed) :=
  lift (.refl computed)

/-- Binding corresponding values keeps the bound values in correspondence. -/
theorem bindValues
    {values values' : List Value}
    (correspond : List.Forall₂ replaced values values') :
    Related replaced Eq (Binding.bindValues values) (Binding.bindValues values') := by
  intro bound bound' correspondBefore
  exact ⟨.accepted rfl, List.rel_append correspondBefore correspond⟩

theorem bindValue
    {value value' : Value}
    (correspond : replaced value value') :
    Related replaced Eq (Binding.bindValue value) (Binding.bindValue value') :=
  bindValues (.cons correspond .nil)

/-- Related compositions can be followed by related ones. -/
theorem bind
    {first : Binding α}
    {first' : Binding β}
    {next : α → Binding γ}
    {next' : β → Binding δ}
    {relatedNext : γ → δ → Prop}
    (opening : Related replaced related first first')
    (closing :
      ∀ {result result'},
        related result result' →
        Related replaced relatedNext (next result) (next' result')) :
    Related replaced relatedNext (first >>= next) (first' >>= next') := by
  intro bound bound' correspond
  obtain ⟨outcome, correspondAfter⟩ := opening bound bound' correspond
  rw [outcome_bind, outcome_bind]
  rcases made : first.outcome bound with ⟨result, after⟩
  rcases made' : first'.outcome bound' with ⟨result', after'⟩
  rw [made, made'] at outcome correspondAfter
  cases outcome with
  | refused error =>
      exact ⟨.refused error, correspondAfter⟩
  | accepted results =>
      exact closing results after after' correspondAfter

/-- A refusal is the same if its condition is. -/
theorem guard
    {condition condition' : Prop}
    {_ : Decidable condition}
    {_ : Decidable condition'}
    {error : Error}
    {next : Unit → Binding α}
    {next' : Unit → Binding β}
    (same : condition ↔ condition')
    (accepted : ¬ condition → Related replaced related (next ()) (next' ())) :
    Related replaced related
      (if condition then MonadExcept.throw error >>= next else next ())
      (if condition' then MonadExcept.throw error >>= next' else next' ()) := by
  by_cases refused : condition
  · rw [if_pos refused, if_pos (same.mp refused)]
    intro bound bound' correspond
    exact ⟨.refused error, correspond⟩
  · rw [if_neg refused, if_neg (refused ∘ same.mpr)]
    exact accepted refused

/-- Collecting from related compositions gives the same error, or results and values in relation. -/
theorem collect
    {first : Binding α}
    {second : Binding β}
    (relate : Related replaced related first second) :
    Same
      (fun collected collected' =>
        related collected.1 collected'.1 ∧ List.Forall₂ replaced collected.2 collected'.2)
      first.collect
      second.collect := by
  obtain ⟨outcome, correspond⟩ := relate [] [] .nil
  unfold Binding.collect
  rcases made : first.outcome [] with ⟨result, after⟩
  rcases made' : second.outcome [] with ⟨result', after'⟩
  rw [made, made'] at outcome correspond
  cases outcome with
  | refused error =>
      exact .refused error
  | accepted results =>
      exact .accepted ⟨results, correspond⟩

end Related

end Binding

end QueryComposer
