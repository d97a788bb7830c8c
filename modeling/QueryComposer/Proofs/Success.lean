import Mathlib.Data.List.Forall2
import QueryComposer.Error.Basic

namespace QueryComposer.Success

/-!
# Computations that succeed

A computation in steps succeeds exactly if each of its steps does. These are the inversions by
which proofs take a successful composition apart.
-/

variable {ε α β : Type}

/-- A computation in two steps succeeds exactly if both steps do. -/
theorem bind_eq_ok_iff
    {first : Except ε α}
    {next : α → Except ε β}
    {result : β} :
    first >>= next = .ok result ↔
      ∃ value, first = .ok value ∧ next value = .ok result := by
  cases first with
  | error error =>
      simp [bind, Except.bind]
  | ok value =>
      simp [bind, Except.bind]

/-- Changing the result of a computation does not change whether it succeeds. -/
theorem map_eq_ok_iff
    {first : Except ε α}
    {change : α → β}
    {result : β} :
    first.map change = .ok result ↔
      ∃ value, first = .ok value ∧ change value = result := by
  cases first with
  | error error =>
      simp [Except.map]
  | ok value =>
      simp [Except.map]

/-- Changing the error of a computation does not change what it comes to if it succeeds. -/
theorem mapError_eq_ok_iff
    {δ : Type}
    {computed : Except ε α}
    {change : ε → δ}
    {result : α} :
    computed.mapError change = .ok result ↔ computed = .ok result := by
  cases computed <;> simp [Except.mapError]

/-- A computation for every member of a list succeeds exactly if each of them does. -/
theorem mapM_eq_ok_iff
    {compute : α → Except ε β}
    {items : List α}
    {results : List β} :
    items.mapM compute = .ok results ↔
      List.Forall₂ (fun item result => compute item = .ok result) items results := by
  induction items generalizing results with
  | nil =>
      simp [pure, Except.pure, eq_comm]
  | cons item rest inductionHypothesis =>
      rw [List.mapM_cons, bind_eq_ok_iff, List.forall₂_cons_left_iff]
      constructor
      · rintro ⟨value, computed, remaining⟩
        obtain ⟨others, computedOthers, shape⟩ := bind_eq_ok_iff.mp remaining
        cases shape
        exact ⟨value, others, computed, inductionHypothesis.mp computedOthers, rfl⟩
      · rintro ⟨value, others, computed, computedOthers, rfl⟩
        refine ⟨value, computed, ?_⟩
        rw [inductionHypothesis.mpr computedOthers]
        rfl

/-- If single computations succeed under a condition, those for a list do so for all members. -/
theorem mapM_eq_ok_iff_forall
    {compute : α → Except ε β}
    {accepted : α → Prop}
    {result : α → β}
    (each : ∀ item value, compute item = .ok value ↔ accepted item ∧ value = result item)
    {items : List α}
    {results : List β} :
    items.mapM compute = .ok results ↔
      (∀ item ∈ items, accepted item) ∧ results = items.map result := by
  induction items generalizing results with
  | nil =>
      simp [pure, Except.pure, eq_comm]
  | cons item rest inductionHypothesis =>
      rw [List.mapM_cons, bind_eq_ok_iff, List.forall_mem_cons, List.map_cons]
      constructor
      · rintro ⟨value, computed, remaining⟩
        obtain ⟨others, computedOthers, shape⟩ := bind_eq_ok_iff.mp remaining
        cases shape
        obtain ⟨acceptedFirst, rfl⟩ := (each item value).mp computed
        obtain ⟨acceptedOthers, rfl⟩ := inductionHypothesis.mp computedOthers
        exact ⟨⟨acceptedFirst, acceptedOthers⟩, rfl⟩
      · rintro ⟨⟨acceptedFirst, acceptedOthers⟩, rfl⟩
        refine ⟨result item, (each item _).mpr ⟨acceptedFirst, rfl⟩, ?_⟩
        rw [inductionHypothesis.mpr ⟨acceptedOthers, rfl⟩]
        rfl

/-- What holds of every result holds of all the results for a list. -/
theorem forall_of_mapM_eq_ok
    {compute : α → Except ε β}
    {holds : β → Prop}
    (each : ∀ item result, compute item = .ok result → holds result)
    {items : List α}
    {results : List β}
    (computed : items.mapM compute = .ok results) :
    ∀ result ∈ results, holds result := by
  induction mapM_eq_ok_iff.mp computed with
  | nil =>
      simp
  | cons computedFirst computedRest inductionHypothesis =>
      intro result member
      rcases List.mem_cons.mp member with isFirst | inRest
      · rw [isFirst]
        exact each _ _ computedFirst
      · exact inductionHypothesis (mapM_eq_ok_iff.mpr computedRest) result inRest

/-- There are results for the members of a list exactly if there is one for each of them. -/
theorem exists_forall₂_iff
    {related : α → β → Prop}
    {items : List α} :
    (∃ results, List.Forall₂ related items results) ↔
      ∀ item ∈ items, ∃ result, related item result := by
  induction items with
  | nil =>
      simp
  | cons item rest inductionHypothesis =>
      rw [List.forall_mem_cons, ← inductionHypothesis]
      constructor
      · rintro ⟨_, _ | ⟨first, others⟩⟩
        exact ⟨⟨_, first⟩, _, others⟩
      · rintro ⟨⟨result, first⟩, results, others⟩
        exact ⟨result :: results, .cons first others⟩

/-- Two lists are related through a third one exactly if their members are, one by one. -/
theorem exists_forall₂_forall₂_iff
    {γ : Type}
    {related : α → β → Prop}
    {relatedNext : β → γ → Prop}
    {items : List α}
    {results : List γ} :
    (∃ between, List.Forall₂ related items between ∧ List.Forall₂ relatedNext between results) ↔
      List.Forall₂ (fun item result => ∃ value, related item value ∧ relatedNext value result)
        items results := by
  constructor
  · rintro ⟨between, opening, closing⟩
    induction opening generalizing results with
    | nil =>
        cases closing
        exact .nil
    | cons first _ inductionHypothesis =>
        obtain ⟨result, others, next, following, rfl⟩ := List.forall₂_cons_left_iff.mp closing
        exact .cons ⟨_, first, next⟩ (inductionHypothesis following)
  · intro through
    induction through with
    | nil =>
        exact ⟨[], .nil, .nil⟩
    | cons first _ inductionHypothesis =>
        obtain ⟨value, opened, closed⟩ := first
        obtain ⟨between, opening, closing⟩ := inductionHypothesis
        exact ⟨value :: between, .cons opened opening, .cons closed closing⟩

/-- A computation that succeeds for a list succeeds for each of its members. -/
theorem exists_of_mem_of_mapM_eq_ok
    {compute : α → Except ε β}
    {items : List α}
    {results : List β}
    (computed : items.mapM compute = .ok results) :
    ∀ item ∈ items, ∃ result, compute item = .ok result :=
  exists_forall₂_iff.mp ⟨results, mapM_eq_ok_iff.mp computed⟩

end QueryComposer.Success
