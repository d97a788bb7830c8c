import QueryComposer.Filter.Condition

namespace QueryComposer.Filter

/-!
# Induction over compiled filters

A filter is compiled by a few ways of putting compositions together. A property that holds of
every compiled condition and that each of these ways keeps holds of every compiled filter:
`Compositional` lists the ways, and the induction over entries is done here once.
-/

/-- A scalar operand has a placeholder of its own. -/
theorem compilePredicate_scalar
    (delimiter : String)
    (column operator : Value)
    {operand : Value}
    (isScalar : operand.isScalar = true) :
    compilePredicate delimiter ⟨column, operator, operand⟩ = do
      let name ← Binding.lift (checkOperator ⟨column, operator, operand⟩)
      let quoted ← Binding.lift (Identifier.quote delimiter column)
      Binding.bindValue operand
      return quoted ++ " " ++ name ++ " " ++ placeholder := by
  cases operand <;> first | rfl | cases isScalar

/-- An operator that is checked is one of the known ones, given as a text. -/
theorem known_of_checkOperator
    {p : Predicate}
    {operator : String}
    (accepted : checkOperator p = .ok operator) :
    p.operator = .text operator ∧ operator ∈ operators := by
  unfold checkOperator at accepted
  split at accepted
  · next name given =>
      split at accepted
      · next known =>
          cases accepted
          exact ⟨given, List.contains_iff_mem.mp known⟩
      · cases accepted
  · cases accepted
  · split at accepted <;> cases accepted

/-- An entry is compiled before the others, unless it is a connective that holds for them. -/
theorem compileEntries_cons
    (delimiter : String)
    {lead : Option Connective}
    {entry : Entry}
    (compiled : lead = none ∨ ∀ c, entry ≠ .connective c)
    (rest : List Entry) :
    compileEntries delimiter lead (entry :: rest) = do
      let first ← compileEntry delimiter entry
      let others ← compileEntries delimiter (some .and) rest
      return joint lead ++ first ++ others := by
  rw [compileEntries]
  intro before c sameLead sameEntry
  rcases compiled with isFirst | noConnective
  · rw [isFirst] at sameLead
    cases sameLead
  · exact noConnective c sameEntry

/-- The property holds of conditions and is kept by what is put together from them. -/
structure Compositional
    (delimiter : String)
    (holds : Binding String → Prop) : Prop where
  predicate :
    ∀ p, holds (compilePredicate delimiter p)
  refusal :
    ∀ cause, holds (throw (.filter cause))
  nothing :
    holds (pure "")
  nested :
    ∀ inner,
      holds inner →
      holds (inner >>= fun text => pure ("(" ++ text ++ ")"))
  joined :
    ∀ lead first others,
      holds first →
      holds others →
      holds (first >>= fun text => others >>= fun texts => pure (joint lead ++ text ++ texts))

namespace Compositional

variable {delimiter : String} {holds : Binding String → Prop}

mutual

/-- The property holds of every compiled entry. -/
theorem compileEntry
    (compositional : Compositional delimiter holds) :
    ∀ entry : Entry, holds (Filter.compileEntry delimiter entry)
  | .predicate p => by
      rw [Filter.compileEntry]
      exact compositional.predicate p
  | .connective _ => by
      rw [Filter.compileEntry]
      exact compositional.refusal _
  | .group [] => by
      rw [Filter.compileEntry]
      exact compositional.refusal _
  | .group (first :: rest) => by
      rw [Filter.compileEntry]
      · exact compositional.nested _ (compositional.compileEntries none (first :: rest))
      · simp
  | .stray _ => by
      rw [Filter.compileEntry]
      exact compositional.refusal _

/-- The property holds of all entries that are compiled one after the other. -/
theorem compileEntries
    (compositional : Compositional delimiter holds)
    (lead : Option Connective) :
    ∀ entries : List Entry, holds (Filter.compileEntries delimiter lead entries)
  | [] => by
      rw [Filter.compileEntries]
      exact compositional.nothing
  | entry :: rest => by
      have joins :
          lead = none ∨ (∀ c, entry ≠ .connective c) →
          holds (Filter.compileEntries delimiter lead (entry :: rest)) := by
        intro compiled
        rw [compileEntries_cons delimiter compiled]
        exact compositional.joined lead _ _
          (compositional.compileEntry entry)
          (compositional.compileEntries (some .and) rest)
      cases lead with
      | none =>
          exact joins (.inl rfl)
      | some before =>
          by_cases isConnective : ∃ c, entry = .connective c
          · obtain ⟨c, rfl⟩ := isConnective
            rw [Filter.compileEntries]
            exact compositional.compileEntries (some c) rest
          · exact joins (.inr (not_exists.mp isConnective))

end

/-- The property holds of the condition of entries. -/
theorem compileGroup
    (compositional : Compositional delimiter holds)
    (entries : List Entry) :
    holds (Filter.compileGroup delimiter entries) := by
  cases entries with
  | nil =>
      exact compositional.refusal _
  | cons entry rest =>
      exact compositional.nested _ (compositional.compileEntries none (entry :: rest))

end Compositional

end QueryComposer.Filter
