import QueryComposer.Proofs.Binding.Appends
import QueryComposer.Proofs.Filter.Compilation

namespace QueryComposer.Filter

/-!
# Written conditions

`Predicate.Written` says how a condition is written and which values it has: a comparison with one
value, a comparison with another column, or a membership in a list of values, of which there is at
least one. This is said of conditions alone, without regard to how they are compiled. What a
condition is compiled to is what it is written as, and a condition that can be written is compiled.
-/

namespace Predicate

/-- How a condition is written, with one placeholder for each of its values. -/
inductive Written (delimiter : String) : Predicate → String → List Value → Prop where
  | value
      {column operand : Value}
      {operator quoted : String}
      (known : operator ∈ operators)
      (written : Identifier.quote delimiter column = .ok quoted)
      (isScalar : operand.isScalar = true) :
      Written delimiter
        ⟨column, .text operator, operand⟩
        (quoted ++ " " ++ operator ++ " " ++ placeholder)
        [operand]
  | column
      {column other : Value}
      {operator quoted quotedOther : String}
      (known : operator ∈ operators)
      (written : Identifier.quote delimiter column = .ok quoted)
      (writtenOther : Identifier.quote delimiter other = .ok quotedOther) :
      Written delimiter
        ⟨column, .text operator, .column other⟩
        (quoted ++ " " ++ operator ++ " " ++ quotedOther)
        []
  | members
      {column operand : Value}
      {quoted : String}
      {members : List Value}
      (written : Identifier.quote delimiter column = .ok quoted)
      (listed : operand = .list members ∨ operand = .tuple members)
      (nonempty : members ≠ [])
      (areScalars : ∀ member ∈ members, member.isScalar = true) :
      Written delimiter
        ⟨column, .text defaultOperator, operand⟩
        (quoted ++ " IN (" ++ placeholders members.length ++ ")")
        members

end Predicate

/-- A condition only appends to what is bound before it. -/
theorem compilePredicate_appends
    (delimiter : String)
    (p : Predicate) :
    (compilePredicate delimiter p).Appends := by
  have listed :
      ∀ column operator members, (compileMembers p column operator members).Appends := by
    intro column operator members
    unfold compileMembers
    apply Binding.Appends.guard
    apply Binding.Appends.guard
    apply Binding.Appends.guard
    apply (Binding.Appends.bindValues members).bind
    intro _
    exact .pure _
  unfold compilePredicate
  apply (Binding.Appends.lift _).bind
  intro operator
  apply (Binding.Appends.lift _).bind
  intro column
  split
  · apply (Binding.Appends.lift _).bind
    intro other
    exact .pure _
  · exact listed column operator _
  · exact listed column operator _
  · split
    · apply (Binding.Appends.bindValue p.operand).bind
      intro _
      exact .pure _
    · exact .throw _

section Compiled

variable (delimiter : String)

/-- A list of values is compiled as it is written. -/
theorem compileMembers_written
    {column operand : Value}
    {operator quoted : String}
    {members : List Value}
    (written : Identifier.quote delimiter column = .ok quoted)
    (listed : operand = .list members ∨ operand = .tuple members) :
    (compileMembers ⟨column, .text operator, operand⟩ quoted operator members).Yields
      (Predicate.Written delimiter ⟨column, .text operator, operand⟩) := by
  unfold compileMembers
  apply Binding.Yields.guard
  intro isDefault
  apply Binding.Yields.guard
  intro isNonempty
  apply Binding.Yields.guard
  intro areScalars
  apply (Binding.Yields.bindValues members).bind
  rintro _ _ rfl
  have same : operator = defaultOperator := by
    simpa using isDefault
  rw [same]
  apply Binding.Yields.pure
  rw [List.append_nil]
  exact .members written listed (by simpa using isNonempty) (by simpa using areScalars)

/-- A condition that is compiled is written in one of the three ways. -/
theorem compilePredicate_written (p : Predicate) :
    (compilePredicate delimiter p).Yields (p.Written delimiter) := by
  rcases p with ⟨column, comparison, operand⟩
  unfold compilePredicate
  apply Binding.Yields.lift_bind
  intro operator accepted
  apply Binding.Yields.lift_bind
  intro quoted written
  obtain ⟨operated, known⟩ := known_of_checkOperator accepted
  dsimp only at operated
  subst operated
  dsimp only
  split
  · apply Binding.Yields.lift_bind
    intro quotedOther writtenOther
    exact .pure (.column known written writtenOther)
  · exact compileMembers_written delimiter written (.inl rfl)
  · exact compileMembers_written delimiter written (.inr rfl)
  · split
    · next isScalar =>
        apply (Binding.Yields.bindValue operand).bind
        rintro _ _ rfl
        exact .pure (.value known written isScalar)
    · exact .throw _

end Compiled

theorem checkOperator_of_known
    {p : Predicate}
    {operator : String}
    (known : operator ∈ operators)
    (given : p.operator = .text operator) :
    checkOperator p = .ok operator := by
  unfold checkOperator
  rw [given]
  exact if_pos (List.contains_iff_mem.mpr known)

/-- What can be written is compiled so. -/
theorem compilePredicate_of_written
    {delimiter : String}
    {p : Predicate}
    {text : String}
    {values : List Value}
    (isWritten : p.Written delimiter text values)
    (bound : List Value) :
    (compilePredicate delimiter p).outcome bound = (.ok text, bound ++ values) := by
  cases isWritten with
  | value known written isScalar =>
      rw [compilePredicate_scalar delimiter _ _ isScalar, checkOperator_of_known known rfl, written]
      rfl
  | column known written writtenOther =>
      rw [compilePredicate, checkOperator_of_known known rfl, written]
      dsimp only
      rw [writtenOther, List.append_nil]
      rfl
  | @members column operand quoted _ written listed nonempty areScalars =>
      have checked : checkOperator ⟨column, .text defaultOperator, operand⟩ = .ok defaultOperator :=
        checkOperator_of_known (by decide) rfl
      have noOther : values.any (!·.isScalar) = false := by
        simpa using areScalars
      have compiled :
          (compileMembers ⟨column, .text defaultOperator, operand⟩ quoted defaultOperator
            values).outcome bound =
              (.ok (quoted ++ " IN (" ++ placeholders values.length ++ ")"), bound ++ values) := by
        unfold compileMembers
        rw [if_neg (by simp), if_neg (by simpa using nonempty), if_neg (by simp [noOther])]
        rfl
      rw [compilePredicate, checked, written]
      rcases listed with rfl | rfl
      · simpa [Binding.outcome_bind] using compiled
      · simpa [Binding.outcome_bind] using compiled

end QueryComposer.Filter
