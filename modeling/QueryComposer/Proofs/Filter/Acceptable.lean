import QueryComposer.Proofs.Binding.Refuses
import QueryComposer.Proofs.Binding.Whole
import QueryComposer.Proofs.Filter.Written
import QueryComposer.Proofs.Identifier.Grammar

namespace QueryComposer.Filter

/-!
# Acceptable conditions

A condition is `Acceptable` if its operator is known, its column can be quoted and its operand can
be compared with under the operator. An acceptable condition is compiled for every delimiter: it is
`Written` in one of three ways and binds its `boundValues`. Every other condition is refused and
binds nothing.
-/

namespace Predicate

/-- A value that a column can be compared with under an operator. -/
inductive Comparable (operator : Value) : Value → Prop where
  | scalar
      {operand : Value}
      (isScalar : operand.isScalar = true) :
      Comparable operator operand
  | column
      {name : Value}
      (quotable : Identifier.Quotable name) :
      Comparable operator (.column name)
  | members
      {operand : Value}
      {members : List Value}
      (listed : operand = .list members ∨ operand = .tuple members)
      (isDefault : operator = .text defaultOperator)
      (nonempty : members ≠ [])
      (areScalars : ∀ member ∈ members, member.isScalar = true) :
      Comparable operator operand

/-- A condition that can be compiled. -/
structure Acceptable (p : Predicate) : Prop where
  known : ∃ operator ∈ operators, p.operator = .text operator
  quotable : Identifier.Quotable p.column
  comparable : Comparable p.operator p.operand

/-- The values that a condition binds. -/
def boundValues (p : Predicate) : List Value :=
  match p.operand with
  | .column _ => []
  | .list members
  | .tuple members => members
  | operand => [operand]

/-- A scalar operand is the value that its condition binds. -/
theorem boundValues_of_isScalar
    {p : Predicate}
    (isScalar : p.operand.isScalar = true) :
    p.boundValues = [p.operand] := by
  unfold boundValues
  split
  · next same => rw [same] at isScalar; cases isScalar
  · next same => rw [same] at isScalar; cases isScalar
  · next same => rw [same] at isScalar; cases isScalar
  · rfl

theorem boundValues_of_listed
    {p : Predicate}
    {members : List Value}
    (listed : p.operand = .list members ∨ p.operand = .tuple members) :
    p.boundValues = members := by
  unfold boundValues
  rcases listed with same | same <;> rw [same]

namespace Written

variable {delimiter : String} {p : Predicate} {text : String} {values : List Value}

/-- Only acceptable conditions are written. -/
theorem acceptable (isWritten : p.Written delimiter text values) : p.Acceptable := by
  have quotable : ∀ {reference quoted}, Identifier.quote delimiter reference = .ok quoted →
      Identifier.Quotable reference :=
    fun accepted => (Identifier.exists_quote_iff delimiter _).mp ⟨_, accepted⟩
  cases isWritten with
  | value known written isScalar =>
      exact ⟨⟨_, known, rfl⟩, quotable written, .scalar isScalar⟩
  | column known written writtenOther =>
      exact ⟨⟨_, known, rfl⟩, quotable written, .column (quotable writtenOther)⟩
  | members written listed nonempty areScalars =>
      exact ⟨⟨_, by decide, rfl⟩, quotable written, .members listed rfl nonempty areScalars⟩

end Written

/-- An acceptable condition can be written for every delimiter. -/
theorem Acceptable.exists_written
    {p : Predicate}
    (acceptable : p.Acceptable)
    (delimiter : String) :
    ∃ text, p.Written delimiter text p.boundValues := by
  rcases p with ⟨column, operator, operand⟩
  obtain ⟨⟨name, known, isName⟩, quotable, comparable⟩ := acceptable
  dsimp only at isName quotable comparable
  subst isName
  obtain ⟨quoted, written⟩ := (Identifier.exists_quote_iff delimiter column).mpr quotable
  cases comparable with
  | scalar isScalar =>
      refine ⟨quoted ++ " " ++ name ++ " " ++ placeholder, ?_⟩
      rw [boundValues_of_isScalar isScalar]
      exact .value known written isScalar
  | column quotableOther =>
      obtain ⟨quotedOther, writtenOther⟩ :=
        (Identifier.exists_quote_iff delimiter _).mpr quotableOther
      exact ⟨_, .column known written writtenOther⟩
  | @members _ members listed isDefault nonempty areScalars =>
      cases isDefault
      refine ⟨quoted ++ " IN (" ++ placeholders members.length ++ ")", ?_⟩
      rw [boundValues_of_listed listed]
      exact .members written listed nonempty areScalars

end Predicate

section Compiled

variable (delimiter : String)

/-- A condition that is refused binds nothing: its values are bound after all checks. -/
theorem compilePredicate_whole (p : Predicate) : (compilePredicate delimiter p).Whole := by
  have listed :
      ∀ column operator members, (compileMembers p column operator members).Whole := by
    intro column operator members
    unfold compileMembers
    apply Binding.Whole.guard
    apply Binding.Whole.guard
    apply Binding.Whole.guard
    exact .bindValues_pure _ _
  unfold compilePredicate
  apply Binding.Whole.lift_bind
  intro operator
  apply Binding.Whole.lift_bind
  intro column
  split
  · apply Binding.Whole.lift_bind
    intro other bound _ _ failed
    cases failed
  · exact listed column operator _
  · exact listed column operator _
  · split
    · exact .bindValues_pure [p.operand] _
    · exact .throw _

/-- An acceptable condition is compiled and binds its values; any other one binds nothing. -/
theorem compilePredicate_cases (p : Predicate) :
    (p.Acceptable ∧
        ∃ text,
          p.Written delimiter text p.boundValues ∧
            ∀ bound,
              (compilePredicate delimiter p).outcome bound =
                (.ok text, bound ++ p.boundValues)) ∨
      (¬ p.Acceptable ∧
        ∃ error,
          ∀ bound, (compilePredicate delimiter p).outcome bound = (.error error, bound)) := by
  by_cases acceptable : p.Acceptable
  · left
    obtain ⟨text, written⟩ := acceptable.exists_written delimiter
    exact ⟨acceptable, text, written, compilePredicate_of_written written⟩
  · right
    refine ⟨acceptable, ?_⟩
    rcases result : (compilePredicate delimiter p).outcome [] with ⟨error | text, after⟩
    · refine ⟨error, ?_⟩
      have failed : ((compilePredicate delimiter p).outcome []).1 = .error error := by
        rw [result]
      exact (compilePredicate_whole delimiter p).outcome_of_error
        (compilePredicate_appends delimiter p) failed
    · obtain ⟨_, _, written⟩ := compilePredicate_written delimiter p _ _ _ result
      exact absurd written.acceptable acceptable

end Compiled

section Refusals

variable
  {allowed : Error → Prop}
  (filters : ∀ cause, allowed (.filter cause))
  (identifiers : ∀ cause, allowed (.identifier cause))

include filters

theorem compileMembers_refuses
    (p : Predicate)
    (column operator : String)
    (members : List Value) :
    Binding.Refuses allowed (compileMembers p column operator members) := by
  unfold compileMembers
  refine .guard (filters _) ?_
  refine .guard (filters _) ?_
  refine .guard (filters _) ?_
  exact (Binding.Refuses.bindValues members).bind fun _ => .pure _

/-- Only an operator that is no text can be refused as something else than a filter. -/
theorem checkOperator_failsWith
    {p : Predicate}
    (operated : (∃ operator, p.operator = .text operator) ∨ ∀ cause, allowed (.misuse cause)) :
    FailsWith allowed (checkOperator p) := by
  unfold checkOperator
  split
  · split
    · exact .ok _
    · exact .error (filters _)
  · exact .error (filters _)
  · next noText _ =>
      split
      · exact .error (filters _)
      · rcases operated with ⟨operator, isText⟩ | misuses
        · exact absurd isText (noText operator)
        · exact .error (misuses _)

include identifiers

/-- A condition is refused as a filter or as a reference, if its operator is a text. -/
theorem compilePredicate_refuses
    (delimiter : String)
    {p : Predicate}
    (operated : (∃ operator, p.operator = .text operator) ∨ ∀ cause, allowed (.misuse cause)) :
    Binding.Refuses allowed (compilePredicate delimiter p) := by
  have quotes : ∀ reference, FailsWith allowed (Identifier.quote delimiter reference) :=
    Identifier.quote_failsWith identifiers delimiter
  refine (Binding.Refuses.lift (checkOperator_failsWith filters operated)).bind fun operator => ?_
  refine (Binding.Refuses.lift (quotes p.column)).bind fun column => ?_
  split
  · next name _ =>
      exact (Binding.Refuses.lift (quotes name)).bind fun _ => .pure _
  · exact compileMembers_refuses filters p column operator _
  · exact compileMembers_refuses filters p column operator _
  · split
    · exact (Binding.Refuses.bindValue _).bind fun _ => .pure _
    · exact .throw (filters _)

end Refusals

end QueryComposer.Filter
