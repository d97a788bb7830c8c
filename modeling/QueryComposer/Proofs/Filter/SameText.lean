import QueryComposer.Proofs.Filter.Compilation
import QueryComposer.Proofs.Filter.SameShape

namespace QueryComposer.Filter

/-!
# Filters of one shape have one text

Filters that differ in their values only are compiled into the same text, or refused for the same
reason, and the values that are bound correspond to each other one by one.
-/

open Binding (Related)

variable {replaced : Value → Value → Prop}

/-- The members of lists of one shape are scalars in the same places. -/
theorem any_not_isScalar_iff
    {members members' : List Value}
    (same : List.Forall₂ (SameMember replaced) members members') :
    (members.any (!·.isScalar) = true) ↔ (members'.any (!·.isScalar) = true) := by
  induction same with
  | nil =>
      rfl
  | cons first _ inductionHypothesis =>
      rw [List.any_cons, List.any_cons, Bool.or_eq_true, Bool.or_eq_true, inductionHypothesis]
      cases first with
      | scalar isScalar isScalar' _ =>
          rw [isScalar, isScalar']
      | compound notScalar notScalar' =>
          rw [notScalar, notScalar']

/-- If the members are scalars, then they are replaced one by one. -/
theorem replaced_of_scalars
    {members members' : List Value}
    (same : List.Forall₂ (SameMember replaced) members members')
    (scalars : ¬ members.any (!·.isScalar) = true) :
    List.Forall₂ replaced members members' := by
  induction same with
  | nil =>
      exact .nil
  | cons first _ inductionHypothesis =>
      rw [List.any_cons, Bool.or_eq_true, not_or] at scalars
      cases first with
      | scalar _ _ replacement =>
          exact .cons replacement (inductionHypothesis scalars.2)
      | compound notScalar _ =>
          rw [notScalar] at scalars
          exact absurd rfl scalars.1

/-- Lists of one shape are compiled alike; they are replaced member by member. -/
theorem compileMembers_same
    (column operator operand operand' : Value)
    (quoted name : String)
    {members members' : List Value}
    (same : List.Forall₂ (SameMember replaced) members members') :
    Related replaced Eq
      (compileMembers ⟨column, operator, operand⟩ quoted name members)
      (compileMembers ⟨column, operator, operand'⟩ quoted name members') := by
  have sameLength := same.length_eq
  unfold compileMembers
  apply Related.guard Iff.rfl
  intro _
  apply Related.guard
  · rw [List.isEmpty_iff_length_eq_zero, List.isEmpty_iff_length_eq_zero, sameLength]
  intro _
  apply Related.guard (any_not_isScalar_iff same)
  intro scalars
  apply (Related.bindValues (replaced_of_scalars same scalars)).bind
  intro _ _ _
  rw [sameLength]
  exact .pure rfl

theorem compilePredicate_foreign
    (delimiter : String)
    (column operator : Value)
    {operand : Value}
    (foreign : isForeignOperand operand = true) :
    compilePredicate delimiter ⟨column, operator, operand⟩ =
      (Binding.lift (checkOperator ⟨column, operator, operand⟩) >>= fun _ =>
        Binding.lift (Identifier.quote delimiter column) >>= fun _ =>
          throw (.filter (.operand column operand.typeName))) := by
  cases operand <;> first | rfl | cases foreign

/-- Conditions of one shape are compiled alike. -/
theorem compilePredicate_same
    (delimiter : String)
    (column operator : Value)
    {operand operand' : Value}
    (same : SameOperand replaced operand operand') :
    Related replaced Eq
      (compilePredicate delimiter ⟨column, operator, operand⟩)
      (compilePredicate delimiter ⟨column, operator, operand'⟩) := by
  have checked :
      checkOperator ⟨column, operator, operand⟩ = checkOperator ⟨column, operator, operand'⟩ :=
    rfl
  cases same with
  | scalar isScalar isScalar' replacement =>
      rw [compilePredicate_scalar _ _ _ isScalar, compilePredicate_scalar _ _ _ isScalar', checked]
      apply (Related.unchanged _).bind
      rintro name _ rfl
      apply (Related.unchanged _).bind
      rintro quoted _ rfl
      apply (Related.bindValue replacement).bind
      intro _ _ _
      exact .pure rfl
  | list same =>
      apply (Related.unchanged _).bind
      rintro name _ rfl
      apply (Related.unchanged _).bind
      rintro quoted _ rfl
      exact compileMembers_same column operator _ _ quoted name same
  | tuple same =>
      apply (Related.unchanged _).bind
      rintro name _ rfl
      apply (Related.unchanged _).bind
      rintro quoted _ rfl
      exact compileMembers_same column operator _ _ quoted name same
  | column other =>
      apply (Related.unchanged _).bind
      rintro name _ rfl
      apply (Related.unchanged _).bind
      rintro quoted _ rfl
      apply (Related.unchanged _).bind
      rintro quotedOther _ rfl
      exact .pure rfl
  | refused foreign foreign' sameType =>
      rw [compilePredicate_foreign _ _ _ foreign, compilePredicate_foreign _ _ _ foreign', checked,
        sameType]
      apply (Related.unchanged _).bind
      rintro name _ rfl
      apply (Related.unchanged _).bind
      rintro quoted _ rfl
      exact .throw _

mutual

/-- Entries of one shape are compiled alike. -/
theorem compileEntry_same
    (delimiter : String)
    {entry entry' : Entry} :
    SameEntry replaced entry entry' →
    Related replaced Eq (compileEntry delimiter entry) (compileEntry delimiter entry')
  | .predicate column operator same => by
      rw [compileEntry, compileEntry]
      exact compilePredicate_same delimiter column operator same
  | .connective c => by
      rw [compileEntry]
      exact .throw _
  | .group .nil => by
      rw [compileEntry]
      exact .throw _
  | .group (.cons first others) => by
      rw [compileEntry, compileEntry]
      · apply (compileEntries_same delimiter none (.cons first others)).bind
        rintro inner _ rfl
        exact .pure rfl
      · simp
      · simp
  | .stray sameType => by
      rw [compileEntry, compileEntry, sameType]
      exact .throw _

/-- Lists of entries of one shape are compiled alike. -/
theorem compileEntries_same
    (delimiter : String)
    (lead : Option Connective)
    {entries entries' : List Entry} :
    SameEntries replaced entries entries' →
    Related replaced Eq
      (compileEntries delimiter lead entries)
      (compileEntries delimiter lead entries')
  | .nil => by
      rw [compileEntries]
      exact .pure rfl
  | @SameEntries.cons _ entry entry' rest rest' first others => by
      have joined :
          Related replaced Eq
            (do
              let text ← compileEntry delimiter entry
              let texts ← compileEntries delimiter (some .and) rest
              return joint lead ++ text ++ texts)
            (do
              let text ← compileEntry delimiter entry'
              let texts ← compileEntries delimiter (some .and) rest'
              return joint lead ++ text ++ texts) := by
        apply (compileEntry_same delimiter first).bind
        rintro text _ rfl
        apply (compileEntries_same delimiter (some .and) others).bind
        rintro texts _ rfl
        exact .pure rfl
      have skipped := fun c => compileEntries_same delimiter (some c) others
      -- A connective gives way to what follows it if something stands before it.
      cases lead with
      | none =>
          rw [compileEntries, compileEntries]
          · exact joined
          · simp
          · simp
      | some lead =>
          cases first with
          | connective c =>
              rw [compileEntries, compileEntries]
              exact skipped c
          | predicate _ _ _
          | group _
          | stray _ =>
              rw [compileEntries, compileEntries]
              · exact joined
              · simp
              · simp

end

theorem SameEntries.isEmpty_eq
    {entries entries' : List Entry}
    (same : SameEntries replaced entries entries') :
    entries.isEmpty = entries'.isEmpty := by
  cases same with
  | nil =>
      rfl
  | cons _ _ =>
      rfl

/-- Filters of one shape are compiled alike. -/
theorem compile_same
    (delimiter : String)
    {filters filters' : Value}
    (same : SameLiteral replaced filters filters') :
    Related replaced Eq (compile delimiter filters) (compile delimiter filters') := by
  unfold compile
  apply (Related.lift (parse_same same)).bind
  intro entries entries' sameEntries
  unfold compileGroup
  apply Related.guard
  · rw [sameEntries.isEmpty_eq]
  intro _
  apply (compileEntries_same delimiter none sameEntries).bind
  rintro inner _ rfl
  exact .pure rfl

/-- Filters of one shape are both without entries or both with some. -/
theorem isEmpty_same
    {filters filters' : Value}
    (same : SameLiteral replaced filters filters') :
    Same Eq (isEmpty filters) (isEmpty filters') := by
  have parsed :
      Same Eq ((parse filters).map List.isEmpty) ((parse filters').map List.isEmpty) :=
    (parse_same same).map fun sameEntries => sameEntries.isEmpty_eq
  cases same with
  | unchanged _ =>
      exact .refl _
  | _ =>
      exact parsed

end QueryComposer.Filter
