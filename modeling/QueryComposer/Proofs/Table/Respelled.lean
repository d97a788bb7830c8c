import QueryComposer.Proofs.Filter.Respelled
import QueryComposer.Table.Clause

namespace QueryComposer.Table

/-!
# Tables in different spelling

Every variant of a join keyword names the join. Tables that differ in the spelling of their keywords
and of the keys of their conditions are `Respelled`; they are compiled alike.
-/

open Filter (RespelledPair RespelledPairs)

/-- A variant of its keyword spells a join. -/
theorem Join.spells_of_variant
    {token : String}
    {join : Join}
    (variant : Text.Variant token.toList join.keyword.toList) :
    Spells token join := by
  obtain ⟨before, words, spaced, after, blankBefore, isSpaced, blankAfter, shape, capitals⟩ :=
    variant
  have ascii : ∀ c ∈ join.keyword.toList, c.toNat < 128 := by
    apply Text.ascii_of_all
    cases join <;> decide
  exact ⟨before, words, spaced, after, blankBefore, isSpaced, blankAfter, shape,
    Text.upper_eq_of_map_toUpper ascii capitals⟩

/-- The same table with the same conditions, whose keys are spelled in one way or another. -/
inductive RespelledJoin : Value × Value → Value × Value → Prop where
  | same (pair : Value × Value) :
      RespelledJoin pair pair
  | conditions
      (name : Value)
      {pairs pairs' : List (Value × Value)}
      (respelled : RespelledPairs pairs pairs') :
      RespelledJoin (name, .map pairs) (name, .map pairs')

/-- Join keywords or joined tables, which are spelled in one way or another. -/
inductive RespelledElement : Value → Value → Prop where
  | same (element : Value) :
      RespelledElement element element
  | keyword
      {token token' : String}
      {join : Join}
      (spells : join.Spells token)
      (spells' : join.Spells token') :
      RespelledElement (.text token) (.text token')
  | tables
      {pairs pairs' : List (Value × Value)}
      (respelled : List.Forall₂ RespelledJoin pairs pairs') :
      RespelledElement (.map pairs) (.map pairs')

/-- Table specifications with the same first table that are spelled in one way or another. -/
inductive Respelled : Value → Value → Prop where
  | same (tables : Value) :
      Respelled tables tables
  | list
      (base : Value)
      {rest rest' : List Value}
      (respelled : List.Forall₂ RespelledElement rest rest') :
      Respelled (.list (base :: rest)) (.list (base :: rest'))
  | tuple
      (base : Value)
      {rest rest' : List Value}
      (respelled : List.Forall₂ RespelledElement rest rest') :
      Respelled (.tuple (base :: rest)) (.tuple (base :: rest'))

theorem joinPredicate_of_respelled
    (table : String)
    {pair pair' : Value × Value}
    (respelled : RespelledPair pair pair') :
    joinPredicate table pair = joinPredicate table pair' := by
  cases respelled with
  | same =>
      rfl
  | respelled operand spells spells' =>
      cases operand with
      | text other =>
          exact congrArg Except.ok (Filter.ofKey_of_spells spells spells' _)
      | column other =>
          exact congrArg Except.ok (Filter.ofKey_of_spells spells spells' _)
      | _ =>
          rfl

theorem joinPredicates_of_respelled
    (table : String)
    {pairs pairs' : List (Value × Value)}
    (respelled : RespelledPairs pairs pairs') :
    pairs.mapM (joinPredicate table) = pairs'.mapM (joinPredicate table) :=
  mapM_eq_of_forall₂ (respelled.imp fun _ _ => joinPredicate_of_respelled table)

section Compiling

variable (delimiter : String)

/-- A joined table is compiled alike, however its conditions are spelled. -/
theorem compileJoin_of_respelled
    (join : Join)
    {pair pair' : Value × Value}
    (respelled : RespelledJoin pair pair') :
    compileJoin delimiter join pair = compileJoin delimiter join pair' := by
  cases respelled with
  | same =>
      rfl
  | conditions name respelled =>
      cases name with
      | text table =>
          have sameEmptiness := Filter.isEmpty_eq_of_respelled respelled
          rw [compileJoin, compileJoin, joinPredicates_of_respelled table respelled, sameEmptiness]
      | _ =>
          rfl

theorem compileJoins_of_respelled
    {pairs pairs' : List (Value × Value)}
    (respelled : List.Forall₂ RespelledJoin pairs pairs')
    (join : Join) :
    compileJoins delimiter join pairs = compileJoins delimiter join pairs' := by
  induction respelled generalizing join with
  | nil =>
      rfl
  | cons first _ inductionHypothesis =>
      rw [compileJoins, compileJoins, compileJoin_of_respelled delimiter join first,
        inductionHypothesis]

/-- What follows the first table is compiled alike, however it is spelled. -/
theorem compileElements_of_respelled
    {elements elements' : List Value}
    (respelled : List.Forall₂ RespelledElement elements elements')
    (join : Join) :
    compileElements delimiter join elements = compileElements delimiter join elements' := by
  induction respelled generalizing join with
  | nil =>
      rfl
  | @cons element element' rest rest' first _ inductionHypothesis =>
      cases first with
      | same =>
          cases element with
          | text token =>
              simp only [compileElements, inductionHypothesis]
          | map pairs =>
              cases pairs with
              | nil =>
                  rfl
              | cons pair others =>
                  simp only [compileElements, inductionHypothesis]
          | _ =>
              rfl
      | keyword spells spells' =>
          simp only [compileElements, Join.ofToken?_eq_some_iff.mpr spells,
            Join.ofToken?_eq_some_iff.mpr spells', inductionHypothesis]
      | tables respelled =>
          cases respelled with
          | nil =>
              rfl
          | cons first others =>
              have joined := compileJoins_of_respelled delimiter (.cons first others) join
              simp only [compileElements, joined, inductionHypothesis]

/-- Tables are compiled alike, however their keywords and conditions are spelled. -/
theorem compile_of_respelled
    {tables tables' : Value}
    (respelled : Respelled tables tables') :
    compile delimiter tables = compile delimiter tables' := by
  cases respelled with
  | same =>
      rfl
  | list base respelled
  | tuple base respelled =>
      cases base with
      | text name =>
          simp only [compile, compileList, compileElements_of_respelled delimiter respelled]
      | _ =>
          rfl

end Compiling

end QueryComposer.Table
