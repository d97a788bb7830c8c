import QueryComposer.Proofs.Association
import QueryComposer.Proofs.Connection.Alike
import QueryComposer.Proofs.Statement.SameText
import QueryComposer.Statement.Upsert

namespace QueryComposer.Statement

/-!
# Rows that differ in values only

Value sets whose values are exchanged are accepted alike, and their rows have the same columns. The
update that takes the place of an insertion has the same text for both, or there is none for either:
whether there is one depends on which values are null, and on nothing else about them.
-/

open Association (Corresponds)
open Connection (Exchanged)
open Filter (SameOperand SamePairs)

/-- Rows with the same columns whose values are exchanged. -/
def SameRow (row row' : Row) : Prop :=
  Corresponds Exchanged row row'

/-- Value sets of as many rows, each with the same columns and with exchanged values. -/
inductive SameRows : Value → Value → Prop where
  | one
      {values values' : Value}
      (same : SameAssignments Exchanged values values') :
      SameRows values values'
  | list
      {rows rows' : List Value}
      (same : List.Forall₂ (SameAssignments Exchanged) rows rows') :
      SameRows (.list rows) (.list rows')
  | tuple
      {rows rows' : List Value}
      (same : List.Forall₂ (SameAssignments Exchanged) rows rows') :
      SameRows (.tuple rows) (.tuple rows')

theorem sameMember_refl (member : Value) : Filter.SameMember Exchanged member member := by
  cases isScalar : member.isScalar with
  | false =>
      exact .compound isScalar isScalar
  | true =>
      exact .scalar isScalar isScalar (.unchanged member)

/-- An exchanged value is an operand of the same shape. -/
theorem sameOperand_of_exchanged
    {value value' : Value}
    (exchanged : Exchanged value value') :
    SameOperand Exchanged value value' := by
  cases exchanged with
  | scalar isScalar isScalar' sameNull =>
      exact .scalar isScalar isScalar' (.scalar isScalar isScalar' sameNull)
  | unchanged =>
      cases value with
      | list members =>
          exact .list (List.forall₂_same.mpr fun member _ => sameMember_refl member)
      | tuple members =>
          exact .tuple (List.forall₂_same.mpr fun member _ => sameMember_refl member)
      | column name =>
          exact .column name
      | _ =>
          first
          | exact .scalar rfl rfl (.unchanged _)
          | exact .refused rfl rfl rfl

/-- Mappings whose values are exchanged have the same columns, or are refused alike. -/
theorem rowOfPairs_same
    {pairs pairs' : List (Value × Value)}
    (same : SamePairs Exchanged pairs pairs') :
    Same SameRow (rowOfPairs pairs) (rowOfPairs pairs') := by
  induction same with
  | nil =>
      exact .accepted .nil
  | @cons pair pair' rest rest' first _ inductionHypothesis =>
      rcases pair with ⟨key, value⟩
      rcases pair' with ⟨key', value'⟩
      obtain ⟨sameKey, exchanged⟩ := first
      dsimp only at sameKey exchanged
      subst sameKey
      rw [rowOfPairs, rowOfPairs]
      apply (Same.refl (checkColumn key)).bind
      rintro name _ rfl
      apply inductionHypothesis.bind
      intro others others' sameOthers
      exact .accepted (.cons ⟨rfl, exchanged⟩ sameOthers)

theorem columns_eq
    {row row' : Row}
    (same : SameRow row row') :
    columns row = columns row' := by
  induction same with
  | nil =>
      rfl
  | cons first _ inductionHypothesis =>
      exact congrArg₂ List.cons first.1 inductionHypothesis

/-- Rows whose values are exchanged are checked alike. -/
theorem checkRows_same
    {rows rows' : List Value}
    (same : List.Forall₂ (SameAssignments Exchanged) rows rows')
    (index : Nat)
    (expected : Option (List String)) :
    Same (List.Forall₂ SameRow) (checkRows index expected rows) (checkRows index expected rows') := by
  induction same generalizing index expected with
  | nil =>
      exact .accepted .nil
  | @cons values values' rest rest' first _ inductionHypothesis =>
      cases first with
      | map samePairs =>
          rw [checkRows, checkRows]
          apply (rowOfPairs_same samePairs).bind
          intro row row' sameRow
          rw [columns_eq sameRow]
          dsimp only
          split
          · apply (inductionHypothesis _ _).bind
            intro others others' sameOthers
            exact .accepted (.cons sameRow sameOthers)
          · exact .refused _
      | unchanged notMap =>
          cases values with
          | map pairs =>
              exact absurd rfl (notMap pairs)
          | _ =>
              exact .refused _

theorem sameAssignments_refl (values : Value) : SameAssignments Exchanged values values := by
  cases values with
  | map pairs =>
      exact .map (List.forall₂_same.mpr fun pair _ => ⟨rfl, .unchanged pair.2⟩)
  | _ =>
      exact .unchanged nofun

/-- Value sets whose values are exchanged list rows alike. -/
theorem rowValues_same
    {values values' : Value}
    (same : SameRows values values') :
    Same (List.Forall₂ (SameAssignments Exchanged)) (rowValues values) (rowValues values') := by
  cases same with
  | one same =>
      cases same with
      | map samePairs =>
          exact .accepted (.cons (.map samePairs) .nil)
      | unchanged notMap =>
          cases values with
          | map pairs =>
              exact absurd rfl (notMap pairs)
          | list rows
          | tuple rows =>
              exact .accepted (List.forall₂_same.mpr fun row _ => sameAssignments_refl row)
          | _ =>
              exact .refused _
  | list same =>
      exact .accepted same
  | tuple same =>
      exact .accepted same

/-- Value sets whose values are exchanged are accepted alike. -/
theorem normalizeRows_same
    {values values' : Value}
    (same : SameRows values values') :
    Same (List.Forall₂ SameRow) (normalizeRows values) (normalizeRows values') := by
  apply (rowValues_same same).bind
  intro rows rows' sameRows
  cases sameRows with
  | nil =>
      exact .refused _
  | cons first others =>
      dsimp only
      rw [(pairsOf_same first).1]
      split
      · exact checkRows_same (.cons first others) 0 none
      · exact .refused _

/-- Rows of one shape are plain rows of one shape. -/
theorem plainRow_same
    {pairs pairs' : List (Value × Value)}
    (same : SamePairs Exchanged pairs pairs') :
    Same (Corresponds Exchanged) (plainRow pairs) (plainRow pairs') := by
  unfold plainRow
  have named :
      ∀ {pair pair' : Value × Value},
        pair.1 = pair'.1 ∧ Exchanged pair.2 pair'.2 →
        Same (fun pair pair' : Value × Value => pair.1 = pair'.1 ∧ Exchanged pair.2 pair'.2)
          (do
            let split ← Filter.splitAnyKey pair.1
            return (split.1, pair.2))
          (do
            let split ← Filter.splitAnyKey pair'.1
            return (split.1, pair'.2)) := by
    rintro ⟨key, value⟩ ⟨_, value'⟩ ⟨rfl, exchanged⟩
    apply (Same.refl _).bind
    rintro split _ rfl
    exact .accepted ⟨rfl, exchanged⟩
  apply (Same.mapM same named).bind
  intro plain plain' corresponding
  exact .accepted (Association.ofPairs_corresponds corresponding)

/-- A key column that is not null is found. -/
theorem keyValues_of_found
    {row : List (Value × Value)}
    {key value : Value}
    (hashable : key.isHashable = true)
    (found : Association.get? row key = some value)
    (notNull : value ≠ .null)
    (rest : List Value) :
    keyValues row (key :: rest) = do
      let others ← keyValues row rest
      return others.map ((key, value) :: ·) := by
  rw [keyValues, found, hashable]
  cases value with
  | null =>
      exact absurd rfl notNull
  | _ =>
      rfl

/-- With a key column that is null or missing nothing is found. -/
theorem keyValues_of_absent
    {row : List (Value × Value)}
    {key : Value}
    (hashable : key.isHashable = true)
    (absent : Association.get? row key = none ∨ Association.get? row key = some .null)
    (rest : List Value) :
    keyValues row (key :: rest) = .ok none := by
  rcases absent with missing | null
  · rw [keyValues, hashable, missing]
    rfl
  · rw [keyValues, hashable, null]
    rfl

/-- Key columns of rows of one shape have exchanged values, or are null or missing in both. -/
theorem keyValues_same
    {row row' : List (Value × Value)}
    (same : Corresponds Exchanged row row')
    (keys : List Value) :
    Same (Option.Rel (Corresponds Exchanged)) (keyValues row keys) (keyValues row' keys) := by
  induction keys with
  | nil =>
      exact .accepted (.some .nil)
  | cons key rest inductionHypothesis =>
      cases hashable : key.isHashable with
      | false =>
          rw [keyValues, keyValues, hashable]
          exact .refused _
      | true =>
          have values := Association.get?_corresponds same key
          generalize found : Association.get? row key = value at values
          generalize found' : Association.get? row' key = value' at values
          cases values with
          | none =>
              rw [keyValues_of_absent hashable (.inl found),
                keyValues_of_absent hashable (.inl found')]
              exact .accepted .none
          | @some value value' exchanged =>
              by_cases isNull : value = .null
              · have isNull' := exchanged.null_iff.mp isNull
                subst isNull isNull'
                rw [keyValues_of_absent hashable (.inr found),
                  keyValues_of_absent hashable (.inr found')]
                exact .accepted .none
              · have notNull' := isNull ∘ exchanged.null_iff.mpr
                rw [keyValues_of_found hashable found isNull,
                  keyValues_of_found hashable found' notNull']
                apply inductionHypothesis.bind
                intro others others' sameOthers
                cases sameOthers with
                | none =>
                    exact .accepted .none
                | some sameOthers =>
                    exact .accepted (.some (.cons ⟨rfl, exchanged⟩ sameOthers))

theorem filter_corresponds
    {pairs pairs' : List (Value × Value)}
    (same : Corresponds Exchanged pairs pairs')
    (chosen : Value → Bool) :
    Corresponds Exchanged
      (pairs.filter fun pair => chosen pair.1)
      (pairs'.filter fun pair => chosen pair.1) := by
  induction same with
  | nil =>
      exact .nil
  | cons first _ inductionHypothesis =>
      rw [List.filter_cons, List.filter_cons, first.1]
      split
      · exact .cons first inductionHypothesis
      · exact inductionHypothesis

theorem isEmpty_eq
    {pairs pairs' : List (Value × Value)}
    (same : Corresponds Exchanged pairs pairs') :
    pairs.isEmpty = pairs'.isEmpty := by
  cases same with
  | nil =>
      rfl
  | cons _ _ =>
      rfl

/-- Filters for exchanged values of the same key columns are of one shape. -/
theorem keyFilter_same
    {pairs pairs' : List (Value × Value)}
    (same : Corresponds Exchanged pairs pairs') :
    Filter.SameLiteral Exchanged (keyFilter pairs) (keyFilter pairs') := by
  apply Filter.SameLiteral.map
  apply Association.ofPairs_corresponds
  rw [Corresponds, List.forall₂_map_left_iff, List.forall₂_map_right_iff]
  apply List.Forall₂.imp _ same
  rintro ⟨key, value⟩ ⟨_, value'⟩ ⟨rfl, exchanged⟩
  exact ⟨rfl, sameOperand_of_exchanged exchanged⟩

/-- The update in place of an insertion is of one text for rows of one shape, if there is one. -/
theorem upsertUpdate_same
    (delimiter : String)
    (table keys : Value)
    {pairs pairs' : List (Value × Value)}
    (same : SamePairs Exchanged pairs pairs') :
    Same (Option.Rel (SameText Exchanged))
      (upsertUpdate delimiter table (.map pairs) keys)
      (upsertUpdate delimiter table (.map pairs') keys) := by
  unfold upsertUpdate
  apply (plainRow_same same).bind
  intro plain plain' samePlain
  apply (Same.refl (members keys)).bind
  rintro keyColumns _ rfl
  apply (keyValues_same samePlain keyColumns).bind
  intro found found' sameFound
  cases sameFound with
  | none =>
      exact .accepted .none
  | some sameFound =>
      have assigned := filter_corresponds samePlain fun key => !keyColumns.any (· == key)
      have sameEmpty := isEmpty_eq assigned
      dsimp only
      rw [sameEmpty]
      split
      · exact .accepted .none
      · apply (update_same delimiter table (.map assigned) (keyFilter_same sameFound)).bind
        intro statement statement' sameText
        exact .accepted (.some sameText)

end QueryComposer.Statement
