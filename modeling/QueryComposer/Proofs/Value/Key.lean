import QueryComposer.Value.Key

namespace QueryComposer.Value

/-!
# Equality of keys

To be the same key is symmetric and transitive, so that it does not matter under which of several
values that are one key a mapping is read or written. It is not reflexive: a float that is not a
number is never found.

Two keys are the same in one of a few ways, which `Matches` names: they are one value, the same
point in time, numbers of the same worth, or made of the same keys in the same way.
-/

/-- What a number is worth, or whether an infinite one is negative. -/
def worth? (value : Value) : Option (Decimal ⊕ Bool) :=
  (value.number?.map .inl).or (value.infinity?.map .inr)

/-- The two ways in which two values are the same number. -/
theorem sameNumber_iff
    {left right : Value} :
    (match left.number?, right.number? with
      | some m, some n => m == n
      | none, none => left.infinity?.isSome && left.infinity? == right.infinity?
      | _, _ => false) = true ↔
      ∃ worth, left.worth? = some worth ∧ right.worth? = some worth := by
  unfold worth?
  cases left.number? with
  | none =>
      cases right.number? with
      | none =>
          cases left.infinity? with
          | none =>
              simp
          | some isNegative =>
              cases right.infinity? with
              | none =>
                  simp
              | some other =>
                  simpa using eq_comm
      | some n =>
          cases left.infinity? <;> simp
  | some m =>
      cases right.number? with
      | none =>
          cases right.infinity? <;> simp
      | some n =>
          simpa using eq_comm

/-- A number is the same key as the numbers of the same worth. -/
theorem sameKey_iff_of_worth
    {left right : Value}
    {worth : Decimal ⊕ Bool}
    (isWorth : left.worth? = some worth) :
    left.sameKey right = true ↔ right.worth? = some worth := by
  have compared :
      left.sameKey right = true ↔
        ∃ worth, left.worth? = some worth ∧ right.worth? = some worth := by
    refine Iff.trans ?_ sameNumber_iff
    cases left with
    | bool _
    | int _
    | float _
    | decimal _ =>
        cases right <;> exact Iff.rfl
    | _ =>
        cases isWorth
  rw [compared, isWorth]
  simp [eq_comm]

/-- How two values can be the same key. -/
inductive Matches : Value → Value → Prop where
  | itself (value : Value) :
      Matches value value
  | number
      {left right : Value}
      {worth : Decimal ⊕ Bool}
      (isWorth : left.worth? = some worth)
      (isWorth' : right.worth? = some worth) :
      Matches left right
  | datetime
      {day day' : Date}
      {clock clock' : Clock}
      (agree : agreesOn day day' clock clock' = true) :
      Matches (.datetime day clock) (.datetime day' clock')
  | time
      {clock clock' : Clock}
      (agree : clock.agrees clock' = true) :
      Matches (.time clock) (.time clock')
  | tuple
      {items items' : List Value}
      (each : sameKeys items items' = true) :
      Matches (.tuple items) (.tuple items')
  | group
      {entries entries' : List Value}
      (each : sameKeys entries entries' = true) :
      Matches (.group entries) (.group entries')
  | column
      {name name' : Value}
      (same : name.sameKey name' = true) :
      Matches (.column name) (.column name')
  | predicate
      {target target' operator operator' operand operand' : Value}
      (targets : target.sameKey target' = true)
      (operators : operator.sameKey operator' = true)
      (operands : operand.sameKey operand' = true) :
      Matches (.predicate target operator operand) (.predicate target' operator' operand')
  | prepared
      {sql sql' driverSql driverSql' : Value}
      (sqls : sql.sameKey sql' = true)
      (driverSqls : driverSql.sameKey driverSql' = true) :
      Matches (.prepared sql driverSql) (.prepared sql' driverSql')

theorem matches_of_sameKey
    {left right : Value}
    (same : left.sameKey right = true) :
    Matches left right := by
  rw [sameKey.eq_def] at same
  split at same
  · exact .itself _
  · rw [eq_of_beq same]
    exact .itself _
  · rw [eq_of_beq same]
    exact .itself _
  · rw [eq_of_beq same]
    exact .itself _
  · rw [eq_of_beq same]
    exact .itself _
  · exact .datetime same
  · exact .time same
  · rw [eq_of_beq same]
    exact .itself _
  · exact .tuple same
  · exact .group same
  · exact .column same
  · rw [Bool.and_eq_true, Bool.and_eq_true] at same
    exact .predicate same.1.1 same.1.2 same.2
  · rw [Bool.and_eq_true] at same
    exact .prepared same.1 same.2
  · obtain ⟨worth, isWorth, isWorth'⟩ := sameNumber_iff.mp same
    exact .number isWorth isWorth'

mutual

theorem sameKey_symm
    {left right : Value}
    (same : left.sameKey right = true) :
    right.sameKey left = true := by
  cases matches_of_sameKey same with
  | itself =>
      exact same
  | number isWorth isWorth' =>
      exact (sameKey_iff_of_worth isWorth').mpr isWorth
  | datetime agree =>
      simp only [agreesOn, Bool.and_eq_true, beq_iff_eq] at agree
      simp only [sameKey, agreesOn, Bool.and_eq_true, beq_iff_eq]
      exact ⟨agree.1.symm, agree.2.symm⟩
  | time agree =>
      simp only [Clock.agrees, Bool.and_eq_true, beq_iff_eq] at agree
      simp only [sameKey, Clock.agrees, Bool.and_eq_true, beq_iff_eq]
      exact ⟨⟨agree.1.1.symm, agree.1.2.symm⟩, agree.2.symm⟩
  | tuple each =>
      rw [sameKey]
      exact sameKeys_symm each
  | group each =>
      rw [sameKey]
      exact sameKeys_symm each
  | column same =>
      rw [sameKey]
      exact sameKey_symm same
  | predicate targets operators operands =>
      rw [sameKey, Bool.and_eq_true, Bool.and_eq_true]
      exact ⟨⟨sameKey_symm targets, sameKey_symm operators⟩, sameKey_symm operands⟩
  | prepared sqls driverSqls =>
      rw [sameKey, Bool.and_eq_true]
      exact ⟨sameKey_symm sqls, sameKey_symm driverSqls⟩
termination_by sizeOf left

theorem sameKeys_symm
    {items items' : List Value}
    (same : sameKeys items items' = true) :
    sameKeys items' items = true := by
  cases items with
  | nil =>
      cases items' with
      | nil =>
          rfl
      | cons _ _ =>
          cases same
  | cons value rest =>
      cases items' with
      | nil =>
          cases same
      | cons other others =>
          rw [sameKeys, Bool.and_eq_true] at same ⊢
          exact ⟨sameKey_symm same.1, sameKeys_symm same.2⟩
termination_by sizeOf items

end

mutual

/-- Of what the first of two matching keys is the same as, the second one is so too. -/
theorem sameKey_trans
    {left middle right : Value}
    (first : left.sameKey middle = true)
    (second : middle.sameKey right = true) :
    left.sameKey right = true := by
  cases matches_of_sameKey first with
  | itself =>
      exact second
  | number isWorth isWorth' =>
      exact (sameKey_iff_of_worth isWorth).mpr ((sameKey_iff_of_worth isWorth').mp second)
  | datetime agree =>
      cases matches_of_sameKey second with
      | itself =>
          exact first
      | number isWorth _ =>
          cases isWorth
      | datetime agree' =>
          simp only [agreesOn, Bool.and_eq_true, beq_iff_eq] at agree agree'
          simp only [sameKey, agreesOn, Bool.and_eq_true, beq_iff_eq]
          exact ⟨agree.1.trans agree'.1, agree.2.trans agree'.2⟩
  | time agree =>
      cases matches_of_sameKey second with
      | itself =>
          exact first
      | number isWorth _ =>
          cases isWorth
      | time agree' =>
          simp only [Clock.agrees, Bool.and_eq_true, beq_iff_eq] at agree agree'
          simp only [sameKey, Clock.agrees, Bool.and_eq_true, beq_iff_eq]
          exact ⟨⟨agree.1.1.trans agree'.1.1, agree.1.2.trans agree'.1.2⟩,
            agree.2.trans agree'.2⟩
  | tuple each =>
      cases matches_of_sameKey second with
      | itself =>
          exact first
      | number isWorth _ =>
          cases isWorth
      | tuple each' =>
          rw [sameKey]
          exact sameKeys_trans each each'
  | group each =>
      cases matches_of_sameKey second with
      | itself =>
          exact first
      | number isWorth _ =>
          cases isWorth
      | group each' =>
          rw [sameKey]
          exact sameKeys_trans each each'
  | column same =>
      cases matches_of_sameKey second with
      | itself =>
          exact first
      | number isWorth _ =>
          cases isWorth
      | column same' =>
          rw [sameKey]
          exact sameKey_trans same same'
  | predicate targets operators operands =>
      cases matches_of_sameKey second with
      | itself =>
          exact first
      | number isWorth _ =>
          cases isWorth
      | predicate targets' operators' operands' =>
          rw [sameKey, Bool.and_eq_true, Bool.and_eq_true]
          exact ⟨⟨sameKey_trans targets targets', sameKey_trans operators operators'⟩,
            sameKey_trans operands operands'⟩
  | prepared sqls driverSqls =>
      cases matches_of_sameKey second with
      | itself =>
          exact first
      | number isWorth _ =>
          cases isWorth
      | prepared sqls' driverSqls' =>
          rw [sameKey, Bool.and_eq_true]
          exact ⟨sameKey_trans sqls sqls', sameKey_trans driverSqls driverSqls'⟩
termination_by sizeOf left

theorem sameKeys_trans
    {items items' items'' : List Value}
    (first : sameKeys items items' = true)
    (second : sameKeys items' items'' = true) :
    sameKeys items items'' = true := by
  cases items with
  | nil =>
      cases items' with
      | nil =>
          exact second
      | cons _ _ =>
          cases first
  | cons value rest =>
      cases items' with
      | nil =>
          cases first
      | cons value' rest' =>
          cases items'' with
          | nil =>
              cases second
          | cons value'' rest'' =>
              rw [sameKeys, Bool.and_eq_true] at first second ⊢
              exact ⟨sameKey_trans first.1 second.1, sameKeys_trans first.2 second.2⟩
termination_by sizeOf items

end

/-- To be the same key is a partial equivalence. -/
instance : PartialEquivBEq Value where
  symm := sameKey_symm
  trans := sameKey_trans

end QueryComposer.Value
