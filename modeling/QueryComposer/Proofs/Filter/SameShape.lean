import QueryComposer.Filter.Condition
import QueryComposer.Proofs.Binding.Related

namespace QueryComposer.Filter

/-!
# Filters of one shape

Two filters have one shape if they differ in scalars only, and only where these are values: as the
operand of a condition, or as a member of a list that is one. What may stand in place of what is
left open: `replaced` is any relation between values.

A text in the place of an entry joins conditions and is no value there. A list is a value as an
operand and a nested filter as an entry, and inside a nested filter that was put together by hand
it is nothing at all.
-/

/-- Members of a list of values: scalars that are replaced, or values that are refused anyway. -/
inductive SameMember (replaced : Value → Value → Prop) : Value → Value → Prop where
  | scalar
      {member member' : Value}
      (isScalar : member.isScalar = true)
      (isScalar' : member'.isScalar = true)
      (replacement : replaced member member') :
      SameMember replaced member member'
  | compound
      {member member' : Value}
      (notScalar : member.isScalar = false)
      (notScalar' : member'.isScalar = false) :
      SameMember replaced member member'

/-- A value that is no operand: neither a scalar nor a list nor a column. -/
def isForeignOperand : Value → Bool
  | .list _
  | .tuple _
  | .column _ => false
  | operand => !operand.isScalar

/-- Operands of one shape. -/
inductive SameOperand (replaced : Value → Value → Prop) : Value → Value → Prop where
  | scalar
      {operand operand' : Value}
      (isScalar : operand.isScalar = true)
      (isScalar' : operand'.isScalar = true)
      (replacement : replaced operand operand') :
      SameOperand replaced operand operand'
  | list
      {members members' : List Value}
      (same : List.Forall₂ (SameMember replaced) members members') :
      SameOperand replaced (.list members) (.list members')
  | tuple
      {members members' : List Value}
      (same : List.Forall₂ (SameMember replaced) members members') :
      SameOperand replaced (.tuple members) (.tuple members')
  | column
      (name : Value) :
      SameOperand replaced (.column name) (.column name)
  /-- Operands of one type that are refused. -/
  | refused
      {operand operand' : Value}
      (foreign : isForeignOperand operand = true)
      (foreign' : isForeignOperand operand' = true)
      (sameType : operand.typeName = operand'.typeName) :
      SameOperand replaced operand operand'

/-- Pairs with the same keys whose values are of one shape. -/
def SamePairs
    (same : Value → Value → Prop)
    (pairs pairs' : List (Value × Value)) : Prop :=
  List.Forall₂ (fun pair pair' => pair.1 = pair'.1 ∧ same pair.2 pair'.2) pairs pairs'

/-- An entry that has no value in it. -/
def isValueless : Value → Bool
  | .map _
  | .list _
  | .tuple _
  | .predicate _ _ _
  | .group _ => false
  | _ => true

mutual

/-- Literals of one shape in the place of a filter or of an entry. -/
inductive SameLiteral (replaced : Value → Value → Prop) : Value → Value → Prop where
  | map
      {pairs pairs' : List (Value × Value)}
      (same : SamePairs (SameOperand replaced) pairs pairs') :
      SameLiteral replaced (.map pairs) (.map pairs')
  | list
      {items items' : List Value}
      (same : SameLiterals replaced items items') :
      SameLiteral replaced (.list items) (.list items')
  | tuple
      {items items' : List Value}
      (same : SameLiterals replaced items items') :
      SameLiteral replaced (.tuple items) (.tuple items')
  | group
      {items items' : List Value}
      (same : SameLiterals replaced items items') :
      SameLiteral replaced (.group items) (.group items')
  | predicate
      (column operator : Value)
      {operand operand' : Value}
      (same : SameOperand replaced operand operand') :
      SameLiteral replaced
        (.predicate column operator operand)
        (.predicate column operator operand')
  | unchanged
      {literal : Value}
      (valueless : isValueless literal = true) :
      SameLiteral replaced literal literal

/-- Literals that have one shape each. -/
inductive SameLiterals (replaced : Value → Value → Prop) : List Value → List Value → Prop where
  | nil :
      SameLiterals replaced [] []
  | cons
      {item item' : Value}
      {rest rest' : List Value}
      (first : SameLiteral replaced item item')
      (others : SameLiterals replaced rest rest') :
      SameLiterals replaced (item :: rest) (item' :: rest')

end

mutual

/-- Entries of one shape; of a value that is no entry only its type matters. -/
inductive SameEntry (replaced : Value → Value → Prop) : Entry → Entry → Prop where
  | predicate
      (column operator : Value)
      {operand operand' : Value}
      (same : SameOperand replaced operand operand') :
      SameEntry replaced
        (.predicate ⟨column, operator, operand⟩)
        (.predicate ⟨column, operator, operand'⟩)
  | connective
      (c : Connective) :
      SameEntry replaced (.connective c) (.connective c)
  | group
      {entries entries' : List Entry}
      (same : SameEntries replaced entries entries') :
      SameEntry replaced (.group entries) (.group entries')
  | stray
      {value value' : Value}
      (sameType : value.typeName = value'.typeName) :
      SameEntry replaced (.stray value) (.stray value')

/-- Entries that have one shape each. -/
inductive SameEntries (replaced : Value → Value → Prop) : List Entry → List Entry → Prop where
  | nil :
      SameEntries replaced [] []
  | cons
      {entry entry' : Entry}
      {rest rest' : List Entry}
      (first : SameEntry replaced entry entry')
      (others : SameEntries replaced rest rest') :
      SameEntries replaced (entry :: rest) (entry' :: rest')

end

section Parsing

variable {replaced : Value → Value → Prop}

theorem SameEntries.append
    {first first' second second' : List Entry}
    (opening : SameEntries replaced first first')
    (closing : SameEntries replaced second second') :
    SameEntries replaced (first ++ second) (first' ++ second') := by
  induction first generalizing first' with
  | nil =>
      cases opening
      exact closing
  | cons entry rest inductionHypothesis =>
      cases opening with
      | cons same others =>
          exact .cons same (inductionHypothesis others)

/-- A literal without values stands for an entry of its own shape. -/
theorem ofValue_unchanged
    {literal : Value}
    (valueless : isValueless literal = true) :
    SameEntry replaced (.ofValue literal) (.ofValue literal) := by
  cases literal with
  | connective c =>
      rw [Entry.ofValue]
      exact .connective c
  | group _
  | predicate _ _ _ =>
      cases valueless
  | _ =>
      exact .stray rfl

mutual

/-- Literals of one shape stand for entries of one shape. -/
theorem ofValue_same
    {literal literal' : Value} :
    SameLiteral replaced literal literal' →
    SameEntry replaced (.ofValue literal) (.ofValue literal')
  | .map _ => by
      simp only [Entry.ofValue]
      exact .stray rfl
  | .list _ => by
      simp only [Entry.ofValue]
      exact .stray rfl
  | .tuple _ => by
      simp only [Entry.ofValue]
      exact .stray rfl
  | .group same => by
      simp only [Entry.ofValue]
      exact .group (ofValues_same same)
  | .predicate column operator same => by
      simp only [Entry.ofValue]
      exact .predicate column operator same
  | .unchanged valueless =>
      ofValue_unchanged valueless

/-- Lists of literals of one shape stand for lists of entries of one shape. -/
theorem ofValues_same
    {items items' : List Value} :
    SameLiterals replaced items items' →
    SameEntries replaced (Entry.ofValues items) (Entry.ofValues items')
  | .nil => by
      simp only [Entry.ofValues]
      exact .nil
  | .cons first others => by
      simp only [Entry.ofValues]
      exact .cons (ofValue_same first) (ofValues_same others)

end

/-- The conditions of mappings of one shape are of one shape. -/
theorem parsePairs_same
    {pairs pairs' : List (Value × Value)}
    (same : SamePairs (SameOperand replaced) pairs pairs') :
    Same (SameEntries replaced) (parsePairs pairs) (parsePairs pairs') := by
  induction same with
  | nil =>
      exact .accepted .nil
  | @cons pair pair' rest rest' first others inductionHypothesis =>
      rcases pair with ⟨key, operand⟩
      rcases pair' with ⟨key', operand'⟩
      obtain ⟨sameKey, sameOperand⟩ := first
      dsimp only at sameKey sameOperand
      subst sameKey
      cases key with
      | text key =>
          rw [parsePairs, parsePairs]
          apply inductionHypothesis.bind
          intro entries entries' sameEntries
          exact .accepted (.cons (.predicate _ _ sameOperand) sameEntries)
      | _ =>
          exact .refused _

/-- A literal without values gives a connective or is refused. -/
theorem parseEntry_unchanged
    {literal : Value}
    (valueless : isValueless literal = true) :
    Same (SameEntries replaced) (parseEntry literal) (parseEntry literal) := by
  cases literal with
  | text word =>
      rw [parseEntry]
      split
      · next c _ =>
        exact .accepted (.cons (.connective c) .nil)
      · exact .refused _
  | connective c =>
      rw [parseEntry]
      exact .accepted (.cons (.connective c) .nil)
  | map _
  | list _
  | tuple _
  | predicate _ _ _
  | group _ =>
      cases valueless
  | _ =>
      exact .refused _

mutual

/-- Literals of one shape give entries of one shape. -/
theorem parseEntry_same
    {literal literal' : Value} :
    SameLiteral replaced literal literal' →
    Same (SameEntries replaced) (parseEntry literal) (parseEntry literal')
  | .map same => by
      rw [parseEntry, parseEntry]
      exact parsePairs_same same
  | .list same => by
      rw [parseEntry, parseEntry]
      apply (parseItems_same same).bind
      intro entries entries' sameEntries
      exact .accepted (.cons (.group sameEntries) .nil)
  | .tuple same => by
      rw [parseEntry, parseEntry]
      apply (parseItems_same same).bind
      intro entries entries' sameEntries
      exact .accepted (.cons (.group sameEntries) .nil)
  | .group same => by
      rw [parseEntry, parseEntry]
      exact .accepted (.cons (.group (ofValues_same same)) .nil)
  | .predicate column operator same => by
      rw [parseEntry, parseEntry]
      exact .accepted (.cons (.predicate column operator same) .nil)
  | .unchanged valueless =>
      parseEntry_unchanged valueless

/-- Lists of literals of one shape give entries of one shape. -/
theorem parseItems_same
    {items items' : List Value} :
    SameLiterals replaced items items' →
    Same (SameEntries replaced) (parseItems items) (parseItems items')
  | .nil => by
      rw [parseItems]
      exact .accepted .nil
  | .cons first others => by
      rw [parseItems, parseItems]
      apply (parseEntry_same first).bind
      intro entries entries' sameFirst
      apply (parseItems_same others).bind
      intro rest rest' sameOthers
      exact .accepted (sameFirst.append sameOthers)

end

/-- Filters of one shape have entries of one shape. -/
theorem parse_same
    {literal literal' : Value}
    (same : SameLiteral replaced literal literal') :
    Same (SameEntries replaced) (parse literal) (parse literal') := by
  cases same with
  | map same =>
      exact parsePairs_same same
  | list same =>
      exact parseItems_same same
  | tuple same =>
      exact parseItems_same same
  | group same =>
      exact .accepted (ofValues_same same)
  | predicate column operator same =>
      exact .accepted (.cons (.predicate column operator same) .nil)
  | unchanged valueless =>
      cases literal with
      | map _
      | list _
      | tuple _
      | predicate _ _ _
      | group _ =>
          cases valueless
      | _ =>
          exact .refused _

end Parsing

end QueryComposer.Filter
