import QueryComposer.Proofs.Filter.Acceptable
import QueryComposer.Proofs.Filter.Effective
import QueryComposer.Proofs.Identifier.Unquoted

namespace QueryComposer.Filter

/-!
# How filters are spelled

The text of a filter in normal form, with all details: a condition is spelled in one of three
ways, items stand behind their connectives, and every nested filter has its own parentheses. In
normal form lists and tuples of values are the same.

Filters whose columns have no blanks in them are spelled like that whenever they are compiled, and
their parentheses are balanced.
-/

/-- A name without blanks. -/
def Solid (name : String) : Prop :=
  ∀ c ∈ name.toList, Text.isBlank c = false

instance (name : String) : Decidable (Solid name) :=
  List.decidableBAll (fun c => Text.isBlank c = false) name.toList

namespace Predicate

/-- The condition with its values in a list, if they are in a tuple. -/
def normal (p : Predicate) : Predicate :=
  match p.operand with
  | .tuple members => { p with operand := .list members }
  | _ => p

/-- The columns of a condition have no blanks. -/
structure Solid (p : Predicate) : Prop where
  column :
    ∀ name, p.column = .text name → Filter.Solid name
  operand :
    ∀ name, p.operand = .column (.text name) → Filter.Solid name

end Predicate

mutual

/-- The item with the values of its conditions in lists. -/
def Item.normal : Item → Item
  | .test p => .test p.normal
  | .group first others => .group first.normal others.normal

/-- The items that follow, with the values of their conditions in lists. -/
def Chain.normal : Chain → Chain
  | .nil => .nil
  | .cons c item others => .cons c item.normal others.normal

end

/-- The normal form of a filter literal that can be parsed. -/
def normalOf? (filters : Value) : Option Item :=
  match parse filters with
  | .ok entries => (itemOf? (.group entries)).map Item.normal
  | .error _ => none

mutual

/-- An item in normal form is spelled as a text with the values of its placeholders. -/
inductive Item.Spelled (mark : QuoteMark) : Item → String → List Value → Prop where
  | value
      {column operator quoted : String}
      {operand : Value}
      (solid : Solid column)
      (written : Identifier.quote mark.text (.text column) = .ok quoted)
      (known : operator ∈ operators)
      (isScalar : operand.isScalar = true) :
      Item.Spelled mark
        (.test ⟨.text column, .text operator, operand⟩)
        (quoted ++ " " ++ operator ++ " " ++ placeholder)
        [operand]
  | members
      {column quoted : String}
      {members : List Value}
      (solid : Solid column)
      (written : Identifier.quote mark.text (.text column) = .ok quoted)
      (nonempty : members ≠ [])
      (areScalars : ∀ member ∈ members, member.isScalar = true) :
      Item.Spelled mark
        (.test ⟨.text column, .text defaultOperator, .list members⟩)
        (quoted ++ " IN (" ++ placeholders members.length ++ ")")
        members
  | columns
      {column operator other quoted quotedOther : String}
      (solid : Solid column)
      (written : Identifier.quote mark.text (.text column) = .ok quoted)
      (known : operator ∈ operators)
      (solidOther : Solid other)
      (writtenOther : Identifier.quote mark.text (.text other) = .ok quotedOther) :
      Item.Spelled mark
        (.test ⟨.text column, .text operator, .column (.text other)⟩)
        (quoted ++ " " ++ operator ++ " " ++ quotedOther)
        []
  | group
      {first : Item}
      {others : Chain}
      {text texts : String}
      {values more : List Value}
      (opening : first.Spelled mark text values)
      (following : others.Spelled mark texts more) :
      Item.Spelled mark (.group first others) ("(" ++ text ++ texts ++ ")") (values ++ more)

/-- The items that follow are spelled one after the other, each behind its connective. -/
inductive Chain.Spelled (mark : QuoteMark) : Chain → String → List Value → Prop where
  | nil :
      Chain.Spelled mark .nil "" []
  | cons
      {c : Connective}
      {item : Item}
      {others : Chain}
      {text texts : String}
      {values more : List Value}
      (opening : item.Spelled mark text values)
      (following : others.Spelled mark texts more) :
      Chain.Spelled mark
        (.cons c item others)
        (" " ++ c.keyword ++ " " ++ text ++ texts)
        (values ++ more)

end

/-- Only texts can be quoted. -/
theorem eq_text_of_quote
    {delimiter quoted : String}
    {reference : Value}
    (accepted : Identifier.quote delimiter reference = .ok quoted) :
    ∃ name, reference = .text name := by
  cases reference with
  | text name =>
      exact ⟨name, rfl⟩
  | _ =>
      cases accepted

/-- A scalar operand is normal. -/
theorem normal_of_isScalar
    {p : Predicate}
    (isScalar : p.operand.isScalar = true) :
    p.normal = p := by
  unfold Predicate.normal
  split
  · next isTuple =>
      rw [isTuple] at isScalar
      cases isScalar
  · rfl

/-- A condition that is written is spelled in one of the three ways. -/
theorem Predicate.Written.spelled
    {mark : QuoteMark}
    {p : Predicate}
    {text : String}
    {values : List Value}
    (isWritten : p.Written mark.text text values)
    (solid : p.Solid) :
    Item.Spelled mark (.test p.normal) text values := by
  cases isWritten with
  | value known written isScalar =>
      obtain ⟨column, rfl⟩ := eq_text_of_quote written
      rw [normal_of_isScalar isScalar]
      exact .value (solid.column column rfl) written known isScalar
  | column known written writtenOther =>
      obtain ⟨column, rfl⟩ := eq_text_of_quote written
      obtain ⟨other, rfl⟩ := eq_text_of_quote writtenOther
      exact .columns (solid.column column rfl) written known (solid.operand other rfl) writtenOther
  | members written listed nonempty areScalars =>
      obtain ⟨column, rfl⟩ := eq_text_of_quote written
      have spelled := Item.Spelled.members (solid.column column rfl) written nonempty areScalars
      rcases listed with rfl | rfl
      · exact spelled
      · exact spelled

mutual

/-- An item is spelled as its normal form, if its columns have no blanks. -/
theorem Item.Written.spelled
    {mark : QuoteMark} :
    ∀ {item : Item} {text : String} {values : List Value},
      item.Written mark.text text values →
      (∀ p ∈ item.predicates, p.Solid) →
      item.normal.Spelled mark text values
  | .test p, _, _, .test written, solid => by
      have solidHere := solid p (by simp [Item.predicates])
      exact written.spelled solidHere
  | .group first others, _, _, .group opening following, solid => by
      rw [Item.normal]
      rw [Item.predicates] at solid
      refine .group (opening.spelled ?_) (following.spelled ?_)
      · intro p member
        exact solid p (List.mem_append_left _ member)
      · intro p member
        exact solid p (List.mem_append_right _ member)

/-- Items that follow are spelled as their normal form, if their columns have no blanks. -/
theorem Chain.Written.spelled
    {mark : QuoteMark} :
    ∀ {chain : Chain} {text : String} {values : List Value},
      chain.Written mark.text text values →
      (∀ p ∈ chain.predicates, p.Solid) →
      chain.normal.Spelled mark text values
  | .nil, _, _, .nil, _ => by
      rw [Chain.normal]
      exact .nil
  | .cons c item others, _, _, .cons opening following, solid => by
      rw [Chain.normal]
      rw [Chain.predicates] at solid
      refine .cons (opening.spelled ?_) (following.spelled ?_)
      · intro p member
        exact solid p (List.mem_append_left _ member)
      · intro p member
        exact solid p (List.mem_append_right _ member)

end

/-- A filter whose columns have no blanks is spelled as its normal form, if it is compiled. -/
theorem compile_spelled
    (mark : QuoteMark)
    {filters : Value}
    (solid : ∀ p ∈ predicatesOf filters, p.Solid) :
    (compile mark.text filters).Yields fun condition params =>
      ∃ first others,
        normalOf? filters = some (.group first others) ∧
          (Item.group first others).Spelled mark condition params := by
  apply (compile_effective mark.text filters).mono
  intro condition params effective
  obtain ⟨entries, first, others, parsed, isItem, written, same⟩ := effective.written
  rw [← same] at solid
  refine ⟨first.normal, others.normal, ?_, written.spelled solid⟩
  unfold normalOf?
  rw [parsed]
  dsimp only
  rw [isItem]
  rfl

/-- Placeholders consist of question marks and commas. -/
theorem eq_of_mem_placeholders
    {count : Nat}
    {c : Char}
    (member : c ∈ (placeholders count).toList) :
    c = '?' ∨ c = ',' := by
  have question : placeholder.toList = ['?'] := by decide
  have comma : ",".toList = [','] := by decide
  rw [placeholders, String.toList_intercalate, List.map_replicate, question, comma] at member
  induction count with
  | zero =>
      simp [List.intercalate] at member
  | succ count inductionHypothesis =>
      cases count with
      | zero =>
          exact .inl (by simpa [List.intercalate] using member)
      | succ count =>
          rw [List.replicate_succ, List.replicate_succ, List.intercalate_cons_cons] at member
          rw [List.replicate_succ] at inductionHypothesis
          rcases List.mem_append.mp member with inFirst | inOthers
          · rcases List.mem_append.mp inFirst with isMark | isComma
            · exact .inl (List.mem_singleton.mp isMark)
            · exact .inr (List.mem_singleton.mp isComma)
          · exact inductionHypothesis inOthers

/-- The number of open parentheses after a character; none if it closes one that is not open. -/
def nextDepth
    (depth : Nat)
    (c : Char) :
    Option Nat :=
  if c = '(' then
    some (depth + 1)
  else if c = ')' then
    match depth with
    | 0 => none
    | outer + 1 => some outer
  else
    some depth

/-- The number of open parentheses after a text. -/
def depthAfter
    (depth : Nat)
    (s : List Char) :
    Option Nat :=
  s.foldlM nextDepth depth

/-- Every parenthesis of the text is closed, and none is closed that is not open. -/
def Balanced (text : String) : Prop :=
  depthAfter 0 text.toList = some 0

/-- The text closes the parentheses that it opens, at any depth. -/
def Nested (text : String) : Prop :=
  ∀ depth, depthAfter depth text.toList = some depth

namespace Nested

theorem append
    {first second : String}
    (opening : Nested first)
    (closing : Nested second) :
    Nested (first ++ second) := by
  intro depth
  have between : first.toList.foldlM nextDepth depth = some depth := opening depth
  rw [String.toList_append, depthAfter, List.foldlM_append, between]
  exact closing depth

/-- A text without parentheses opens none. -/
theorem of_not_mem
    {text : String}
    (unopened : '(' ∉ text.toList)
    (unclosed : ')' ∉ text.toList) :
    Nested text := by
  intro depth
  unfold depthAfter
  generalize text.toList = s at unopened unclosed
  induction s with
  | nil =>
      rfl
  | cons c rest inductionHypothesis =>
      rw [List.mem_cons, not_or] at unopened unclosed
      have kept : nextDepth depth c = some depth := by
        simp [nextDepth, Ne.symm unopened.1, Ne.symm unclosed.1]
      rw [List.foldlM_cons, kept]
      exact inductionHypothesis unopened.2 unclosed.2

theorem parenthesized
    {inner : String}
    (nested : Nested inner) :
    Nested ("(" ++ inner ++ ")") := by
  intro depth
  have between : inner.toList.foldlM nextDepth (depth + 1) = some (depth + 1) := nested (depth + 1)
  have opened : nextDepth depth '(' = some (depth + 1) := rfl
  have closed : nextDepth (depth + 1) ')' = some depth := rfl
  simp [depthAfter, List.foldlM_append, opened, between, closed]

/-- A quoted name without blanks has no parentheses. -/
theorem quoted
    {mark : QuoteMark}
    {name written : String}
    (solid : Solid name)
    (accepted : Identifier.quote mark.text (.text name) = .ok written) :
    Nested written := by
  have unbroken := (Identifier.quotedAs_of_quote mark solid accepted).1.unbroken
  apply of_not_mem
  · exact fun opening => absurd (unbroken _ opening) (by decide)
  · exact fun closing => absurd (unbroken _ closing) (by decide)

theorem operator
    {name : String}
    (known : name ∈ operators) :
    Nested name := by
  have all : ∀ name ∈ operators, '(' ∉ name.toList ∧ ')' ∉ name.toList := by decide
  exact of_not_mem (all name known).1 (all name known).2

/-- A condition has only the parentheses of its operand. -/
theorem condition
    {mark : QuoteMark}
    {column quoted : String}
    (solid : Solid column)
    (written : Identifier.quote mark.text (.text column) = .ok quoted)
    {operator operand : String}
    (known : operator ∈ operators)
    (nested : Nested operand) :
    Nested (quoted ++ " " ++ operator ++ " " ++ operand) := by
  have space : Nested " " := .of_not_mem (by decide) (by decide)
  have opened := (Nested.quoted solid written).append space
  exact ((opened.append (.operator known)).append space).append nested

end Nested

mutual

/-- The parentheses of an item are balanced. -/
theorem Item.Spelled.nested
    {mark : QuoteMark} :
    ∀ {item : Item} {text : String} {values : List Value},
      item.Spelled mark text values →
      Nested text
  | _, _, _, .value solid written known _ =>
      .condition solid written known (.of_not_mem (by decide) (by decide))
  | _, _, values, .members solid written _ _ => by
      have marks : Nested (placeholders values.length) := by
        apply Nested.of_not_mem
        · exact fun opening => by simpa using eq_of_mem_placeholders opening
        · exact fun closing => by simpa using eq_of_mem_placeholders closing
      have keyword : Nested " IN " := .of_not_mem (by decide) (by decide)
      have listed := ((Nested.quoted solid written).append keyword).append marks.parenthesized
      have split : " IN (" = " IN " ++ "(" := by decide
      rw [split]
      simpa only [String.append_assoc] using listed
  | _, _, _, .columns solid written known solidOther writtenOther =>
      .condition solid written known (.quoted solidOther writtenOther)
  | _, _, _, .group opening following => by
      have inner := (opening.nested.append following.nested).parenthesized
      simpa [String.append_assoc] using inner

/-- The parentheses of items that follow are balanced. -/
theorem Chain.Spelled.nested
    {mark : QuoteMark} :
    ∀ {chain : Chain} {text : String} {values : List Value},
      chain.Spelled mark text values →
      Nested text
  | _, _, _, .nil =>
      .of_not_mem (by decide) (by decide)
  | .cons c _ _, _, _, .cons opening following => by
      have keyword : Nested (" " ++ c.keyword ++ " ") := by
        cases c <;> exact .of_not_mem (by decide) (by decide)
      exact (keyword.append opening.nested).append following.nested

end

end QueryComposer.Filter
