import QueryComposer.Proofs.Filter.Placed
import QueryComposer.Proofs.Filter.Spelled

namespace QueryComposer.Filter

/-!
# Filters can be read back

`readItem?` reads an item from the start of a text and takes the values of its placeholders from
the values that are given. Whatever is spelled as an item is read as that item. So a compiled
filter whose columns have no blanks is known up to its normal form from its text and its
parameters, and no two filters that differ in normal form are compiled into the same text and
parameters.
-/

section Readers

variable {α : Type}

/-- Read whichever of some words the text starts with. -/
def readWord?
    (spelling : α → String)
    (words : List α)
    (text : List Char) :
    Option (α × List Char) := do
  let word ← words.find? fun word => (spelling word).toList.isPrefixOf text
  return (word, text.drop (spelling word).length)

/-- Read a reference to a column, which ends before the first boundary. -/
def readColumn
    (mark : QuoteMark)
    (text : List Char) :
    Value × List Char :=
  let quoted := text.takeWhile (!Identifier.isBoundary ·)
  let name := Identifier.unquote mark.text.toList quoted
  (.text (String.ofList name), text.dropWhile (!Identifier.isBoundary ·))

/-- Read placeholders up to the parenthesis that closes their list, and take their values. -/
def readMembers
    (text : List Char)
    (values : List Value) :
    List Value × List Char × List Value :=
  let count := (text.takeWhile (· != ')')).count '?'
  (values.take count, (text.dropWhile (· != ')')).tail, values.drop count)

/-- Read what a column is compared with: a value or another column. -/
def readOperand?
    (mark : QuoteMark)
    (text : List Char)
    (values : List Value) :
    Option (Value × List Char × List Value) :=
  match text, values with
  | '?' :: _, [] => none
  | '?' :: rest, value :: more => some (value, rest, more)
  | text, values =>
      let (other, rest) := readColumn mark text
      some (.column other, rest, values)

/-- What may stand between a column and its operand; the opening of a list names no operator. -/
def comparisons : List (Option String) :=
  none :: operators.map some

/-- How the text between a column and its operand is spelled. -/
def spellComparison : Option String → String
  | none => " IN ("
  | some operator => " " ++ operator ++ " "

/-- How a connective is spelled between two items. -/
def spellConnective (c : Connective) : String :=
  " " ++ c.keyword ++ " "

/-- Read a condition. -/
def readTest?
    (mark : QuoteMark)
    (text : List Char)
    (values : List Value) :
    Option (Predicate × List Char × List Value) := do
  let (column, text) := readColumn mark text
  let (comparison, text) ← readWord? spellComparison comparisons text
  match comparison with
  | none =>
      let (members, rest, more) := readMembers text values
      return (⟨column, .text defaultOperator, .list members⟩, rest, more)
  | some operator =>
      let (operand, rest, more) ← readOperand? mark text values
      return (⟨column, .text operator, operand⟩, rest, more)

mutual

/-- Read an item in a number of steps. -/
def readItem?
    (mark : QuoteMark)
    (steps : Nat)
    (text : List Char)
    (values : List Value) :
    Option (Item × List Char × List Value) :=
  match steps, text with
  | 0, _ => none
  | steps + 1, '(' :: text => do
      let (first, text, values) ← readItem? mark steps text values
      let (others, text, values) ← readChain? mark steps text values
      return (.group first others, text, values)
  | _ + 1, text => do
      let (p, rest, more) ← readTest? mark text values
      return (.test p, rest, more)

/-- Read the items that follow up to the parenthesis that closes their group. -/
def readChain?
    (mark : QuoteMark)
    (steps : Nat)
    (text : List Char)
    (values : List Value) :
    Option (Chain × List Char × List Value) :=
  match steps, text with
  | 0, _ => none
  | _ + 1, ')' :: rest => some (.nil, rest, values)
  | steps + 1, text => do
      let (c, text) ← readWord? spellConnective [.and, .or] text
      let (item, text, values) ← readItem? mark steps text values
      let (others, text, values) ← readChain? mark steps text values
      return (.cons c item others, text, values)

end

/-- Read the text of a filter and its parameters, both to their end. -/
def read?
    (mark : QuoteMark)
    (condition : String)
    (params : List Value) :
    Option Item :=
  match readItem? mark condition.length condition.toList params with
  | some (item, [], []) => some item
  | _ => none

end Readers

/-- No reference can go on in the text. -/
def Ends (rest : List Char) : Prop :=
  ∀ c ∈ rest.head?, Identifier.isBoundary c = true

/-- A word is read, whatever stands after it, unless it is the start of another word. -/
theorem readWord?_spelled
    {α : Type}
    {spelling : α → String}
    {words : List α}
    (distinct :
      ∀ word ∈ words, ∀ other ∈ words,
        (spelling word).toList <+: (spelling other).toList → word = other)
    {word : α}
    (known : word ∈ words)
    (rest : List Char) :
    readWord? spelling words ((spelling word).toList ++ rest) = some (word, rest) := by
  have found :
      (words.find? fun other =>
        (spelling other).toList.isPrefixOf ((spelling word).toList ++ rest)).isSome := by
    rw [List.find?_isSome]
    exact ⟨word, known, List.isPrefixOf_iff_prefix.mpr (List.prefix_append _ rest)⟩
  obtain ⟨other, isFound⟩ := Option.isSome_iff_exists.mp found
  have same : other = word := by
    have isWord := List.mem_of_find?_eq_some isFound
    have starts := List.find?_some isFound
    rw [List.isPrefixOf_iff_prefix] at starts
    rcases List.prefix_or_prefix_of_prefix starts (List.prefix_append _ rest)
      with shorter | longer
    · exact distinct other isWord word known shorter
    · exact (distinct word known other isWord longer).symm
  rw [same] at isFound
  unfold readWord?
  rw [isFound]
  simp [← String.length_toList]

/-- What stands between a column and its operand is read, whatever stands after it. -/
theorem readWord?_comparison
    {comparison : Option String}
    (known : comparison ∈ comparisons)
    (rest : List Char) :
    readWord? spellComparison comparisons ((spellComparison comparison).toList ++ rest) =
      some (comparison, rest) :=
  readWord?_spelled (by decide) known rest

/-- A connective is read, whatever stands after it. -/
theorem readWord?_connective
    (c : Connective)
    (rest : List Char) :
    readWord? spellConnective [.and, .or] ((spellConnective c).toList ++ rest) =
      some (c, rest) :=
  readWord?_spelled (by decide) (by cases c <;> simp) rest

/-- A quoted name without blanks is read as that name. -/
theorem readColumn_quoted
    {mark : QuoteMark}
    {name quoted : String}
    (solid : Solid name)
    (written : Identifier.quote mark.text (.text name) = .ok quoted)
    {rest : List Char}
    (ends : Ends rest) :
    readColumn mark (quoted.toList ++ rest) = (.text name, rest) := by
  obtain ⟨quotedAs, _⟩ := Identifier.quotedAs_of_quote mark solid written
  have unbroken : ∀ c ∈ quoted.toList, (!Identifier.isBoundary c) = true := by
    intro c member
    rw [quotedAs.unbroken c member]
    rfl
  have boundary : ∀ c ∈ rest.head?, (!Identifier.isBoundary c) = false := by
    intro c isFirst
    rw [ends c isFirst]
    rfl
  unfold readColumn
  rw [Text.takeWhile_append_of_head unbroken boundary,
    Text.dropWhile_append_of_head unbroken boundary]
  dsimp only
  rw [quotedAs.unquoted, String.ofList_toList]

/-- As many values are taken as there are placeholders. -/
theorem readMembers_placeholders
    (members more : List Value)
    (rest : List Char) :
    readMembers ((placeholders members.length).toList ++ ')' :: rest) (members ++ more) =
      (members, rest, more) := by
  have marks :
      ∀ c ∈ (placeholders members.length).toList, (c != ')') = true := by
    intro c member
    rcases eq_of_mem_placeholders member with rfl | rfl <;> decide
  have closed : ∀ c ∈ (')' :: rest).head?, (c != ')') = false := by
    rintro _ ⟨⟩
    rfl
  have counted := (placed_placeholders members.length).total
  unfold readMembers
  rw [Text.takeWhile_append_of_head marks closed, Text.dropWhile_append_of_head marks closed]
  simp [counted]

theorem ends_of_head
    {c : Char}
    (boundary : Identifier.isBoundary c = true)
    (rest : List Char) :
    Ends (c :: rest) := by
  intro first isFirst
  rw [← Option.some.inj isFirst]
  exact boundary

/-- The items that follow start with a space, if there are any. -/
theorem ends_of_spelled
    {mark : QuoteMark}
    {chain : Chain}
    {texts : String}
    {values : List Value}
    (spelled : chain.Spelled mark texts values)
    {rest : List Char}
    (ends : Ends rest) :
    Ends (texts.toList ++ rest) := by
  cases spelled with
  | nil =>
      exact ends
  | cons opening following =>
      simp only [String.toList_append, List.append_assoc]
      exact ends_of_head (c := ' ') (by decide) _

/-- A column is read back with what follows it and the operand. -/
theorem readTest?_of_comparison
    {mark : QuoteMark}
    {column quoted : String}
    (solid : Solid column)
    (written : Identifier.quote mark.text (.text column) = .ok quoted)
    {comparison : Option String}
    (known : comparison ∈ comparisons)
    (text : List Char)
    (values : List Value) :
    readTest? mark (quoted.toList ++ ((spellComparison comparison).toList ++ text)) values =
      match comparison with
      | none =>
          let (members, rest, more) := readMembers text values
          some (⟨.text column, .text defaultOperator, .list members⟩, rest, more)
      | some operator => do
          let (operand, rest, more) ← readOperand? mark text values
          return (⟨.text column, .text operator, operand⟩, rest, more) := by
  have ends : Ends ((spellComparison comparison).toList ++ text) := by
    cases comparison with
    | none =>
        exact ends_of_head (c := ' ') (by decide) _
    | some operator =>
        simp only [spellComparison, String.toList_append, List.append_assoc]
        exact ends_of_head (c := ' ') (by decide) _
  unfold readTest?
  rw [readColumn_quoted solid written ends]
  dsimp only
  rw [readWord?_comparison known]
  cases comparison <;> rfl

/-- A text without a parenthesis in front is read as a condition. -/
theorem readItem?_of_readTest?
    {mark : QuoteMark}
    {text rest : List Char}
    {values more : List Value}
    {p : Predicate}
    (unopened : text.head? ≠ some '(')
    (reads : readTest? mark text values = some (p, rest, more))
    (steps : Nat) :
    readItem? mark (steps + 1) text values = some (.test p, rest, more) := by
  rw [readItem?, reads]
  · rfl
  · rintro others rfl
    exact unopened rfl

/-- A quoted name is no parenthesis. -/
theorem head?_quoted_ne
    {mark : QuoteMark}
    {name quoted : String}
    (solid : Solid name)
    (written : Identifier.quote mark.text (.text name) = .ok quoted)
    {c : Char}
    (boundary : Identifier.isBoundary c = true)
    (rest : List Char) :
    (quoted.toList ++ rest).head? ≠ some c := by
  obtain ⟨quotedAs, nonempty⟩ := Identifier.quotedAs_of_quote mark solid written
  rw [List.head?_append_of_ne_nil _ nonempty]
  intro isFirst
  have member := List.mem_of_mem_head? isFirst
  rw [quotedAs.unbroken c member] at boundary
  cases boundary

/-- A quoted name is read as a column to compare with. -/
theorem readOperand?_quoted
    {mark : QuoteMark}
    {name quoted : String}
    (solid : Solid name)
    (written : Identifier.quote mark.text (.text name) = .ok quoted)
    {rest : List Char}
    (ends : Ends rest)
    (values : List Value) :
    readOperand? mark (quoted.toList ++ rest) values =
      some (.column (.text name), rest, values) := by
  have unmarked := head?_quoted_ne (c := '?') solid written (by decide) rest
  rw [readOperand?, readColumn_quoted solid written ends]
  · intro others isMark
    rw [isMark] at unmarked
    exact fun _ => unmarked rfl
  · intro others value more isMark
    rw [isMark] at unmarked
    exact fun _ => unmarked rfl

theorem some_mem_comparisons
    {operator : String}
    (known : operator ∈ operators) :
    some operator ∈ comparisons :=
  List.mem_cons_of_mem none (List.mem_map_of_mem known)

/-- A spelled condition is read as that condition, in whatever stands after it. -/
theorem readItem?_test
    {mark : QuoteMark}
    {p : Predicate}
    {text : String}
    {values : List Value}
    (spelled : (Item.test p).Spelled mark text values)
    {rest : List Char}
    (ends : Ends rest)
    (more : List Value)
    (steps : Nat) :
    readItem? mark (steps + 1) (text.toList ++ rest) (values ++ more) =
      some (.test p, rest, more) := by
  cases spelled with
  | @value column operator quoted operand solid written known isScalar =>
      have split :
          (quoted ++ " " ++ operator ++ " " ++ placeholder).toList ++ rest =
            quoted.toList ++ ((spellComparison (some operator)).toList ++ '?' :: rest) := by
        simp [spellComparison, placeholder]
      rw [split]
      apply readItem?_of_readTest? (head?_quoted_ne solid written (by decide) _)
      rw [readTest?_of_comparison solid written (some_mem_comparisons known)]
      rfl
  | @members column quoted _ solid written nonempty areScalars =>
      have split :
          (quoted ++ " IN (" ++ placeholders values.length ++ ")").toList ++ rest =
            quoted.toList ++
              ((spellComparison none).toList ++
                ((placeholders values.length).toList ++ ')' :: rest)) := by
        simp [spellComparison]
      rw [split]
      apply readItem?_of_readTest? (head?_quoted_ne solid written (by decide) _)
      rw [readTest?_of_comparison solid written List.mem_cons_self]
      dsimp only
      rw [readMembers_placeholders]
  | @columns column operator other quoted quotedOther solid written known solidOther writtenOther =>
      have split :
          (quoted ++ " " ++ operator ++ " " ++ quotedOther).toList ++ rest =
            quoted.toList ++
              ((spellComparison (some operator)).toList ++ (quotedOther.toList ++ rest)) := by
        simp [spellComparison]
      rw [split]
      apply readItem?_of_readTest? (head?_quoted_ne solid written (by decide) _)
      rw [readTest?_of_comparison solid written (some_mem_comparisons known)]
      dsimp only
      rw [List.nil_append, readOperand?_quoted solidOther writtenOther ends]
      rfl

/-- A spelled condition is no empty text. -/
theorem length_pos_of_test
    {mark : QuoteMark}
    {p : Predicate}
    {text : String}
    {values : List Value}
    (spelled : (Item.test p).Spelled mark text values) :
    0 < text.length := by
  cases spelled <;> simp [← String.length_toList] <;> omega

mutual

/-- A spelled item is read as that item, in whatever stands after it. -/
theorem readItem?_spelled
    {mark : QuoteMark} :
    ∀ {item : Item} {text : String} {values : List Value},
      item.Spelled mark text values →
      ∀ {steps : Nat} {rest : List Char} (more : List Value),
        text.length ≤ steps →
        Ends rest →
        readItem? mark steps (text.toList ++ rest) (values ++ more) = some (item, rest, more)
  | .test p, text, values, spelled, steps, rest, more, enough, ends => by
      have nonempty := length_pos_of_test spelled
      obtain ⟨left, rfl⟩ := Nat.exists_eq_succ_of_ne_zero (n := steps) (by omega)
      exact readItem?_test spelled ends more left
  | .group first others, _, _,
      @Item.Spelled.group _ _ _ text texts values valuesOthers opening following,
      steps, rest, more, enough, ends => by
      have counted : ("(" ++ text ++ texts ++ ")").length = text.length + texts.length + 2 := by
        simp [← String.length_toList]
        omega
      obtain ⟨left, rfl⟩ := Nat.exists_eq_succ_of_ne_zero (n := steps) (by omega)
      have split :
          ("(" ++ text ++ texts ++ ")").toList ++ rest =
            '(' :: (text.toList ++ (texts.toList ++ ')' :: rest)) := by
        simp
      have endsFirst : Ends (texts.toList ++ ')' :: rest) :=
        ends_of_spelled following (ends_of_head (by decide) rest)
      rw [split, List.append_assoc, readItem?,
        readItem?_spelled opening (valuesOthers ++ more) (by omega) endsFirst]
      dsimp only [bind, Option.bind]
      rw [readChain?_spelled following rest more (by omega)]
      rfl

/-- Spelled items that follow are read as those, up to the parenthesis that closes their group. -/
theorem readChain?_spelled
    {mark : QuoteMark} :
    ∀ {chain : Chain} {texts : String} {values : List Value},
      chain.Spelled mark texts values →
      ∀ {steps : Nat} (rest : List Char) (more : List Value),
        texts.length < steps →
        readChain? mark steps (texts.toList ++ ')' :: rest) (values ++ more) =
          some (chain, rest, more)
  | .nil, _, _, .nil, steps, rest, more, enough => by
      obtain ⟨left, rfl⟩ := Nat.exists_eq_succ_of_ne_zero (n := steps) (by omega)
      rfl
  | .cons c item others, _, _,
      @Chain.Spelled.cons _ _ _ _ text texts values valuesOthers opening following,
      steps, rest, more, enough => by
      obtain ⟨left, rfl⟩ := Nat.exists_eq_succ_of_ne_zero (n := steps) (by omega)
      have counted :
          (" " ++ c.keyword ++ " " ++ text ++ texts).length =
            c.keyword.length + text.length + texts.length + 2 := by
        simp [← String.length_toList]
        omega
      have split :
          (" " ++ c.keyword ++ " " ++ text ++ texts).toList ++ ')' :: rest =
            (spellConnective c).toList ++ (text.toList ++ (texts.toList ++ ')' :: rest)) := by
        simp [spellConnective]
      have endsFirst : Ends (texts.toList ++ ')' :: rest) :=
        ends_of_spelled following (ends_of_head (by decide) rest)
      rw [split, List.append_assoc, readChain?, readWord?_connective]
      · dsimp only [bind, Option.bind]
        rw [readItem?_spelled opening (valuesOthers ++ more) (by omega) endsFirst]
        dsimp only
        rw [readChain?_spelled following rest more (by omega)]
        rfl
      · intro others isClosed
        simp [spellConnective] at isClosed

end

/-- What is spelled as an item is read as that item, to the end of the text and the values. -/
theorem read?_spelled
    {mark : QuoteMark}
    {item : Item}
    {condition : String}
    {params : List Value}
    (spelled : item.Spelled mark condition params) :
    read? mark condition params = some item := by
  have noMore : Ends [] := by
    simp [Ends]
  have reads := readItem?_spelled spelled [] le_rfl noMore
  rw [List.append_nil, List.append_nil] at reads
  unfold read?
  rw [reads]

/--
The text of a compiled filter and the parameters that it adds are read as the normal form of the
filter, if no column has blanks in it. The text is balanced and spelled as that normal form, which
is the normal form of every other such filter with this text and these parameters.
-/
theorem read?_of_compile
    (mark : QuoteMark)
    {filters : Value}
    (solid : ∀ p ∈ predicatesOf filters, p.Solid)
    {bound after : List Value}
    {condition : String}
    (compiled : (compile mark.text filters).outcome bound = (.ok condition, after)) :
    ∃ params first others,
      after = bound ++ params ∧
        normalOf? filters = some (.group first others) ∧
        (Item.group first others).Spelled mark condition params ∧
        Balanced condition ∧
        read? mark condition params = some (.group first others) ∧
        ∀ alike boundBefore,
          (∀ p ∈ predicatesOf alike, p.Solid) →
          (compile mark.text alike).outcome boundBefore =
            (.ok condition, boundBefore ++ params) →
          normalOf? alike = some (.group first others) := by
  obtain ⟨params, appended, first, others, isNormal, spelled⟩ :=
    compile_spelled mark solid _ _ _ compiled
  have reads := read?_spelled spelled
  refine ⟨params, first, others, appended, isNormal, spelled, spelled.nested 0, reads, ?_⟩
  intro alike boundBefore solidAlike compiledAlike
  obtain ⟨added, appendedAlike, firstAlike, othersAlike, isNormalAlike, spelledAlike⟩ :=
    compile_spelled mark solidAlike _ _ _ compiledAlike
  rw [← List.append_cancel_left appendedAlike] at spelledAlike
  have readsAlike := read?_spelled spelledAlike
  rw [reads] at readsAlike
  rw [isNormalAlike, ← Option.some.inj readsAlike]

/-- A filter with a nested one, a list of values, an operator of two words and a wildcard. -/
def nestedFilters : Value :=
  .list [
    .map [(.text "g.id", .tuple [.int 1, .int 2])],
    .text "and",
    .text "or",
    .list [
      .map [(.text "name not like", .text "x%")],
      .map [(.text "g.*", .column (.text "owner"))]],
    .text "or"]

/-- The text of the nested filter, in which the last connective before an item holds. -/
def nestedCondition : String :=
  "(\"g\".\"id\" IN (?,?) OR (\"name\" NOT LIKE ? AND \"g\".* = \"owner\"))"

/-- The nested filter is read back from its text and the parameters behind one bound before. -/
theorem read?_of_compile_nested :
    let params : List Value := [.int 1, .int 2, .text "x%"]
    (∀ p ∈ predicatesOf nestedFilters, p.Solid) ∧
      (compile QuoteMark.double.text nestedFilters).outcome [.null] =
        (.ok nestedCondition, .null :: params) ∧
      ∃ first others,
        normalOf? nestedFilters = some (.group first others) ∧
          (Item.group first others).Spelled .double nestedCondition params ∧
          Balanced nestedCondition ∧
          read? .double nestedCondition params = some (.group first others) ∧
          ∀ alike boundBefore,
            (∀ p ∈ predicatesOf alike, p.Solid) →
            (compile QuoteMark.double.text alike).outcome boundBefore =
              (.ok nestedCondition, boundBefore ++ params) →
            normalOf? alike = some (.group first others) := by
  intro params
  have listed :
      predicatesOf nestedFilters =
        [⟨.text "g.id", .text "=", .tuple [.int 1, .int 2]⟩,
          ⟨.text "name", .text "NOT LIKE", .text "x%"⟩,
          ⟨.text "g.*", .text "=", .column (.text "owner")⟩] := by
    rfl
  have solid : ∀ p ∈ predicatesOf nestedFilters, p.Solid := by
    intro p member
    simp only [listed, List.mem_cons, List.not_mem_nil, or_false] at member
    rcases member with rfl | rfl | rfl <;>
      exact ⟨by rintro name ⟨⟩; decide, by rintro name ⟨⟩ <;> decide⟩
  have compiled :
      (compile QuoteMark.double.text nestedFilters).outcome [.null] =
        (.ok nestedCondition, .null :: params) := by
    rfl
  obtain ⟨added, first, others, appended, found⟩ := read?_of_compile .double solid compiled
  have same : params = added := (List.cons.inj appended).2
  rw [← same] at found
  exact ⟨solid, compiled, first, others, found⟩

end QueryComposer.Filter
