import QueryComposer.Proofs.Filter.Written

namespace QueryComposer.Filter

/-!
# Filters in normal form

The items of a filter are its conditions and its nested filters, each but the first with the
connective that holds for it: the last one that stands between it and the item before it, or
"AND". `itemOf?` brings an entry into this form. A nested filter in normal form has at least one
item, so that its parentheses are never empty.

`Item.Written` says how an item is written, and with which values, each of its conditions in one of
the three ways of `Predicate.Written`. What is compiled successfully is written as its normal form
is, which has the conditions of the literal, each of them once and in their order.
-/

mutual

/-- A condition, or a nested filter with its first item and those that follow. -/
inductive Item where
  | test (p : Predicate)
  | group (first : Item) (others : Chain)

/-- The items that follow another one, each with the connective before it. -/
inductive Chain where
  | nil
  | cons (c : Connective) (item : Item) (others : Chain)

end

mutual

/-- The normal form of an entry; connectives and values that are no entries have none. -/
def itemOf? : Entry → Option Item
  | .predicate p => some (.test p)
  | .connective _ => none
  | .group [] => none
  | .group (first :: rest) => do
      let item ← itemOf? first
      let others ← chainOf? .and rest
      return .group item others
  | .stray _ => none

/-- The normal form of the entries after an item, given the connective that holds for the next. -/
def chainOf?
    (lead : Connective) :
    List Entry →
    Option Chain
  | [] => some .nil
  | .connective c :: rest => chainOf? c rest
  | entry :: rest => do
      let item ← itemOf? entry
      let others ← chainOf? .and rest
      return .cons lead item others

end

mutual

/-- The conditions of an item, in order. -/
def Item.predicates : Item → List Predicate
  | .test p => [p]
  | .group first others => first.predicates ++ others.predicates

/-- The conditions of the items that follow, in order. -/
def Chain.predicates : Chain → List Predicate
  | .nil => []
  | .cons _ item others => item.predicates ++ others.predicates

end

/-- An item has a condition, however deep it is nested. -/
theorem Item.predicates_ne_nil : ∀ item : Item, item.predicates ≠ []
  | .test p => by
      simp [Item.predicates]
  | .group first others => by
      have inFirst := Item.predicates_ne_nil first
      simp [Item.predicates, inFirst]

mutual

/-- An item is written as a text with the values of its placeholders. -/
inductive Item.Written (delimiter : String) : Item → String → List Value → Prop where
  | test
      {p : Predicate}
      {text : String}
      {values : List Value}
      (written : p.Written delimiter text values) :
      Item.Written delimiter (.test p) text values
  | group
      {first : Item}
      {others : Chain}
      {text texts : String}
      {values more : List Value}
      (opening : first.Written delimiter text values)
      (following : others.Written delimiter texts more) :
      Item.Written delimiter (.group first others) ("(" ++ text ++ texts ++ ")") (values ++ more)

/-- The items that follow are written one after the other, each behind its connective. -/
inductive Chain.Written (delimiter : String) : Chain → String → List Value → Prop where
  | nil :
      Chain.Written delimiter .nil "" []
  | cons
      {c : Connective}
      {item : Item}
      {others : Chain}
      {text texts : String}
      {values more : List Value}
      (opening : item.Written delimiter text values)
      (following : others.Written delimiter texts more) :
      Chain.Written delimiter
        (.cons c item others)
        (" " ++ c.keyword ++ " " ++ text ++ texts)
        (values ++ more)

end

/-- An entry that is no connective goes before the normal form of the others. -/
theorem chainOf?_cons
    (lead : Connective)
    {entry : Entry}
    (noConnective : ∀ c, entry ≠ .connective c)
    (rest : List Entry) :
    chainOf? lead (entry :: rest) = do
      let item ← itemOf? entry
      let others ← chainOf? .and rest
      return .cons lead item others := by
  cases entry with
  | connective c =>
      exact absurd rfl (noConnective c)
  | _ =>
      rfl

/-- The text of an entry is the text of an item of that normal form. -/
def WrittenAs
    (delimiter : String)
    (entry : Entry)
    (text : String)
    (values : List Value) : Prop :=
  ∃ item, itemOf? entry = some item ∧ item.Written delimiter text values

/-- The text of entries that follow an item is the text of their normal form. -/
def ChainWrittenAs
    (delimiter : String)
    (lead : Connective)
    (entries : List Entry)
    (text : String)
    (values : List Value) : Prop :=
  ∃ chain, chainOf? lead entries = some chain ∧ chain.Written delimiter text values

/-- An entry that follows an item is written behind its connective and before the others. -/
theorem chainWrittenAs_cons
    {delimiter : String}
    {entry : Entry}
    {rest : List Entry}
    (noConnective : ∀ c, entry ≠ .connective c)
    (lead : Connective)
    (opening : (compileEntry delimiter entry).Yields (WrittenAs delimiter entry))
    (following :
      (compileEntries delimiter (some .and) rest).Yields (ChainWrittenAs delimiter .and rest)) :
    (compileEntries delimiter (some lead) (entry :: rest)).Yields
      (ChainWrittenAs delimiter lead (entry :: rest)) := by
  rw [compileEntries_cons delimiter (.inr noConnective)]
  apply opening.bind
  rintro text values ⟨item, normal, written⟩
  apply following.bind
  rintro texts more ⟨others, normalOthers, writtenOthers⟩
  have chained : chainOf? lead (entry :: rest) = some (.cons lead item others) := by
    rw [chainOf?_cons lead noConnective, normal, normalOthers]
    rfl
  refine .pure ⟨.cons lead item others, chained, ?_⟩
  rw [List.append_nil]
  exact .cons written writtenOthers

/-- A nested filter is written between parentheses, its first entry before the others. -/
theorem writtenAs_group
    {delimiter : String}
    {first : Entry}
    {rest : List Entry}
    (opening : (compileEntry delimiter first).Yields (WrittenAs delimiter first))
    (following :
      (compileEntries delimiter (some .and) rest).Yields (ChainWrittenAs delimiter .and rest)) :
    (compileEntry delimiter (.group (first :: rest))).Yields
      (WrittenAs delimiter (.group (first :: rest))) := by
  rw [compileEntry, compileEntries_cons delimiter (.inl rfl)]
  · have inner :
        (do
          let text ← compileEntry delimiter first
          let texts ← compileEntries delimiter (some .and) rest
          return joint none ++ text ++ texts : Binding String).Yields fun text values =>
            WrittenAs delimiter (.group (first :: rest)) ("(" ++ text ++ ")") values := by
      apply opening.bind
      rintro text values ⟨item, normal, written⟩
      apply following.bind
      rintro texts more ⟨others, normalOthers, writtenOthers⟩
      have grouped : itemOf? (.group (first :: rest)) = some (.group item others) := by
        rw [itemOf?, normal, normalOthers]
        rfl
      refine .pure ⟨.group item others, grouped, ?_⟩
      rw [List.append_nil]
      simpa [joint, String.append_assoc] using Item.Written.group written writtenOthers
    apply inner.bind
    intro text values written
    rw [← List.append_nil values] at written
    exact .pure written
  · simp

mutual

/-- A compiled entry is written as its normal form. -/
theorem compileEntry_written
    (delimiter : String) :
    ∀ entry : Entry, (compileEntry delimiter entry).Yields (WrittenAs delimiter entry)
  | .predicate p => by
      rw [compileEntry]
      apply (compilePredicate_written delimiter p).mono
      intro text values written
      exact ⟨.test p, rfl, .test written⟩
  | .connective _ => by
      rw [compileEntry]
      exact .throw _
  | .group [] => by
      rw [compileEntry]
      exact .throw _
  | .group (first :: rest) =>
      writtenAs_group
        (compileEntry_written delimiter first)
        (compileEntries_written delimiter .and rest)
  | .stray _ => by
      rw [compileEntry]
      exact .throw _

/-- Compiled entries that follow an item are written as their normal form. -/
theorem compileEntries_written
    (delimiter : String)
    (lead : Connective) :
    ∀ entries : List Entry,
      (compileEntries delimiter (some lead) entries).Yields (ChainWrittenAs delimiter lead entries)
  | [] => by
      rw [compileEntries]
      exact .pure ⟨.nil, rfl, .nil⟩
  | entry :: rest => by
      by_cases isConnective : ∃ c, entry = .connective c
      · obtain ⟨c, rfl⟩ := isConnective
        rw [compileEntries]
        exact compileEntries_written delimiter c rest
      · exact chainWrittenAs_cons (not_exists.mp isConnective) lead
          (compileEntry_written delimiter entry)
          (compileEntries_written delimiter .and rest)

end

end QueryComposer.Filter
