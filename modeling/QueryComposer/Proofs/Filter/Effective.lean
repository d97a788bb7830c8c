import QueryComposer.Proofs.Filter.Normal
import QueryComposer.Proofs.Success

namespace QueryComposer.Filter

/-!
# Filters that have an effect

A filter is `Vacant` if it is left out or has no entries. Any other filter is refused, or compiled
into an `Effective` condition: one that has all conditions of the filter, in their order.

Which conditions a literal has is said by `predicatesOf`, without regard to how it is parsed.
-/

/-- The filter is left out or has no entries. -/
def Vacant (filters : Value) : Prop :=
  filters = .null ∨ parse filters = .ok []

/-- The conditions of a mapping: one for each key. -/
def pairPredicates : List (Value × Value) → List Predicate
  | [] => []
  | (.text key, operand) :: rest => Predicate.ofKey key operand :: pairPredicates rest
  | _ :: rest => pairPredicates rest

mutual

/-- The conditions of a literal at any depth, in the order in which they are given. -/
def predicatesOf : Value → List Predicate
  | .map pairs => pairPredicates pairs
  | .list items
  | .tuple items
  | .group items => predicatesOfAll items
  | .predicate column operator operand => [⟨column, operator, operand⟩]
  | _ => []

/-- The conditions of several literals. -/
def predicatesOfAll : List Value → List Predicate
  | [] => []
  | item :: rest => predicatesOf item ++ predicatesOfAll rest

end

/--
The condition of a filter: its text and values, and how they come from the filter.

It is what the filter is compiled to. It is written as the normal form of the filter is, which has
all conditions of the filter, each of them once, in their order and `Written` as conditions are.
-/
structure Effective
    (delimiter : String)
    (filters : Value)
    (condition : String)
    (params : List Value) : Prop where
  compiled :
    (compile delimiter filters).collect = .ok (condition, params)
  written :
    ∃ entries first others,
      parse filters = .ok entries ∧
        itemOf? (.group entries) = some (.group first others) ∧
        (Item.group first others).Written delimiter condition params ∧
        (Item.group first others).predicates = predicatesOf filters
  nonempty :
    predicatesOf filters ≠ []

theorem predicatesOfAll_append (items others : List Value) :
    predicatesOfAll (items ++ others) = predicatesOfAll items ++ predicatesOfAll others := by
  induction items with
  | nil =>
      simp [predicatesOfAll]
  | cons item rest inductionHypothesis =>
      simp [predicatesOfAll, inductionHypothesis]

theorem toValues_append (entries others : List Entry) :
    Entry.toValues (entries ++ others) = Entry.toValues entries ++ Entry.toValues others := by
  induction entries with
  | nil =>
      simp [Entry.toValues]
  | cons entry rest inductionHypothesis =>
      simp [Entry.toValues, inductionHypothesis]

/-- The entries of a mapping have its conditions. -/
theorem predicatesOfAll_of_parsePairs
    {pairs : List (Value × Value)}
    {entries : List Entry}
    (parsed : parsePairs pairs = .ok entries) :
    predicatesOfAll (Entry.toValues entries) = pairPredicates pairs := by
  induction pairs generalizing entries with
  | nil =>
      cases parsed
      rfl
  | cons pair rest inductionHypothesis =>
      rcases pair with ⟨key, operand⟩
      cases key with
      | text key =>
          rw [parsePairs] at parsed
          obtain ⟨others, parsedOthers, made⟩ := Success.bind_eq_ok_iff.mp parsed
          cases made
          have following := inductionHypothesis parsedOthers
          simp [Entry.toValues, Entry.toValue, predicatesOfAll, predicatesOf, pairPredicates,
            following]
      | _ =>
          cases parsed

mutual

/-- The entries of a literal have its conditions. -/
theorem predicatesOfAll_of_parseEntry :
    ∀ (literal : Value) {entries : List Entry},
      parseEntry literal = .ok entries →
      predicatesOfAll (Entry.toValues entries) = predicatesOf literal
  | .text word, entries, parsed => by
      rw [parseEntry] at parsed
      split at parsed
      · cases parsed
        rfl
      · cases parsed
  | .map pairs, entries, parsed => by
      rw [parseEntry] at parsed
      exact predicatesOfAll_of_parsePairs parsed
  | .list items, entries, parsed
  | .tuple items, entries, parsed => by
      rw [parseEntry] at parsed
      obtain ⟨inner, parsedItems, made⟩ := Success.bind_eq_ok_iff.mp parsed
      cases made
      have nested := predicatesOfAll_of_parseItems items parsedItems
      simp [Entry.toValues, Entry.toValue, predicatesOfAll, predicatesOf, nested]
  | .group items, entries, parsed => by
      rw [parseEntry] at parsed
      cases parsed
      simp [Entry.toValues, Entry.toValue, predicatesOfAll, predicatesOf]
  | .predicate column operator operand, entries, parsed => by
      rw [parseEntry] at parsed
      cases parsed
      rfl
  | .connective c, entries, parsed => by
      rw [parseEntry] at parsed
      cases parsed
      rfl
  | .null, _, parsed
  | .bool _, _, parsed
  | .int _, _, parsed
  | .float _, _, parsed
  | .bytes _, _, parsed
  | .decimal _, _, parsed
  | .uuid _, _, parsed
  | .date _, _, parsed
  | .datetime _ _, _, parsed
  | .time _, _, parsed
  | .foreign _ _, _, parsed
  | .set _, _, parsed
  | .column _, _, parsed
  | .prepared _ _, _, parsed => by
      cases parsed

/-- The entries of a list of literals have the conditions of all of them. -/
theorem predicatesOfAll_of_parseItems :
    ∀ (items : List Value) {entries : List Entry},
      parseItems items = .ok entries →
      predicatesOfAll (Entry.toValues entries) = predicatesOfAll items
  | [], entries, parsed => by
      rw [parseItems] at parsed
      cases parsed
      rfl
  | item :: rest, entries, parsed => by
      rw [parseItems] at parsed
      obtain ⟨first, parsedFirst, parsed⟩ := Success.bind_eq_ok_iff.mp parsed
      obtain ⟨others, parsedOthers, made⟩ := Success.bind_eq_ok_iff.mp parsed
      cases made
      rw [toValues_append, predicatesOfAll_append, predicatesOfAll,
        predicatesOfAll_of_parseEntry item parsedFirst,
        predicatesOfAll_of_parseItems rest parsedOthers]

end

/-- The entries of a filter have its conditions. -/
theorem predicatesOfAll_of_parse
    {filters : Value}
    {entries : List Entry}
    (parsed : parse filters = .ok entries) :
    predicatesOfAll (Entry.toValues entries) = predicatesOf filters := by
  cases filters with
  | group items =>
      cases parsed
      simp [predicatesOf]
  | map pairs =>
      exact predicatesOfAll_of_parsePairs parsed
  | predicate column operator operand =>
      cases parsed
      rfl
  | list items
  | tuple items =>
      exact predicatesOfAll_of_parseItems items parsed
  | _ =>
      cases parsed

mutual

/-- The normal form of an entry has its conditions. -/
theorem predicates_of_itemOf? :
    ∀ (entry : Entry) {item : Item},
      itemOf? entry = some item →
      item.predicates = predicatesOf entry.toValue
  | .predicate p, item, normal => by
      rw [itemOf?] at normal
      cases normal
      rfl
  | .group (first :: rest), item, normal => by
      rw [itemOf?] at normal
      obtain ⟨firstItem, normalFirst, normal⟩ := Option.bind_eq_some_iff.mp normal
      obtain ⟨others, normalOthers, made⟩ := Option.bind_eq_some_iff.mp normal
      cases made
      rw [Item.predicates, predicates_of_itemOf? first normalFirst,
        predicates_of_chainOf? .and rest normalOthers]
      simp [Entry.toValue, Entry.toValues, predicatesOf, predicatesOfAll]
  | .connective _, _, normal
  | .group [], _, normal
  | .stray _, _, normal => by
      rw [itemOf?] at normal
      cases normal

/-- The normal form of entries that follow an item has their conditions. -/
theorem predicates_of_chainOf? :
    ∀ (lead : Connective) (entries : List Entry) {chain : Chain},
      chainOf? lead entries = some chain →
      chain.predicates = predicatesOfAll (Entry.toValues entries)
  | _, [], chain, normal => by
      rw [chainOf?] at normal
      cases normal
      rfl
  | lead, entry :: rest, chain, normal => by
      by_cases isConnective : ∃ c, entry = .connective c
      · obtain ⟨c, rfl⟩ := isConnective
        rw [chainOf?] at normal
        rw [predicates_of_chainOf? c rest normal]
        simp [Entry.toValues, Entry.toValue, predicatesOfAll, predicatesOf]
      · rw [chainOf?_cons lead (not_exists.mp isConnective)] at normal
        obtain ⟨item, normalItem, normal⟩ := Option.bind_eq_some_iff.mp normal
        obtain ⟨others, normalOthers, made⟩ := Option.bind_eq_some_iff.mp normal
        cases made
        rw [Chain.predicates, predicates_of_itemOf? entry normalItem,
          predicates_of_chainOf? .and rest normalOthers, Entry.toValues, predicatesOfAll]

end

/-- What is put together from conditions only appends to what is bound before it. -/
theorem appends_compositional (delimiter : String) :
    Compositional delimiter Binding.Appends where
  predicate := compilePredicate_appends delimiter
  refusal _ := .throw _
  nothing := .pure ""
  nested inner appends := by
    apply appends.bind
    intro text
    exact .pure _
  joined lead first others appends appendsOthers := by
    apply appends.bind
    intro text
    apply appendsOthers.bind
    intro texts
    exact .pure _

/-- Compiling a filter only appends to what is bound before it. -/
theorem compile_appends
    (delimiter : String)
    (filters : Value) :
    (compile delimiter filters).Appends := by
  apply (Binding.Appends.lift _).bind
  intro entries
  exact (appends_compositional delimiter).compileGroup entries

/-- A compiled filter is written as the normal form of its entries. -/
theorem compile_written
    (delimiter : String)
    (filters : Value) :
    (compile delimiter filters).Yields fun condition params =>
      ∃ entries,
        parse filters = .ok entries ∧ WrittenAs delimiter (.group entries) condition params := by
  unfold compile
  apply Binding.Yields.lift_bind
  intro entries parsed
  have written := compileEntry_written delimiter (.group entries)
  cases entries with
  | nil =>
      exact .throw _
  | cons first rest =>
      rw [compileEntry] at written
      · apply written.mono
        intro condition params writtenAs
        exact ⟨first :: rest, parsed, writtenAs⟩
      · simp

/-- The normal form of a nested filter is a nested filter. -/
theorem eq_group_of_itemOf?
    {entries : List Entry}
    {item : Item}
    (normal : itemOf? (.group entries) = some item) :
    ∃ first others, item = .group first others := by
  cases entries with
  | nil =>
      rw [itemOf?] at normal
      cases normal
  | cons first rest =>
      rw [itemOf?] at normal
      obtain ⟨firstItem, _, normal⟩ := Option.bind_eq_some_iff.mp normal
      obtain ⟨others, _, made⟩ := Option.bind_eq_some_iff.mp normal
      cases made
      exact ⟨firstItem, others, rfl⟩

/-- A filter that is compiled is an effective condition. -/
theorem effective_of_compile
    {delimiter : String}
    {filters : Value}
    {condition : String}
    {params : List Value}
    (compiled : (compile delimiter filters).collect = .ok (condition, params)) :
    Effective delimiter filters condition params := by
  obtain ⟨entries, parsed, item, normal, written⟩ :=
    (compile_written delimiter filters).of_collect compiled
  have same : item.predicates = predicatesOf filters := by
    rw [predicates_of_itemOf? _ normal, Entry.toValue, predicatesOf,
      predicatesOfAll_of_parse parsed]
  have nonempty : predicatesOf filters ≠ [] := by
    rw [← same]
    exact item.predicates_ne_nil
  obtain ⟨first, others, rfl⟩ := eq_group_of_itemOf? normal
  exact ⟨compiled, ⟨entries, first, others, parsed, normal, written, same⟩, nonempty⟩

/-- A compiled filter yields an effective condition. -/
theorem compile_effective
    (delimiter : String)
    (filters : Value) :
    (compile delimiter filters).Yields (Effective delimiter filters) := by
  apply (compile_appends delimiter filters).yields_collected.mono
  intro condition params compiled
  exact effective_of_compile compiled

/-- Whether a filter is empty can be told exactly if it can be parsed. -/
theorem vacant_iff_of_isEmpty
    {filters : Value}
    {vacant : Bool}
    (decided : isEmpty filters = .ok vacant) :
    vacant = true ↔ Vacant filters := by
  unfold isEmpty at decided
  split at decided
  · cases decided
    simp [Vacant]
  · next notNull =>
    obtain ⟨entries, parsed, rfl⟩ := Success.map_eq_ok_iff.mp decided
    have given : filters ≠ .null := fun isNull => notNull isNull
    simp [Vacant, given, parsed]

theorem isEmpty_of_vacant
    {filters : Value}
    (vacant : Vacant filters) :
    isEmpty filters = .ok true := by
  rcases vacant with isNull | parsed
  · rw [isNull]
    rfl
  · unfold isEmpty
    split
    · rfl
    · rw [parsed]
      rfl

theorem predicatesOf_of_vacant
    {filters : Value}
    (vacant : Vacant filters) :
    predicatesOf filters = [] := by
  rcases vacant with isNull | parsed
  · rw [isNull]
    rfl
  · rw [← predicatesOfAll_of_parse parsed]
    rfl

end QueryComposer.Filter
