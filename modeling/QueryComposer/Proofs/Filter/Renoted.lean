import QueryComposer.Proofs.Filter.Language
import QueryComposer.Proofs.Filter.Spelled

namespace QueryComposer.Filter

/-!
# Ways to write a filter

The same filter can be written as a literal, with tagged entries, or as a group that has been put
together before. `Renoted` says which members of a list may stand in the place of others, at any
depth, and `SameFilter` which literals are ways to write one filter. All of them are parsed to the
same entries, or refused for the same reason, and so they are compiled to the same condition.
-/

/-- The literal is a list or a tuple of the items. -/
def Lists
    (literal : Value)
    (items : List Value) : Prop :=
  literal = .list items ∨ literal = .tuple items

/-- Members of a filter list that may stand in the place of others. -/
inductive Renoted : List Value → List Value → Prop where
  | same (items : List Value) :
      Renoted items items
  | symm
      {items items' : List Value}
      (renoted : Renoted items items') :
      Renoted items' items
  | trans
      {items items' items'' : List Value}
      (first : Renoted items items')
      (second : Renoted items' items'') :
      Renoted items items''
  | append
      {items items' others others' : List Value}
      (before : Renoted items items')
      (after : Renoted others others') :
      Renoted (items ++ others) (items' ++ others')
  /-- A mapping is a mapping for each of its pairs. -/
  | pairs (pairs : List (Value × Value)) :
      Renoted [.map pairs] (pairs.map fun pair => .map [pair])
  /-- A mapping from texts is a condition for each of its keys. -/
  | conditions (pairs : List (String × Value)) :
      Renoted [.map (textPairs pairs)] (Entry.toValues (conditionsOf pairs))
  /-- A nested list is the group of what it is parsed to. -/
  | grouped
      {literal : Value}
      {items : List Value}
      {entries : List Entry}
      (listed : Lists literal items)
      (parsed : parse literal = .ok entries) :
      Renoted [literal] [.group (Entry.toValues entries)]
  | nested
      {literal literal' : Value}
      {items items' : List Value}
      (listed : Lists literal items)
      (listed' : Lists literal' items')
      (within : Renoted items items') :
      Renoted [literal] [literal']

/-- Literals that are ways to write one filter. -/
inductive SameFilter : Value → Value → Prop where
  | symm
      {literal literal' : Value}
      (same : SameFilter literal literal') :
      SameFilter literal' literal
  | trans
      {literal literal' literal'' : Value}
      (first : SameFilter literal literal')
      (second : SameFilter literal' literal'') :
      SameFilter literal literal''
  | members
      {literal literal' : Value}
      {items items' : List Value}
      (listed : Lists literal items)
      (listed' : Lists literal' items')
      (renoted : Renoted items items') :
      SameFilter literal literal'
  | mapping (pairs : List (Value × Value)) :
      SameFilter (.map pairs) (.list [.map pairs])
  | condition (column operator operand : Value) :
      SameFilter
        (.predicate column operator operand)
        (.list [.predicate column operator operand])
  /-- What a list has been parsed to may be parsed again. -/
  | parsed
      {literal : Value}
      {items : List Value}
      {entries : List Entry}
      (listed : Lists literal items)
      (parsed : parse literal = .ok entries) :
      SameFilter literal (.list (Entry.toValues entries))
  | grouped
      {literal : Value}
      {items : List Value}
      {entries : List Entry}
      (listed : Lists literal items)
      (parsed : parse literal = .ok entries) :
      SameFilter literal (.group (Entry.toValues entries))

section Concatenation

/-- The members of two lists are parsed one list after the other. -/
theorem parseItems_append (items others : List Value) :
    parseItems (items ++ others) = do
      let entries ← parseItems items
      let more ← parseItems others
      return entries ++ more := by
  induction items with
  | nil =>
      rw [List.nil_append, parseItems]
      exact (bind_pure _).symm
  | cons item rest inductionHypothesis =>
      rw [List.cons_append, parseItems, parseItems, inductionHypothesis]
      simp only [bind_assoc, pure_bind, List.append_assoc]

theorem parseItems_singleton (item : Value) : parseItems [item] = parseEntry item := by
  rw [parseItems, parseItems]
  cases parseEntry item with
  | error error =>
      rfl
  | ok entries =>
      exact congrArg Except.ok (List.append_nil entries)

theorem parse_of_lists
    {literal : Value}
    {items : List Value}
    (listed : Lists literal items) :
    parse literal = parseItems items := by
  rcases listed with rfl | rfl <;> rfl

theorem parseEntry_of_lists
    {literal : Value}
    {items : List Value}
    (listed : Lists literal items) :
    parseEntry literal = (parseItems items).map fun entries => [.group entries] := by
  rcases listed with rfl | rfl <;> rw [parseEntry] <;> cases parseItems items <;> rfl

end Concatenation

section Rereading

/-- The entry is no stray value, and the value that stands for it is read as the entry. -/
structure Entry.Reread (entry : Entry) : Prop where
  ofValue_toValue :
    Entry.ofValue entry.toValue = entry
  noStray :
    ∀ value, entry ≠ .stray value

theorem ofValues_toValues
    {entries : List Entry}
    (reread : ∀ entry ∈ entries, entry.Reread) :
    Entry.ofValues (Entry.toValues entries) = entries := by
  induction entries with
  | nil =>
      rfl
  | cons entry rest inductionHypothesis =>
      rw [List.forall_mem_cons] at reread
      rw [Entry.toValues, Entry.ofValues, reread.1.ofValue_toValue, inductionHypothesis reread.2]

theorem Entry.Reread.parseEntry_toValue
    {entry : Entry}
    (reread : entry.Reread) :
    parseEntry entry.toValue = .ok [entry] := by
  have read := reread.ofValue_toValue
  cases entry with
  | predicate p =>
      rfl
  | connective c =>
      rfl
  | group entries =>
      rw [Entry.toValue, Entry.ofValue] at read
      rw [Entry.toValue, parseEntry, read]
  | stray value =>
      exact absurd rfl (reread.noStray value)

/-- Entries that can be reread are parsed to themselves. -/
theorem parseItems_toValues
    {entries : List Entry}
    (reread : ∀ entry ∈ entries, entry.Reread) :
    parseItems (Entry.toValues entries) = .ok entries := by
  induction entries with
  | nil =>
      rfl
  | cons entry rest inductionHypothesis =>
      rw [List.forall_mem_cons] at reread
      rw [Entry.toValues, parseItems, reread.1.parseEntry_toValue, inductionHypothesis reread.2]
      rfl

theorem reread_of_conditionsOf (pairs : List (String × Value)) :
    ∀ entry ∈ conditionsOf pairs, entry.Reread := by
  intro entry member
  obtain ⟨pair, _, rfl⟩ := List.mem_map.mp member
  exact ⟨rfl, nofun⟩

theorem reread_group
    {entries : List Entry}
    (reread : Entry.ofValues (Entry.toValues entries) = entries) :
    ∀ entry ∈ [Entry.group entries], entry.Reread := by
  intro entry member
  cases List.mem_singleton.mp member
  refine ⟨?_, nofun⟩
  rw [Entry.toValue, Entry.ofValue, reread]

mutual

theorem reread_of_memberReadAs :
    ∀ {literal : Value} {entries : List Entry},
      MemberReadAs literal entries →
      ∀ entry ∈ entries, entry.Reread
  | _, _, .word _ => by
      rw [List.forall_mem_singleton]
      exact ⟨rfl, nofun⟩
  | _, _, .conditions pairs =>
      reread_of_conditionsOf pairs
  | _, _, .nested _ members =>
      reread_group (ofValues_toValues (reread_of_membersReadAs members))
  | _, _, .condition _ _ _ => by
      rw [List.forall_mem_singleton]
      exact ⟨rfl, nofun⟩
  | _, _, .connective _ => by
      rw [List.forall_mem_singleton]
      exact ⟨rfl, nofun⟩
  | _, _, .group entries =>
      reread_group (congrArg Entry.ofValues (Entry.toValues_ofValues entries))

/-- What the members of a list are read as can be reread. -/
theorem reread_of_membersReadAs :
    ∀ {items : List Value} {entries : List Entry},
      MembersReadAs items entries →
      ∀ entry ∈ entries, entry.Reread
  | _, _, .nil =>
      nofun
  | _, _, .cons first following => by
      rw [List.forall_mem_append]
      exact ⟨reread_of_memberReadAs first, reread_of_membersReadAs following⟩

end

theorem reread_of_parse
    {literal : Value}
    {items : List Value}
    {entries : List Entry}
    (listed : Lists literal items)
    (parsed : parse literal = .ok entries) :
    ∀ entry ∈ entries, entry.Reread := by
  rw [parse_of_lists listed] at parsed
  exact reread_of_membersReadAs (membersReadAs_of_parseItems items parsed)

end Rereading

section Renoting

/-- A mapping is parsed as mappings for each of its pairs are. -/
theorem parseItems_pairs (pairs : List (Value × Value)) :
    parseItems (pairs.map fun pair => .map [pair]) = parsePairs pairs := by
  induction pairs with
  | nil =>
      rfl
  | cons pair rest inductionHypothesis =>
      rcases pair with ⟨key, operand⟩
      rw [List.map_cons, parseItems, parseEntry, inductionHypothesis]
      cases key with
      | text key =>
          rfl
      | _ =>
          rfl

theorem parsePairs_textPairs (pairs : List (String × Value)) :
    parsePairs (textPairs pairs) = .ok (conditionsOf pairs) :=
  parsePairs_eq_ok_iff.mpr ⟨pairs, rfl, rfl⟩

/-- Members that stand in the place of others are parsed as these are. -/
theorem parseItems_of_renoted
    {items items' : List Value}
    (renoted : Renoted items items') :
    parseItems items = parseItems items' := by
  induction renoted with
  | same items =>
      rfl
  | symm _ inductionHypothesis =>
      exact inductionHypothesis.symm
  | trans _ _ first second =>
      exact first.trans second
  | append _ _ before after =>
      rw [parseItems_append, parseItems_append, before, after]
  | pairs pairs =>
      rw [parseItems_singleton, parseEntry, parseItems_pairs]
  | conditions pairs =>
      rw [parseItems_singleton, parseEntry, parsePairs_textPairs,
        parseItems_toValues (reread_of_conditionsOf pairs)]
  | grouped listed parsed =>
      have reread := reread_of_parse listed parsed
      rw [parse_of_lists listed] at parsed
      rw [parseItems_singleton, parseItems_singleton, parseEntry_of_lists listed, parsed,
        parseEntry, ofValues_toValues reread]
      rfl
  | nested listed listed' _ within =>
      rw [parseItems_singleton, parseItems_singleton, parseEntry_of_lists listed,
        parseEntry_of_lists listed', within]

/-- Literals that are ways to write one filter are parsed to the same entries, or not at all. -/
theorem parse_of_sameFilter
    {literal literal' : Value}
    (same : SameFilter literal literal') :
    parse literal = parse literal' := by
  induction same with
  | symm _ inductionHypothesis =>
      exact inductionHypothesis.symm
  | trans _ _ first second =>
      exact first.trans second
  | members listed listed' renoted =>
      rw [parse_of_lists listed, parse_of_lists listed', parseItems_of_renoted renoted]
  | mapping pairs =>
      exact (parseItems_singleton (.map pairs)).symm
  | condition column operator operand =>
      rfl
  | parsed listed parsed =>
      exact parsed.trans (parseItems_toValues (reread_of_parse listed parsed)).symm
  | grouped listed parsed =>
      have read := ofValues_toValues (reread_of_parse listed parsed)
      exact parsed.trans (congrArg Except.ok read.symm)

end Renoting

section Building

/-- A name without blanks is a key for the usual operator. -/
theorem ofKey_of_solid
    {column : String}
    (solid : Solid column)
    (operand : Value) :
    Predicate.ofKey column operand = .equal column operand := by
  have split : splitKey column = (column, defaultOperator) := by
    by_cases empty : column.toList = []
    · rw [String.toList_eq_nil_iff.mp empty]
      decide +kernel
    · exact splitKey_of_bare ⟨empty, solid⟩
  rw [Predicate.ofKey, split]
  rfl

/-- Equalities that follow some entries are a mapping behind them. -/
theorem allOf_eq
    (items : List Value)
    {equalities : List (String × Value)}
    (solid : ∀ pair ∈ equalities, Solid pair.1) :
    allOf items equalities =
      (parse (.list (items ++ [.map (textPairs equalities)]))).map
        fun entries => .group (Entry.toValues entries) := by
  have conditions :
      (equalities.map fun pair => .predicate (Predicate.equal pair.1 pair.2)) =
        conditionsOf equalities := by
    apply List.map_congr_left
    intro pair member
    rw [ofKey_of_solid (solid pair member)]
  rw [parse, parseItems_append, parseItems_singleton, parseEntry, parsePairs_textPairs,
    ← conditions]
  unfold allOf
  cases parseItems items <;> rfl

/-- The filter of some entries and equalities is compiled as the list of them. -/
theorem compile_allOf
    (items : List Value)
    {equalities : List (String × Value)}
    (solid : ∀ pair ∈ equalities, Solid pair.1)
    (delimiter : String) :
    (Binding.lift (allOf items equalities) >>= compile delimiter) =
      compile delimiter (.list (items ++ [.map (textPairs equalities)])) := by
  rw [allOf_eq items solid]
  unfold compile
  cases parsed : parse (.list (items ++ [.map (textPairs equalities)])) with
  | error error =>
      rfl
  | ok entries =>
      have grouped := parse_of_sameFilter (.grouped (.inl rfl) parsed)
      change Binding.lift (parse (.group (Entry.toValues entries))) >>= compileGroup delimiter = _
      rw [← grouped, parsed]

end Building

/--
All ways to write a filter agree. Two lists one behind the other have the entries of the first one
and then those of the second one, and cannot be parsed exactly if one of them cannot. Literals that
are ways to write one filter are parsed to the same entries and compiled to the same condition, or
refused for the same reason. And a filter that is made of entries and of equalities, under names
without blanks, is the group of what the list of the entries and a mapping is parsed to.
-/
theorem filters_agree :
    (∀ items others : List Value,
      parse (.list (items ++ others)) = (do
          let entries ← parse (.list items)
          let more ← parse (.list others)
          return entries ++ more) ∧
        ((∃ error, parse (.list (items ++ others)) = .error error) ↔
          (∃ error, parse (.list items) = .error error) ∨
            ∃ error, parse (.list others) = .error error)) ∧
      (∀ literal literal' : Value,
        SameFilter literal literal' →
        parse literal = parse literal' ∧
          ∀ delimiter, compile delimiter literal = compile delimiter literal') ∧
      ∀ (items : List Value) (equalities : List (String × Value)),
        (∀ pair ∈ equalities, Solid pair.1) →
        allOf items equalities =
            (parse (.list (items ++ [.map (textPairs equalities)]))).map
              (fun entries => .group (Entry.toValues entries)) ∧
          ∀ delimiter,
            (Binding.lift (allOf items equalities) >>= compile delimiter) =
              compile delimiter (.list (items ++ [.map (textPairs equalities)])) := by
  refine ⟨fun items others => ?_, fun literal literal' same => ?_,
    fun items equalities solid => ⟨allOf_eq items solid, compile_allOf items solid⟩⟩
  · have appended := parseItems_append items others
    refine ⟨appended, ?_⟩
    change (∃ error, parseItems (items ++ others) = .error error) ↔
      (∃ error, parseItems items = .error error) ∨ ∃ error, parseItems others = .error error
    rw [appended]
    cases parseItems items with
    | error error =>
        exact ⟨fun _ => .inl ⟨error, rfl⟩, fun _ => ⟨error, rfl⟩⟩
    | ok entries =>
        cases parseItems others with
        | error error =>
            exact ⟨fun _ => .inr ⟨error, rfl⟩, fun _ => ⟨error, rfl⟩⟩
        | ok more =>
            constructor
            · rintro ⟨_, failed⟩
              cases failed
            · rintro (⟨_, failed⟩ | ⟨_, failed⟩) <;> cases failed
  · have parsed := parse_of_sameFilter same
    refine ⟨parsed, fun delimiter => ?_⟩
    rw [compile, compile, parsed]

/-- A filter as a literal with a mapping and with a nested list. -/
def literalFilters : List Value :=
  [.map [(.text "g.id", .int 1), (.text "name like", .text "x")],
    .text "or",
    .tuple [.map [(.text "id", .null)]]]

/-- The same filter with tagged entries. -/
def taggedFilters : List Value :=
  [.predicate (.text "g.id") (.text "=") (.int 1),
    .predicate (.text "name") (.text "LIKE") (.text "x"),
    .text "or",
    .group [.predicate (.text "id") (.text "=") .null]]

/-- A literal with tagged entries in the place of a mapping and of a nested list is the same. -/
theorem filters_agree_tagged :
    SameFilter (.list literalFilters) (.list taggedFilters) ∧
      (parse (.list literalFilters) = parse (.list taggedFilters) ∧
        ∀ delimiter,
          compile delimiter (.list literalFilters) = compile delimiter (.list taggedFilters)) ∧
      (∀ pair ∈ [("state", Value.int 0), ("", .null)], Solid pair.1) ∧
      ∀ delimiter,
        (Binding.lift (allOf taggedFilters [("state", .int 0), ("", .null)]) >>=
            compile delimiter) =
          compile delimiter
            (.list (taggedFilters ++ [.map (textPairs [("state", .int 0), ("", .null)])])) := by
  have mapping :
      Renoted
        [.map [(.text "g.id", .int 1), (.text "name like", .text "x")]]
        [.predicate (.text "g.id") (.text "=") (.int 1),
          .predicate (.text "name") (.text "LIKE") (.text "x")] :=
    .conditions [("g.id", .int 1), ("name like", .text "x")]
  have parsed :
      parse (.tuple [.map [(.text "id", .null)]]) = .ok (conditionsOf [("id", .null)]) := by
    rfl
  have nested :
      Renoted
        [.tuple [.map [(.text "id", .null)]]]
        [.group [.predicate (.text "id") (.text "=") .null]] :=
    .grouped (.inr rfl) parsed
  have same : SameFilter (.list literalFilters) (.list taggedFilters) :=
    .members (.inl rfl) (.inl rfl) (mapping.append (.append (.same [.text "or"]) nested))
  have solid : ∀ pair ∈ [("state", Value.int 0), ("", .null)], Solid pair.1 := by
    decide
  exact ⟨same, filters_agree.2.1 _ _ same, solid, (filters_agree.2.2 _ _ solid).2⟩

end QueryComposer.Filter
