import QueryComposer.Proofs.Filter.Traversal
import QueryComposer.Proofs.Text.Capital

namespace QueryComposer.Filter

/-!
# The language of filters

Which literals are filters is said in two parts. `ReadAs` says which entries a literal is read as:
a mapping with texts as keys, a list of members, a nested filter or a single condition. A filter
of entries is `Acceptable` if it and every nested filter has entries and does not start with a
connective, and if all conditions are acceptable.

`compile_ok_iff` says that these literals are compiled and no others, and `compile_refuses` what
the others are refused as.
-/

/-- A text spells a connective: its keyword in any case, with blanks around it. -/
def SpellsConnective
    (word : String)
    (c : Connective) : Prop :=
  ∃ before spelling after,
    Text.Blank before ∧ Text.Blank after ∧
      word.toList = before ++ spelling ++ after ∧
      spelling.map Char.toUpper = c.keyword.toList

/-- The pairs of a mapping whose keys are texts. -/
def textPairs (pairs : List (String × Value)) : List (Value × Value) :=
  pairs.map (Prod.map .text id)

theorem textPairs_cons
    (key : String)
    (value : Value)
    (rest : List (String × Value)) :
    textPairs ((key, value) :: rest) = (.text key, value) :: textPairs rest :=
  rfl

/-- The entries of a mapping: a condition for each key. -/
def conditionsOf (pairs : List (String × Value)) : List Entry :=
  pairs.map fun pair => .predicate (Predicate.ofKey pair.1 pair.2)

mutual

/-- The entries that one member of a filter list is read as. -/
inductive MemberReadAs : Value → List Entry → Prop where
  | word
      {word : String}
      {c : Connective}
      (spells : SpellsConnective word c) :
      MemberReadAs (.text word) [.connective c]
  | conditions (pairs : List (String × Value)) :
      MemberReadAs (.map (textPairs pairs)) (conditionsOf pairs)
  | nested
      {literal : Value}
      {items : List Value}
      {entries : List Entry}
      (listed : literal = .list items ∨ literal = .tuple items)
      (members : MembersReadAs items entries) :
      MemberReadAs literal [.group entries]
  | condition (column operator operand : Value) :
      MemberReadAs (.predicate column operator operand) [.predicate ⟨column, operator, operand⟩]
  | connective (c : Connective) :
      MemberReadAs (.connective c) [.connective c]
  | group (entries : List Value) :
      MemberReadAs (.group entries) [.group (Entry.ofValues entries)]

/-- The entries that the members of a filter list are read as. -/
inductive MembersReadAs : List Value → List Entry → Prop where
  | nil :
      MembersReadAs [] []
  | cons
      {item : Value}
      {rest : List Value}
      {entries others : List Entry}
      (first : MemberReadAs item entries)
      (following : MembersReadAs rest others) :
      MembersReadAs (item :: rest) (entries ++ others)

end

/-- The entries that a filter literal is read as. -/
inductive ReadAs : Value → List Entry → Prop where
  | conditions (pairs : List (String × Value)) :
      ReadAs (.map (textPairs pairs)) (conditionsOf pairs)
  | members
      {literal : Value}
      {items : List Value}
      {entries : List Entry}
      (listed : literal = .list items ∨ literal = .tuple items)
      (members : MembersReadAs items entries) :
      ReadAs literal entries
  | condition (column operator operand : Value) :
      ReadAs (.predicate column operator operand) [.predicate ⟨column, operator, operand⟩]
  | group (entries : List Value) :
      ReadAs (.group entries) (Entry.ofValues entries)

namespace Entry

/-- An entry that may follow another one in a filter that can be compiled. -/
inductive Acceptable : Entry → Prop where
  | predicate
      {p : Predicate}
      (acceptable : p.Acceptable) :
      Acceptable (.predicate p)
  | connective (c : Connective) :
      Acceptable (.connective c)
  | group
      {first : Entry}
      {rest : List Entry}
      (noConnective : ∀ c, first ≠ .connective c)
      (each : ∀ entry ∈ first :: rest, Acceptable entry) :
      Acceptable (.group (first :: rest))

end Entry

section Reading

/-- A blank is no letter, so that it cannot belong to a connective. -/
theorem not_isBlank_of_toUpper
    {c : Char}
    (letter : c.toUpper ∈ Text.plainCapitals) :
    Text.isBlank c = false := by
  by_contra notSolid
  have blank : Text.isBlank c = true := by simpa using notSolid
  have same : c.toUpper = c := by
    apply Text.toUpper_eq_self
    intro smallLetter
    simp only [Text.isBlank, Bool.or_eq_true, Bool.and_eq_true, decide_eq_true_eq,
      beq_iff_eq] at blank
    omega
  have solid : Text.plainCapitals.all (!Text.isBlank ·) = true := by decide
  have isSolid := List.all_eq_true.mp solid c (same ▸ letter)
  rw [blank] at isSolid
  cases isSolid

theorem mem_plainCapitals_of_mem_keyword
    (connective : Connective) :
    ∀ c ∈ connective.keyword.toList, c ∈ Text.plainCapitals := by
  intro c member
  have all : connective.keyword.toList.all Text.plainCapitals.contains = true := by
    cases connective <;> decide
  exact List.contains_iff_mem.mp (List.all_eq_true.mp all c member)

/-- A word names a connective exactly if it is the keyword letter by letter, in any case. -/
theorem ofWord?_eq_some_iff
    {word : List Char}
    {c : Connective} :
    Connective.ofWord? word = some c ↔ word.map Char.toUpper = c.keyword.toList := by
  rw [← Text.upper_eq_iff (mem_plainCapitals_of_mem_keyword c)]
  unfold Connective.ofWord?
  generalize Text.upper word = upper
  by_cases isAnd : upper = "AND".toList
  · subst isAnd
    cases c <;> decide
  · by_cases isOr : upper = "OR".toList
    · subst isOr
      cases c <;> decide
    · have isNeither : ¬ upper = c.keyword.toList := by
        cases c with
        | and => exact isAnd
        | or => exact isOr
      simp only [beq_iff_eq, if_neg isAnd, if_neg isOr, reduceCtorEq, isNeither]

/-- A text spells a connective exactly if it names it when it is trimmed. -/
theorem ofWord?_trim_iff
    {word : String}
    {c : Connective} :
    Connective.ofWord? (Text.trim word.toList) = some c ↔ SpellsConnective word c := by
  rw [ofWord?_eq_some_iff]
  constructor
  · intro spelled
    obtain ⟨before, after, blankBefore, blankAfter, split⟩ := Text.exists_trim word.toList
    exact ⟨before, _, after, blankBefore, blankAfter, split, spelled⟩
  · rintro ⟨before, spelling, after, blankBefore, blankAfter, split, spelled⟩
    have solid : ∀ d ∈ spelling, Text.isBlank d = false := by
      intro d member
      apply not_isBlank_of_toUpper
      apply mem_plainCapitals_of_mem_keyword c
      rw [← spelled]
      exact List.mem_map_of_mem member
    have nonempty : spelling ≠ [] := by
      rintro rfl
      cases c <;> cases spelled
    have isWord : Text.Word spelling := ⟨nonempty, solid⟩
    rw [split, Text.trim_surrounded blankBefore isWord.trimmed blankAfter]
    exact spelled

/-- The pairs of a mapping are parsed exactly if all keys are texts. -/
theorem parsePairs_eq_ok_iff
    {pairs : List (Value × Value)}
    {entries : List Entry} :
    parsePairs pairs = .ok entries ↔
      ∃ named, pairs = textPairs named ∧ entries = conditionsOf named := by
  induction pairs generalizing entries with
  | nil =>
      constructor
      · intro parsed
        cases parsed
        exact ⟨[], rfl, rfl⟩
      · rintro ⟨named, shape, rfl⟩
        rw [List.map_eq_nil_iff.mp shape.symm]
        rfl
  | cons pair rest inductionHypothesis =>
      rcases pair with ⟨key, operand⟩
      constructor
      · intro parsed
        cases key with
        | text name =>
            obtain ⟨others, parsedOthers, made⟩ := Success.bind_eq_ok_iff.mp parsed
            obtain ⟨named, rfl, rfl⟩ := inductionHypothesis.mp parsedOthers
            cases made
            exact ⟨(name, operand) :: named, rfl, rfl⟩
        | _ =>
            cases parsed
      · rintro ⟨named, shape, rfl⟩
        cases named with
        | nil =>
            cases shape
        | cons first others =>
            rw [textPairs_cons, List.cons.injEq, Prod.mk.injEq] at shape
            obtain ⟨⟨rfl, rfl⟩, rfl⟩ := shape
            rw [parsePairs, inductionHypothesis.mpr ⟨others, rfl, rfl⟩]
            rfl

mutual

/-- What is parsed as entries is read as them. -/
theorem memberReadAs_of_parseEntry :
    ∀ (literal : Value) {entries : List Entry},
      parseEntry literal = .ok entries →
      MemberReadAs literal entries
  | .text word, entries, parsed => by
      rw [parseEntry] at parsed
      split at parsed
      · next c named =>
          cases parsed
          exact .word (ofWord?_trim_iff.mp named)
      · cases parsed
  | .map pairs, entries, parsed => by
      rw [parseEntry] at parsed
      obtain ⟨named, rfl, rfl⟩ := parsePairs_eq_ok_iff.mp parsed
      exact .conditions named
  | .list items, entries, parsed => by
      rw [parseEntry] at parsed
      obtain ⟨inner, parsedItems, made⟩ := Success.bind_eq_ok_iff.mp parsed
      cases made
      exact .nested (.inl rfl) (membersReadAs_of_parseItems items parsedItems)
  | .tuple items, entries, parsed => by
      rw [parseEntry] at parsed
      obtain ⟨inner, parsedItems, made⟩ := Success.bind_eq_ok_iff.mp parsed
      cases made
      exact .nested (.inr rfl) (membersReadAs_of_parseItems items parsedItems)
  | .predicate column operator operand, entries, parsed => by
      rw [parseEntry] at parsed
      cases parsed
      exact .condition column operator operand
  | .connective c, entries, parsed => by
      rw [parseEntry] at parsed
      cases parsed
      exact .connective c
  | .group inner, entries, parsed => by
      rw [parseEntry] at parsed
      cases parsed
      exact .group inner
  | .null, entries, parsed
  | .bool _, entries, parsed
  | .int _, entries, parsed
  | .float _, entries, parsed
  | .bytes _, entries, parsed
  | .decimal _, entries, parsed
  | .uuid _, entries, parsed
  | .date _, entries, parsed
  | .datetime _ _, entries, parsed
  | .time _, entries, parsed
  | .foreign _ _, entries, parsed
  | .set _, entries, parsed
  | .column _, entries, parsed
  | .prepared _ _, entries, parsed => by
      cases parsed

theorem membersReadAs_of_parseItems :
    ∀ (items : List Value) {entries : List Entry},
      parseItems items = .ok entries →
      MembersReadAs items entries
  | [], entries, parsed => by
      rw [parseItems] at parsed
      cases parsed
      exact .nil
  | item :: rest, entries, parsed => by
      rw [parseItems] at parsed
      obtain ⟨first, parsedFirst, remaining⟩ := Success.bind_eq_ok_iff.mp parsed
      obtain ⟨others, parsedOthers, made⟩ := Success.bind_eq_ok_iff.mp remaining
      cases made
      exact .cons (memberReadAs_of_parseEntry item parsedFirst)
        (membersReadAs_of_parseItems rest parsedOthers)

end

mutual

/-- What is read as entries is parsed as them. -/
theorem MemberReadAs.parseEntry_eq :
    ∀ {literal : Value} {entries : List Entry},
      MemberReadAs literal entries →
      parseEntry literal = .ok entries
  | _, _, .word spells => by
      rw [parseEntry, ofWord?_trim_iff.mpr spells]
  | _, _, .conditions pairs => by
      rw [parseEntry, parsePairs_eq_ok_iff]
      exact ⟨pairs, rfl, rfl⟩
  | _, _, .nested listed members => by
      rcases listed with rfl | rfl
      · rw [parseEntry, members.parseItems_eq]
        rfl
      · rw [parseEntry, members.parseItems_eq]
        rfl
  | _, _, .condition _ _ _
  | _, _, .connective _
  | _, _, .group _ => by
      rw [parseEntry]

theorem MembersReadAs.parseItems_eq :
    ∀ {items : List Value} {entries : List Entry},
      MembersReadAs items entries →
      parseItems items = .ok entries
  | _, _, .nil => by
      rw [parseItems]
  | _, _, .cons first following => by
      rw [parseItems, first.parseEntry_eq, following.parseItems_eq]
      rfl

end

/-- A literal is parsed as the entries that it is read as. -/
theorem parse_eq_ok_iff
    {filters : Value}
    {entries : List Entry} :
    parse filters = .ok entries ↔ ReadAs filters entries := by
  constructor
  · intro parsed
    cases filters with
    | map pairs =>
        obtain ⟨named, rfl, rfl⟩ := parsePairs_eq_ok_iff.mp parsed
        exact .conditions named
    | list items =>
        exact .members (.inl rfl) (membersReadAs_of_parseItems items parsed)
    | tuple items =>
        exact .members (.inr rfl) (membersReadAs_of_parseItems items parsed)
    | group inner =>
        cases parsed
        exact .group inner
    | predicate column operator operand =>
        cases parsed
        exact .condition column operator operand
    | _ =>
        cases parsed
  · intro readAs
    cases readAs with
    | conditions named =>
        exact parsePairs_eq_ok_iff.mpr ⟨named, rfl, rfl⟩
    | members listed members =>
        rcases listed with rfl | rfl
        · exact members.parseItems_eq
        · exact members.parseItems_eq
    | condition =>
        rfl
    | group =>
        rfl

end Reading

section Acceptance

mutual

/-- All visits of an entry are acceptable exactly if the entry is, and does not join others. -/
theorem visitsOf_acceptable_iff :
    ∀ entry : Entry,
      (∀ visit ∈ visitsOf entry, visit.Acceptable) ↔
        (∀ c, entry ≠ .connective c) ∧ entry.Acceptable
  | .predicate p => by
      rw [visitsOf, List.forall_mem_singleton]
      constructor
      · intro acceptable
        exact ⟨by simp, .predicate acceptable⟩
      · rintro ⟨_, ⟨acceptable⟩⟩
        exact acceptable
  | .connective c => by
      rw [visitsOf, List.forall_mem_singleton]
      constructor
      · intro acceptable
        cases acceptable
      · rintro ⟨noConnective, _⟩
        exact absurd rfl (noConnective c)
  | .group [] => by
      rw [visitsOf, List.forall_mem_singleton]
      constructor
      · intro acceptable
        cases acceptable
      · rintro ⟨_, acceptable⟩
        cases acceptable
  | .group (first :: rest) => by
      rw [visitsOf, List.forall_mem_append, visitsOf_acceptable_iff first,
        visitsAfter_acceptable_iff rest]
      constructor
      · rintro ⟨⟨noConnective, acceptable⟩, following⟩
        exact ⟨by simp, .group noConnective (List.forall_mem_cons.mpr ⟨acceptable, following⟩)⟩
      · rintro ⟨_, _ | _ | ⟨noConnective, each⟩⟩
        obtain ⟨acceptable, following⟩ := List.forall_mem_cons.mp each
        exact ⟨⟨noConnective, acceptable⟩, following⟩
  | .stray _ => by
      rw [visitsOf, List.forall_mem_singleton]
      constructor
      · intro acceptable
        cases acceptable
      · rintro ⟨_, acceptable⟩
        cases acceptable

theorem visitsAfter_acceptable_iff :
    ∀ entries : List Entry,
      (∀ visit ∈ visitsAfter entries, visit.Acceptable) ↔ ∀ entry ∈ entries, entry.Acceptable
  | [] => by
      simp [visitsAfter]
  | entry :: rest => by
      rw [List.forall_mem_cons]
      by_cases isConnective : ∃ c, entry = .connective c
      · obtain ⟨c, rfl⟩ := isConnective
        rw [visitsAfter, visitsAfter_acceptable_iff rest]
        exact (and_iff_right (.connective c)).symm
      · have noConnective := not_exists.mp isConnective
        rw [visitsAfter_cons noConnective, List.forall_mem_append,
          visitsOf_acceptable_iff entry, visitsAfter_acceptable_iff rest,
          and_iff_right noConnective]

end

/-- All visits of a filter are acceptable exactly if the filter is. -/
theorem visits_acceptable_iff (entries : List Entry) :
    (∀ visit ∈ visits entries, visit.Acceptable) ↔ (Entry.group entries).Acceptable := by
  cases entries with
  | nil =>
      constructor
      · intro acceptable
        exact absurd (acceptable _ List.mem_cons_self) id
      · intro acceptable
        cases acceptable
  | cons first rest =>
      exact (visitsOf_acceptable_iff _).trans (and_iff_right (by simp))

/-- A composition succeeds exactly if all visits that it follows are acceptable. -/
theorem Follows.ok_iff
    {delimiter : String}
    {visits : List Visit}
    {α : Type}
    {composition : Binding α}
    (follows : Follows delimiter visits composition)
    (bound : List Value) :
    (∃ result after, composition.outcome bound = (.ok result, after)) ↔
      ∀ visit ∈ visits, visit.Acceptable := by
  have passes := follows bound
  generalize composition.outcome bound = outcome at passes
  cases passes with
  | all passed acceptable result =>
      constructor
      · intro _ visit member
        obtain ⟨p, inPassed, rfl⟩ := List.mem_map.mp member
        exact acceptable p inPassed
      · intro _
        exact ⟨result, _, rfl⟩
  | upTo passed failing later acceptable unacceptable raised =>
      constructor
      · rintro ⟨_, _, succeeded⟩
        cases succeeded
      · intro all
        exact absurd (all failing (by simp)) unacceptable

end Acceptance

section Refusals

theorem parsePairs_failsWith
    {allowed : Error → Prop}
    (filters : ∀ cause, allowed (.filter cause))
    (pairs : List (Value × Value)) :
    FailsWith allowed (parsePairs pairs) := by
  induction pairs with
  | nil =>
      exact .ok []
  | cons pair rest inductionHypothesis =>
      rcases pair with ⟨key, operand⟩
      cases key with
      | text name =>
          exact inductionHypothesis.bind fun _ _ => .ok _
      | _ =>
          exact .error (filters _)

mutual

theorem parseEntry_failsWith
    {allowed : Error → Prop}
    (filters : ∀ cause, allowed (.filter cause))
    (value : Value) :
    FailsWith allowed (parseEntry value) := by
  cases value with
  | text word =>
      unfold parseEntry
      split
      · exact .ok _
      · exact .error (filters _)
  | map pairs =>
      exact parsePairs_failsWith filters pairs
  | list items
  | tuple items =>
      unfold parseEntry
      exact (parseItems_failsWith filters items).bind fun _ _ => .ok _
  | predicate _ _ _
  | connective _
  | group _ =>
      exact .ok _
  | _ =>
      exact .error (filters _)

theorem parseItems_failsWith
    {allowed : Error → Prop}
    (filters : ∀ cause, allowed (.filter cause)) :
    ∀ items : List Value, FailsWith allowed (parseItems items)
  | [] => .ok []
  | item :: rest => by
      unfold parseItems
      refine (parseEntry_failsWith filters item).bind fun _ _ => ?_
      exact (parseItems_failsWith filters rest).bind fun _ _ => .ok _

end

variable
  {allowed : Error → Prop}
  (filters : ∀ cause, allowed (.filter cause))

include filters

/-- A literal that cannot be parsed is refused as a filter. -/
theorem parse_failsWith (literal : Value) : FailsWith allowed (parse literal) := by
  cases literal with
  | map pairs =>
      exact parsePairs_failsWith filters pairs
  | list items
  | tuple items =>
      exact parseItems_failsWith filters items
  | group _
  | predicate _ _ _ =>
      exact .ok _
  | _ =>
      exact .error (filters _)

variable (identifiers : ∀ cause, allowed (.identifier cause))

include identifiers

/-- A composition is refused as its first unacceptable visit is. -/
theorem Follows.refuses
    {delimiter : String}
    {visits : List Visit}
    {α : Type}
    {composition : Binding α}
    (follows : Follows delimiter visits composition)
    (operated :
      ∀ p ∈ leading visits,
        (∃ operator, p.operator = .text operator) ∨ ∀ cause, allowed (.misuse cause)) :
    Binding.Refuses allowed composition := by
  intro bound error failed
  have passes := follows bound
  generalize composition.outcome bound = outcome at failed passes
  cases passes with
  | all =>
      cases failed
  | upTo passed failing later acceptable unacceptable raised =>
      cases failed
      cases failing with
      | test p =>
          have isLeading : p ∈ leading (passed.map .test ++ .test p :: later) := by
            rw [leading_append_of_unrefused (unrefused_map_test passed), leading]
            exact List.mem_append_right _ List.mem_cons_self
          apply compilePredicate_refuses filters identifiers delimiter (operated p isLeading) bound
          rw [raised]
      | refusal cause =>
          rw [raised]
          exact filters cause

/-- A filter whose operators are texts is refused as a filter or for a name that it uses. -/
theorem compile_refuses
    (delimiter : String)
    {literal : Value}
    (operated :
      ∀ p ∈ predicatesOf literal,
        (∃ operator, p.operator = .text operator) ∨ ∀ cause, allowed (.misuse cause)) :
    Binding.Refuses allowed (compile delimiter literal) := by
  apply Binding.Refuses.lift_bind (parse_failsWith filters literal)
  intro entries parsed
  apply (compileGroup_follows delimiter entries).refuses filters identifiers
  intro p member
  exact operated p ((visits_shows parsed).ordered.subset member)

end Refusals

/-- A literal is compiled exactly if it is read as the entries of an acceptable filter. -/
theorem compile_ok_iff
    (delimiter : String)
    (literal : Value)
    (bound : List Value) :
    (∃ text after, (compile delimiter literal).outcome bound = (.ok text, after)) ↔
      ∃ entries, ReadAs literal entries ∧ (Entry.group entries).Acceptable := by
  cases parsed : parse literal with
  | error error =>
      constructor
      · rintro ⟨_, _, succeeded⟩
        rw [compile, parsed] at succeeded
        cases succeeded
      · rintro ⟨_, readAs, _⟩
        rw [parse_eq_ok_iff.mpr readAs] at parsed
        cases parsed
  | ok entries =>
      have grouped :
          (compile delimiter literal).outcome bound =
            (compileGroup delimiter entries).outcome bound := by
        rw [compile, parsed]
        rfl
      rw [grouped, (compileGroup_follows delimiter entries).ok_iff, visits_acceptable_iff]
      constructor
      · intro acceptable
        exact ⟨entries, parse_eq_ok_iff.mp parsed, acceptable⟩
      · rintro ⟨others, readAs, acceptable⟩
        rw [parse_eq_ok_iff.mpr readAs] at parsed
        cases parsed
        exact acceptable

/--
A filter is compiled exactly if it belongs to the language of filters. Any other one is refused,
as a filter or for a name, unless a condition was put together by hand with an operator that is no
text.
-/
theorem compile_decides_language
    (delimiter : String)
    (literal : Value)
    (bound : List Value) :
    ((∃ text after, (compile delimiter literal).outcome bound = (.ok text, after)) ↔
        ∃ entries, ReadAs literal entries ∧ (Entry.group entries).Acceptable) ∧
      ((∀ p ∈ predicatesOf literal, ∃ operator, p.operator = .text operator) →
        (¬ ∃ entries, ReadAs literal entries ∧ (Entry.group entries).Acceptable) →
        ∃ error after,
          (compile delimiter literal).outcome bound = (.error error, after) ∧
            (error.kind? = some .invalidFilter ∨ error.kind? = some .invalidIdentifier)) := by
  refine ⟨compile_ok_iff delimiter literal bound, ?_⟩
  intro operated outside
  rcases result : (compile delimiter literal).outcome bound with ⟨error | text, after⟩
  · have refused :
        FailsWith
          (fun error =>
            error.kind? = some .invalidFilter ∨ error.kind? = some .invalidIdentifier)
          ((compile delimiter literal).outcome bound).1 :=
      compile_refuses (fun _ => .inl rfl) (fun _ => .inr rfl) delimiter
        (fun p member => .inl (operated p member)) bound
    exact ⟨error, after, rfl, refused error (by rw [result])⟩
  · exact absurd ((compile_ok_iff delimiter literal bound).mp ⟨text, after, result⟩) outside

/-- A filter with a word in mixed case and a nested condition that was put together by hand. -/
def languageFilters (operator : String) : Value :=
  .list [
    .map [(.text "g.id", .int 1)],
    .text "\t oR ",
    .tuple [.predicate (.text "name") (.text operator) (.list [.text "x", .null])]]

/-- Under "=" the filter belongs to the language; under "LIKE" it is refused for the list. -/
theorem compile_decides_language_nested :
    (∃ entries, ReadAs (languageFilters "=") entries ∧ (Entry.group entries).Acceptable) ∧
      (∀ p ∈ predicatesOf (languageFilters "LIKE"), ∃ operator, p.operator = .text operator) ∧
      (¬ ∃ entries,
        ReadAs (languageFilters "LIKE") entries ∧ (Entry.group entries).Acceptable) ∧
      ∃ error after,
        (compile "\"" (languageFilters "LIKE")).outcome [.null] = (.error error, after) ∧
          (error.kind? = some .invalidFilter ∨ error.kind? = some .invalidIdentifier) := by
  have accepted := (compile_decides_language "\"" (languageFilters "=") [.null]).1.mp ⟨_, _, rfl⟩
  have listed :
      predicatesOf (languageFilters "LIKE") =
        [⟨.text "g.id", .text "=", .int 1⟩,
          ⟨.text "name", .text "LIKE", .list [.text "x", .null]⟩] := by
    rfl
  have operated :
      ∀ p ∈ predicatesOf (languageFilters "LIKE"), ∃ operator, p.operator = .text operator := by
    intro p member
    simp only [listed, List.mem_cons, List.not_mem_nil, or_false] at member
    rcases member with rfl | rfl <;> exact ⟨_, rfl⟩
  have result :
      (compile "\"" (languageFilters "LIKE")).outcome [.null] =
        (.error (.filter (.listOperator (.text "LIKE"))), [.null, .int 1]) := by
    rfl
  obtain ⟨decides, refuses⟩ := compile_decides_language "\"" (languageFilters "LIKE") [.null]
  have outside :
      ¬ ∃ entries,
        ReadAs (languageFilters "LIKE") entries ∧ (Entry.group entries).Acceptable := by
    intro inside
    obtain ⟨_, _, succeeded⟩ := decides.mpr inside
    rw [result] at succeeded
    cases succeeded
  exact ⟨accepted, operated, outside, refuses operated outside⟩

end QueryComposer.Filter
