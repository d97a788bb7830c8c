import QueryComposer.Proofs.Filter.Language
import QueryComposer.Proofs.Table.Spelled
import QueryComposer.Proofs.Text.Variant

namespace QueryComposer

/-!
# Filters in different spelling

However a key decorates its column with an operator, it is split into the column and the operator in
its canonical form; and whatever a key is split into, the column is a key of its own.

Filters that differ in such spelling only are `Respelled`. They are parsed and compiled alike.
-/

/-- A computation that comes to the same for the members of two lists does so for the lists. -/
theorem mapM_eq_of_forall₂
    {ε α β : Type}
    {compute : α → Except ε β}
    {items items' : List α}
    (same : List.Forall₂ (fun item item' => compute item = compute item') items items') :
    items.mapM compute = items'.mapM compute := by
  induction same with
  | nil =>
      rfl
  | cons first _ inductionHypothesis =>
      rw [List.mapM_cons, List.mapM_cons, first, inductionHypothesis]

namespace Filter

open Text (Blank Tidy Variant Word)

section Keys

variable {key column operator : String}

/-- A key is a column with an operator behind it: some variant of it, with blanks at will. -/
def Decorates (key column operator : String) : Prop :=
  ∃ before gap decoration,
    Blank before ∧ Blank gap ∧ gap ≠ [] ∧ Variant decoration operator.toList ∧
      key.toList = before ++ column.toList ++ gap ++ decoration

/-- A key spells the column and the operator that it decorates it with. -/
theorem keySpells_of_decorates
    (isWord : Word column.toList)
    (ascii : ∀ c ∈ operator.toList, c.toNat < 128)
    (decorates : Decorates key column operator) :
    KeySpells key column operator := by
  obtain ⟨before, gap, decoration, blankBefore, blankGap, apart, variant, shape⟩ := decorates
  obtain ⟨inner, words, spaced, after, blankInner, operated, blankAfter, rfl, capitals⟩ := variant
  have spelled := Text.upper_eq_of_map_toUpper ascii capitals
  have blankBetween : Blank (gap ++ inner) := List.forall_mem_append.mpr ⟨blankGap, blankInner⟩
  apply KeySpells.decorated blankBefore isWord blankBetween (by simp [apart]) operated blankAfter
  · simpa using shape
  · exact spelled

/-- A key that is not blank has a word for its column, which is a key of its own. -/
theorem columnOf_of_worded (worded : ∃ c ∈ key.toList, Text.isBlank c = false) :
    Word (columnOf key).toList ∧ splitKey (columnOf key) = (columnOf key, defaultOperator) := by
  rcases bare_columnOf key with bare | ⟨_, blank⟩
  · exact ⟨⟨bare.nonempty, bare.solid⟩, splitKey_of_bare bare⟩
  · obtain ⟨c, member, solid⟩ := worded
    rw [blank c member] at solid
    cases solid

/-- An operator that is spelled has single spaces and none at its ends. -/
theorem KeySpells.tidy (spells : KeySpells key column operator) : Tidy operator.toList := by
  cases spells with
  | bare =>
      have isWord : Word defaultOperator.toList := Text.word_of_all (by decide) (by decide)
      exact isWord.tidy
  | decorated _ _ _ _ operated _ _ spelled =>
      rw [← spelled]
      exact operated.tidy_capitalWords

end Keys

/-- The same pair, or the same value under keys that spell one column with one operator. -/
inductive RespelledPair : Value × Value → Value × Value → Prop where
  | same (pair : Value × Value) :
      RespelledPair pair pair
  | respelled
      {key key' column operator : String}
      (value : Value)
      (spells : KeySpells key column operator)
      (spells' : KeySpells key' column operator) :
      RespelledPair (.text key, value) (.text key', value)

/-- Mappings with the same values whose keys are spelled in one way or another. -/
def RespelledPairs (pairs pairs' : List (Value × Value)) : Prop :=
  List.Forall₂ RespelledPair pairs pairs'

mutual

/-- Filters, or members of filters, that are spelled in one way or another. -/
inductive Respelled : Value → Value → Prop where
  | same (literal : Value) :
      Respelled literal literal
  | word
      {word word' : String}
      {c : Connective}
      (spells : SpellsConnective word c)
      (spells' : SpellsConnective word' c) :
      Respelled (.text word) (.text word')
  | map
      {pairs pairs' : List (Value × Value)}
      (respelled : RespelledPairs pairs pairs') :
      Respelled (.map pairs) (.map pairs')
  | list
      {items items' : List Value}
      (respelled : RespelledAll items items') :
      Respelled (.list items) (.list items')
  | tuple
      {items items' : List Value}
      (respelled : RespelledAll items items') :
      Respelled (.tuple items) (.tuple items')

/-- Lists whose members are spelled in one way or another. -/
inductive RespelledAll : List Value → List Value → Prop where
  | nil :
      RespelledAll [] []
  | cons
      {item item' : Value}
      {rest rest' : List Value}
      (first : Respelled item item')
      (others : RespelledAll rest rest') :
      RespelledAll (item :: rest) (item' :: rest')

end

section Parsing

/-- Keys that spell the same are split alike. -/
theorem KeySpells.splitKey_congr
    {key key' column operator : String}
    (spells : KeySpells key column operator)
    (spells' : KeySpells key' column operator) :
    splitKey key = splitKey key' := by
  rw [spells.splitKey_eq, spells'.splitKey_eq]

/-- Keys that are split alike, into a word and an operator, spell the same. -/
theorem RespelledPair.of_splitKey
    {key key' : String}
    (isWord : Word (splitKey key').1.toList)
    (split : splitKey key = splitKey key')
    (value : Value) :
    RespelledPair (.text key, value) (.text key', value) :=
  .respelled value (keySpells_of_splitKey isWord split) (keySpells_of_splitKey isWord rfl)

theorem isEmpty_eq_of_respelled
    {pairs pairs' : List (Value × Value)}
    (respelled : RespelledPairs pairs pairs') :
    pairs.isEmpty = pairs'.isEmpty := by
  cases respelled <;> rfl

theorem ofKey_of_spells
    {key key' column operator : String}
    (spells : KeySpells key column operator)
    (spells' : KeySpells key' column operator)
    (value : Value) :
    Predicate.ofKey key value = Predicate.ofKey key' value := by
  rw [Predicate.ofKey, Predicate.ofKey, spells.splitKey_congr spells']

theorem parsePairs_of_respelled
    {pairs pairs' : List (Value × Value)}
    (respelled : RespelledPairs pairs pairs') :
    parsePairs pairs = parsePairs pairs' := by
  induction respelled with
  | nil =>
      rfl
  | @cons pair _ _ _ first _ inductionHypothesis =>
      cases first with
      | same =>
          rcases pair with ⟨key, value⟩
          cases key with
          | text name =>
              rw [parsePairs, parsePairs, inductionHypothesis]
          | _ =>
              rfl
      | respelled value spells spells' =>
          rw [parsePairs, parsePairs, ofKey_of_spells spells spells', inductionHypothesis]

mutual

theorem parseEntry_of_respelled :
    ∀ {literal literal' : Value},
      Respelled literal literal' →
      parseEntry literal = parseEntry literal'
  | _, _, .same _ =>
      rfl
  | _, _, .word spells spells' => by
      rw [parseEntry, parseEntry, ofWord?_trim_iff.mpr spells, ofWord?_trim_iff.mpr spells']
  | _, _, .map respelled => by
      rw [parseEntry, parseEntry, parsePairs_of_respelled respelled]
  | _, _, .list respelled => by
      rw [parseEntry, parseEntry, parseItems_of_respelled respelled]
  | _, _, .tuple respelled => by
      rw [parseEntry, parseEntry, parseItems_of_respelled respelled]

theorem parseItems_of_respelled :
    ∀ {items items' : List Value},
      RespelledAll items items' →
      parseItems items = parseItems items'
  | _, _, .nil =>
      rfl
  | _, _, .cons first others => by
      rw [parseItems, parseItems, parseEntry_of_respelled first, parseItems_of_respelled others]

end

/-- Filters that are spelled in one way or another are parsed alike. -/
theorem parse_of_respelled
    {literal literal' : Value}
    (respelled : Respelled literal literal') :
    parse literal = parse literal' := by
  cases respelled with
  | same =>
      rfl
  | word =>
      rfl
  | map respelled =>
      exact parsePairs_of_respelled respelled
  | list respelled
  | tuple respelled =>
      exact parseItems_of_respelled respelled

theorem isEmpty_of_respelled
    {literal literal' : Value}
    (respelled : Respelled literal literal') :
    isEmpty literal = isEmpty literal' := by
  have parsed := parse_of_respelled respelled
  cases respelled with
  | same =>
      rfl
  | _ =>
      exact congrArg (Except.map List.isEmpty) parsed

/-- Filters that are spelled in one way or another are compiled alike. -/
theorem compile_of_respelled
    (delimiter : String)
    {literal literal' : Value}
    (respelled : Respelled literal literal') :
    compile delimiter literal = compile delimiter literal' := by
  rw [compile, compile, parse_of_respelled respelled]

end Parsing

end Filter

end QueryComposer
