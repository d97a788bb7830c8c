import QueryComposer.Proofs.Filter.Conjunction
import QueryComposer.Proofs.Table.Spelled
import QueryComposer.Table.Clause

namespace QueryComposer.Table

/-!
# Joined tables

A joined table has a name and a condition of items that compare columns. `compileJoin` accepts the
tables whose names, columns and operators can be written, and a table without items only if it is
joined by a cross join. A property that quoted names and fixed texts have, and that is kept when
texts are put together, holds of what it writes.
-/

open Filter (KeySpells conjunction)
open Identifier (Quotable)

/-- A table with the way in which it is joined and the items of its condition. -/
structure Joined where
  join : Join
  name : String
  items : List (Value × Value)

/-- A value refers to a column: a text does by itself. -/
inductive RefersTo : Value → Value → Prop where
  | text (name : String) :
      RefersTo (.text name) (.text name)
  | column (name : Value) :
      RefersTo (.column name) name

/-- An item of a condition that compares columns which can be quoted. -/
inductive Comparison : Value × Value → Prop where
  | intro
      {key column operator : String}
      {operand other : Value}
      (spells : KeySpells key column operator)
      (known : operator ∈ Filter.operators)
      (quotable : Quotable (.text column))
      (refers : RefersTo operand other)
      (quotableOther : Quotable other) :
      Comparison (.text key, operand)

/-- How an item of a condition is written. -/
inductive ComparisonWritten (delimiter : String) : Value × Value → String → Prop where
  | intro
      {key column operator quoted quotedOther : String}
      {operand other : Value}
      (spells : KeySpells key column operator)
      (known : operator ∈ Filter.operators)
      (written : Identifier.quote delimiter (.text column) = .ok quoted)
      (refers : RefersTo operand other)
      (writtenOther : Identifier.quote delimiter other = .ok quotedOther) :
      ComparisonWritten delimiter (.text key, operand)
        (quoted ++ " " ++ operator ++ " " ++ quotedOther)

namespace Joined

/-- A joined table that can be compiled: only a cross join may have no condition. -/
structure Acceptable (joined : Joined) : Prop where
  quotable : Quotable (.text joined.name)
  conditioned : joined.items = [] → joined.join = .cross
  comparisons : ∀ item ∈ joined.items, Comparison item

/-- How a joined table is written, with its comparisons joined by "AND". -/
inductive Written (delimiter : String) : Joined → String → Prop where
  | bare
      {name quoted : String}
      (written : Identifier.quote delimiter (.text name) = .ok quoted) :
      Written delimiter ⟨.cross, name, []⟩ (" " ++ Join.cross.keyword ++ " " ++ quoted)
  | conditioned
      {join : Join}
      {name quoted : String}
      {items : List (Value × Value)}
      {texts : List String}
      (nonempty : items ≠ [])
      (written : Identifier.quote delimiter (.text name) = .ok quoted)
      (comparisons : List.Forall₂ (ComparisonWritten delimiter) items texts) :
      Written delimiter ⟨join, name, items⟩
        (" " ++ join.keyword ++ " " ++ quoted ++ " ON " ++ conjunction texts)

end Joined

section Comparisons

variable {delimiter : String}

/-- An item is written as the condition that it states is. -/
theorem comparisonWritten_iff
    (table : String)
    {item : Value × Value}
    {text : String} :
    ComparisonWritten delimiter item text ↔
      ∃ p, joinPredicate table item = .ok p ∧ p.Written delimiter text p.boundValues := by
  constructor
  · rintro ⟨spells, known, written, refers, writtenOther⟩
    have split := spells.splitKey_eq
    cases refers with
    | text name
    | column name =>
        refine ⟨_, rfl, ?_⟩
        rw [Filter.Predicate.ofKey, split]
        exact .column known written writtenOther
  · rintro ⟨p, stated, isWritten⟩
    obtain ⟨key, operand, other, rfl, refers, rfl⟩ :
        ∃ key operand other,
          item = (.text key, operand) ∧ RefersTo operand other ∧
            p = Filter.Predicate.ofKey key (.column other) := by
      unfold joinPredicate at stated
      split at stated
      · cases stated
        exact ⟨_, _, _, rfl, .text _, rfl⟩
      · cases stated
        exact ⟨_, _, _, rfl, .column _, rfl⟩
      · cases stated
    rcases split : Filter.splitKey key with ⟨column, operator⟩
    rw [Filter.Predicate.ofKey, split] at isWritten
    cases isWritten with
    | members _ listed _ _ =>
        rcases listed with impossible | impossible <;> cases impossible
    | column known written writtenOther =>
        have isColumn : Filter.columnOf key = column := by
          rw [Filter.columnOf, split]
        have bare : Filter.Bare column := by
          rw [← isColumn] at written ⊢
          exact Filter.bare_of_quote written
        exact .intro (Filter.keySpells_of_splitKey ⟨bare.nonempty, bare.solid⟩ split) known written
          refers writtenOther

/-- An item can be written exactly if it compares columns that can be quoted. -/
theorem exists_comparisonWritten_iff
    (delimiter : String)
    {item : Value × Value} :
    (∃ text, ComparisonWritten delimiter item text) ↔ Comparison item := by
  have quotes := fun reference => Identifier.exists_quote_iff delimiter reference
  constructor
  · rintro ⟨_, spells, known, written, refers, writtenOther⟩
    exact ⟨spells, known, (quotes _).mp ⟨_, written⟩, refers, (quotes _).mp ⟨_, writtenOther⟩⟩
  · rintro ⟨spells, known, quotable, refers, quotableOther⟩
    obtain ⟨quoted, written⟩ := (quotes _).mpr quotable
    obtain ⟨quotedOther, writtenOther⟩ := (quotes _).mpr quotableOther
    exact ⟨_, spells, known, written, refers, writtenOther⟩

/-- Conditions are compiled exactly if there are some, and to the texts that they have. -/
theorem compileCondition_eq_ok_iff
    {predicates : List Filter.Predicate}
    {text : String} :
    compileCondition delimiter predicates = .ok text ↔
      predicates ≠ [] ∧
        ∃ texts, Filter.AllWritten delimiter predicates texts ∧ text = conjunction texts := by
  unfold compileCondition
  rw [Success.map_eq_ok_iff]
  constructor
  · rintro ⟨⟨_, after⟩, compiled, rfl⟩
    rw [Binding.collect_eq_ok_iff, Filter.compileGroup_eq_conjunction_iff] at compiled
    obtain ⟨nonempty, texts, written, same, _⟩ := compiled
    exact ⟨nonempty, texts, written, same⟩
  · rintro ⟨nonempty, texts, written, rfl⟩
    refine ⟨(conjunction texts, predicates.flatMap Filter.Predicate.boundValues), ?_, rfl⟩
    rw [Binding.collect_eq_ok_iff, Filter.compileGroup_eq_conjunction_iff]
    exact ⟨nonempty, texts, written, rfl, rfl⟩

end Comparisons

section Joins

variable {delimiter : String}

/-- A joined table is compiled exactly if it can be written, and to what it is. -/
theorem compileJoin_eq_ok_iff
    {join : Join}
    {pair : Value × Value}
    {text : String} :
    compileJoin delimiter join pair = .ok text ↔
      ∃ name items,
        pair = (.text name, .map items) ∧ Joined.Written delimiter ⟨join, name, items⟩ text := by
  constructor
  · intro compiled
    unfold compileJoin at compiled
    split at compiled
    · next name items =>
        refine ⟨name, items, rfl, ?_⟩
        obtain ⟨quoted, written, compiled⟩ := Success.bind_eq_ok_iff.mp compiled
        split at compiled
        · next isEmpty =>
            rw [List.isEmpty_iff.mp isEmpty]
            split at compiled
            · next isCross =>
                cases compiled
                rw [eq_of_beq isCross]
                exact .bare written
            · cases compiled
        · next notEmpty =>
            obtain ⟨predicates, stated, compiled⟩ := Success.bind_eq_ok_iff.mp compiled
            obtain ⟨condition, conditioned, compiled⟩ := Success.bind_eq_ok_iff.mp compiled
            cases compiled
            obtain ⟨_, texts, allWritten, rfl⟩ := compileCondition_eq_ok_iff.mp conditioned
            have through := Success.exists_forall₂_forall₂_iff.mp
              ⟨predicates, Success.mapM_eq_ok_iff.mp stated, allWritten⟩
            refine .conditioned (by simpa using notEmpty) written ?_
            exact through.imp fun _ _ => (comparisonWritten_iff name).mpr
    · cases compiled
    · cases compiled
  · rintro ⟨name, items, rfl, isWritten⟩
    unfold compileJoin
    cases isWritten with
    | bare written =>
        dsimp only
        rw [written]
        rfl
    | @conditioned _ _ _ _ texts nonempty written comparisons =>
        have through := comparisons.imp fun _ _ => (comparisonWritten_iff name).mp
        obtain ⟨predicates, stated, allWritten⟩ := Success.exists_forall₂_forall₂_iff.mpr through
        have some : predicates ≠ [] := by
          rintro rfl
          cases stated
          exact nonempty rfl
        have conditioned := compileCondition_eq_ok_iff.mpr ⟨some, texts, allWritten, rfl⟩
        dsimp only
        refine Success.bind_eq_ok_iff.mpr ⟨_, written, ?_⟩
        rw [if_neg (by simpa using nonempty)]
        refine Success.bind_eq_ok_iff.mpr ⟨_, Success.mapM_eq_ok_iff.mpr stated, ?_⟩
        exact Success.bind_eq_ok_iff.mpr ⟨_, conditioned, rfl⟩

/-- A joined table can be written exactly if it is acceptable. -/
theorem exists_written_iff
    (delimiter : String)
    {joined : Joined} :
    (∃ text, joined.Written delimiter text) ↔ joined.Acceptable := by
  constructor
  · rintro ⟨_, isWritten⟩
    cases isWritten with
    | bare written =>
        exact ⟨(Identifier.exists_quote_iff delimiter _).mp ⟨_, written⟩, fun _ => rfl, by simp⟩
    | conditioned nonempty written comparisons =>
        refine ⟨(Identifier.exists_quote_iff delimiter _).mp ⟨_, written⟩,
          fun isNil => absurd isNil nonempty, ?_⟩
        intro item member
        rw [← exists_comparisonWritten_iff delimiter]
        exact Success.exists_forall₂_iff.mp ⟨_, comparisons⟩ item member
  · rintro ⟨quotable, conditioned, comparisons⟩
    rcases joined with ⟨join, name, items⟩
    dsimp only at quotable conditioned comparisons
    obtain ⟨quoted, written⟩ := (Identifier.exists_quote_iff delimiter _).mpr quotable
    by_cases isNil : items = []
    · rw [isNil, conditioned isNil]
      exact ⟨_, .bare written⟩
    · have each : ∀ item ∈ items, ∃ text, ComparisonWritten delimiter item text :=
        fun item member => (exists_comparisonWritten_iff delimiter).mpr (comparisons item member)
      obtain ⟨texts, comparisonsWritten⟩ := Success.exists_forall₂_iff.mpr each
      exact ⟨_, .conditioned isNil written comparisonsWritten⟩

end Joins

section Texts

/-- What stands in a clause besides quoted names. -/
def fixedTexts : List String :=
  ["", " ", " ON ", "(", ")", " AND "] ++ Filter.operators ++ Join.all.map Join.keyword

/-- The property holds of what clauses consist of, and of what is put together from that. -/
structure Compositional
    (delimiter : String)
    (holds : String → Prop) : Prop where
  fixed :
    ∀ text ∈ fixedTexts, holds text
  quoted :
    ∀ {reference text},
      Identifier.quote delimiter reference = .ok text →
      holds text
  append :
    ∀ {text other},
      holds text →
      holds other →
      holds (text ++ other)

namespace Compositional

variable {delimiter : String} {holds : String → Prop} {texts : List String}

/-- The property holds of texts one after the other. -/
theorem join
    (compositional : Compositional delimiter holds)
    (each : ∀ text ∈ texts, holds text) :
    holds (String.join texts) := by
  induction texts with
  | nil =>
      exact compositional.fixed "" (by decide)
  | cons first rest inductionHypothesis =>
      obtain ⟨opening, following⟩ := List.forall_mem_cons.mp each
      rw [String.join_cons]
      exact compositional.append opening (inductionHypothesis following)

/-- The property holds of texts that are joined by "AND". -/
theorem conjunction
    (compositional : Compositional delimiter holds)
    (each : ∀ text ∈ texts, holds text) :
    holds (conjunction texts) := by
  have inner : holds (" AND ".intercalate texts) := by
    induction texts with
    | nil =>
        exact compositional.fixed "" (by decide)
    | cons first rest inductionHypothesis =>
        obtain ⟨opening, following⟩ := List.forall_mem_cons.mp each
        cases rest with
        | nil =>
            simpa using opening
        | cons next others =>
            rw [String.intercalate_cons_cons]
            have joint := compositional.append opening (compositional.fixed " AND " (by decide))
            exact compositional.append joint (inductionHypothesis following)
  have opened := compositional.append (compositional.fixed "(" (by decide)) inner
  exact compositional.append opened (compositional.fixed ")" (by decide))

/-- The property holds of comparisons of columns. -/
theorem comparison
    (compositional : Compositional delimiter holds)
    {item : Value × Value}
    {text : String}
    (isWritten : ComparisonWritten delimiter item text) :
    holds text := by
  obtain ⟨_, known, written, _, writtenOther⟩ := isWritten
  have isFixed := List.mem_append_left (Join.all.map Join.keyword)
    (List.mem_append_right ["", " ", " ON ", "(", ")", " AND "] known)
  have space := compositional.fixed " " (by decide)
  have column := compositional.append (compositional.quoted written) space
  have operated := compositional.append column (compositional.fixed _ isFixed)
  exact compositional.append (compositional.append operated space)
    (compositional.quoted writtenOther)

/-- The property holds of joined tables. -/
theorem joined
    (compositional : Compositional delimiter holds)
    {joined : Joined}
    {text : String}
    (isWritten : joined.Written delimiter text) :
    holds text := by
  have named :
      ∀ (join : Join) {name quoted : String},
        Identifier.quote delimiter (.text name) = .ok quoted →
        holds (" " ++ join.keyword ++ " " ++ quoted) := by
    intro join name quoted written
    have isFixed : join.keyword ∈ fixedTexts :=
      List.mem_append_right _ (List.mem_map_of_mem (Join.mem_all join))
    have space := compositional.fixed " " (by decide)
    have keyword := compositional.append space (compositional.fixed _ isFixed)
    exact compositional.append (compositional.append keyword space) (compositional.quoted written)
  cases isWritten with
  | bare written =>
      exact named .cross written
  | @conditioned join name quoted items texts nonempty written comparisons =>
      have each : ∀ text ∈ texts, holds text := by
        intro text member
        obtain ⟨item, isWritten⟩ := Success.exists_forall₂_iff.mp ⟨_, comparisons.flip⟩ text member
        exact compositional.comparison isWritten
      have condition := compositional.append (named join written)
        (compositional.fixed " ON " (by decide))
      exact compositional.append condition (compositional.conjunction each)

end Compositional

end Texts

end QueryComposer.Table
