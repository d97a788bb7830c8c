import QueryComposer.Proofs.Association
import QueryComposer.Proofs.Filter.Owned
import QueryComposer.Proofs.Filter.Placed
import QueryComposer.Proofs.Table.Joined

namespace QueryComposer.Table

/-!
# Which join a table is joined by

A table specification is read as a base table and steps. A step is one joined table with the
keywords between the table before it and itself: the last of them is its join, and an inner join
is meant if there is none. How mappings divide the joined tables among themselves does not matter.
-/

open Filter (Bound textPairs)
open Identifier (Quotable)

/-- What follows the base table: a join keyword, or a table and the items of its condition. -/
inductive Token where
  | keyword (join : Join)
  | table (name : String) (items : List (Value × Value))

/-- A joined table and the keywords between the table before it and itself. -/
structure Step where
  keywords : List Join
  name : String
  items : List (Value × Value)

namespace Step

/-- The last keyword before the table holds for it, and an inner join is meant if there is none. -/
def joined (step : Step) : Joined :=
  ⟨step.keywords.getLastD .inner, step.name, step.items⟩

/-- What a step consists of. -/
def tokens (step : Step) : List Token :=
  step.keywords.map .keyword ++ [.table step.name step.items]

end Step

/-- The tables of a mapping, with the items of their conditions. -/
abbrev Tables :=
  List (String × List (Value × Value))

namespace Tables

/-- A mapping from tables to their conditions. -/
def pairs (tables : Tables) : List (Value × Value) :=
  textPairs (tables.map (Prod.map id .map))

/-- What a mapping of tables is read as. -/
def tokens (tables : Tables) : List Token :=
  tables.map fun table => .table table.1 table.2

variable {tables : Tables}

theorem pairs_ne_nil (nonempty : tables ≠ []) : tables.pairs ≠ [] := by
  simpa [pairs, textPairs] using nonempty

theorem pairs_append (more : Tables) : pairs (tables ++ more) = tables.pairs ++ more.pairs := by
  simp [pairs, textPairs]

end Tables

/-- What the elements after the base table are read as. -/
inductive ElementsReadAs : List Value → List Token → Prop where
  | nil :
      ElementsReadAs [] []
  | keyword
      {token : String}
      {join : Join}
      {rest : List Value}
      {others : List Token}
      (spells : Join.Spells token join)
      (following : ElementsReadAs rest others) :
      ElementsReadAs (.text token :: rest) (.keyword join :: others)
  | mapping
      {tables : Tables}
      {rest : List Value}
      {others : List Token}
      (nonempty : tables ≠ [])
      (following : ElementsReadAs rest others) :
      ElementsReadAs (.map tables.pairs :: rest) (tables.tokens ++ others)

/-- The base table that a specification starts with, and the elements that follow it. -/
inductive StartsWith : Value → String → List Value → Prop where
  | text (base : String) :
      StartsWith (.text base) base []
  | list (base : String) (elements : List Value) :
      StartsWith (.list (.text base :: elements)) base elements
  | tuple (base : String) (elements : List Value) :
      StartsWith (.tuple (.text base :: elements)) base elements

/-- A specification is read as a base table and steps; keywords at its end hold for no table. -/
def ReadAs
    (tables : Value)
    (base : String)
    (steps : List Step) : Prop :=
  ∃ (elements : List Value) (trailing : List Join),
    StartsWith tables base elements ∧
      ElementsReadAs elements (steps.flatMap Step.tokens ++ trailing.map .keyword)

section Steps

/-- The joined tables among tokens, given the join that holds for the first of them. -/
def joinsFrom (held : Join) : List Token → List Joined
  | [] => []
  | .keyword found :: rest => joinsFrom found rest
  | .table name items :: rest => ⟨held, name, items⟩ :: joinsFrom .inner rest

/-- The last one of several keywords holds for the table that follows them. -/
theorem joinsFrom_keywords
    (held : Join)
    (keywords : List Join)
    (rest : List Token) :
    joinsFrom held (keywords.map .keyword ++ rest) = joinsFrom (keywords.getLastD held) rest := by
  induction keywords generalizing held with
  | nil =>
      rfl
  | cons keyword others inductionHypothesis =>
      rw [List.map_cons, List.cons_append, joinsFrom, inductionHypothesis, List.getLastD_cons]

/-- The joined tables of steps are found one after the other. -/
theorem joinsFrom_steps
    (steps : List Step)
    (trailing : List Join) :
    joinsFrom .inner (steps.flatMap Step.tokens ++ trailing.map .keyword) =
      steps.map Step.joined := by
  induction steps with
  | nil =>
      have ended := joinsFrom_keywords .inner trailing []
      rwa [List.append_nil] at ended
  | cons step rest inductionHypothesis =>
      rw [List.flatMap_cons, Step.tokens, List.append_assoc, List.append_assoc,
        joinsFrom_keywords, List.singleton_append, joinsFrom, inductionHypothesis]
      rfl

/-- All tokens belong to steps, but for keywords that no table follows. -/
theorem exists_steps (tokens : List Token) :
    ∃ (steps : List Step) (trailing : List Join),
      tokens = steps.flatMap Step.tokens ++ trailing.map .keyword := by
  induction tokens with
  | nil =>
      exact ⟨[], [], rfl⟩
  | cons token rest inductionHypothesis =>
      obtain ⟨steps, trailing, rfl⟩ := inductionHypothesis
      cases token with
      | table name items =>
          exact ⟨⟨[], name, items⟩ :: steps, trailing, rfl⟩
      | keyword join =>
          cases steps with
          | nil =>
              exact ⟨[], join :: trailing, rfl⟩
          | cons step others =>
              exact ⟨⟨join :: step.keywords, step.name, step.items⟩ :: others, trailing, rfl⟩

/-- The join of the first table holds for none after it. -/
theorem joinsFrom_tables
    (held : Join)
    {tables : Tables}
    (nonempty : tables ≠ [])
    (rest : List Token) :
    joinsFrom held (tables.tokens ++ rest) =
      joinsFrom held tables.tokens ++ joinsFrom .inner rest := by
  induction tables generalizing held with
  | nil =>
      exact absurd rfl nonempty
  | cons table others inductionHypothesis =>
      cases others with
      | nil =>
          rfl
      | cons next more =>
          have following := inductionHypothesis .inner (by simp)
          rw [Tables.tokens, List.map_cons, List.cons_append, joinsFrom, joinsFrom,
            List.cons_append]
          exact congrArg _ following

end Steps

section Clause

variable {delimiter : String}

/-- The tables of a mapping are compiled one by one, as they are written. -/
theorem compileJoins_eq_ok_iff
    {held : Join}
    {pairs : List (Value × Value)}
    {text : String} :
    compileJoins delimiter held pairs = .ok text ↔
      ∃ (tables : Tables) (texts : List String),
        pairs = tables.pairs ∧
          List.Forall₂ (Joined.Written delimiter) (joinsFrom held tables.tokens) texts ∧
          text = String.join texts := by
  induction pairs generalizing held text with
  | nil =>
      constructor
      · intro compiled
        cases compiled
        exact ⟨[], [], rfl, .nil, rfl⟩
      · rintro ⟨tables, texts, shape, written, rfl⟩
        cases tables with
        | nil =>
            cases written
            rfl
        | cons table others =>
            cases shape
  | cons pair rest inductionHypothesis =>
      rw [compileJoins]
      constructor
      · intro compiled
        obtain ⟨first, joined, compiled⟩ := Success.bind_eq_ok_iff.mp compiled
        obtain ⟨others, joinedOthers, compiled⟩ := Success.bind_eq_ok_iff.mp compiled
        cases compiled
        obtain ⟨name, items, rfl, written⟩ := compileJoin_eq_ok_iff.mp joined
        obtain ⟨tables, texts, rfl, writtenOthers, rfl⟩ := inductionHypothesis.mp joinedOthers
        exact ⟨(name, items) :: tables, first :: texts, rfl, .cons written writtenOthers,
          String.join_cons.symm⟩
      · rintro ⟨tables, texts, shape, written, rfl⟩
        cases tables with
        | nil =>
            cases shape
        | cons table others =>
            cases shape
            obtain ⟨first, more, writtenFirst, writtenOthers, rfl⟩ :=
              List.forall₂_cons_left_iff.mp written
            have joined := compileJoin_eq_ok_iff.mpr ⟨_, _, rfl, writtenFirst⟩
            have following := inductionHypothesis.mpr ⟨others, more, rfl, writtenOthers, rfl⟩
            refine Success.bind_eq_ok_iff.mpr ⟨_, joined, ?_⟩
            refine Success.bind_eq_ok_iff.mpr ⟨_, following, ?_⟩
            rw [String.join_cons]
            rfl

/-- A mapping is compiled before the elements that follow it. -/
theorem compileElements_map
    (held : Join)
    {pairs : List (Value × Value)}
    (nonempty : pairs ≠ [])
    (rest : List Value) :
    compileElements delimiter held (.map pairs :: rest) = do
      let first ← compileJoins delimiter held pairs
      let others ← compileElements delimiter .inner rest
      return first ++ others := by
  obtain ⟨pair, others, rfl⟩ := List.exists_cons_of_ne_nil nonempty
  rw [compileElements]

/-- What follows the base table is compiled exactly if it can be read, and as it is written. -/
theorem compileElements_eq_ok_iff
    {held : Join}
    {elements : List Value}
    {text : String} :
    compileElements delimiter held elements = .ok text ↔
      ∃ (tokens : List Token) (texts : List String),
        ElementsReadAs elements tokens ∧
          List.Forall₂ (Joined.Written delimiter) (joinsFrom held tokens) texts ∧
          text = String.join texts := by
  constructor
  · intro compiled
    induction elements generalizing held text with
    | nil =>
        cases compiled
        exact ⟨[], [], .nil, .nil, rfl⟩
    | cons element rest inductionHypothesis =>
        cases element with
        | text token =>
            rw [compileElements] at compiled
            cases named : Join.ofToken? token with
            | none =>
                rw [named] at compiled
                cases compiled
            | some found =>
                rw [named] at compiled
                obtain ⟨tokens, texts, read, written, rfl⟩ := inductionHypothesis compiled
                exact ⟨_, texts, .keyword (Join.ofToken?_eq_some_iff.mp named) read, written, rfl⟩
        | map pairs =>
            by_cases isNil : pairs = []
            · rw [isNil] at compiled
              cases compiled
            · rw [compileElements_map held isNil] at compiled
              obtain ⟨first, joined, compiled⟩ := Success.bind_eq_ok_iff.mp compiled
              obtain ⟨others, joinedOthers, compiled⟩ := Success.bind_eq_ok_iff.mp compiled
              cases compiled
              obtain ⟨tables, texts, rfl, written, rfl⟩ := compileJoins_eq_ok_iff.mp joined
              obtain ⟨tokens, more, read, writtenOthers, rfl⟩ := inductionHypothesis joinedOthers
              have nonempty : tables ≠ [] := by
                rintro rfl
                exact isNil rfl
              refine ⟨_, texts ++ more, .mapping nonempty read, ?_, String.join_append.symm⟩
              rw [joinsFrom_tables held nonempty]
              exact List.rel_append written writtenOthers
        | _ =>
            cases compiled
  · rintro ⟨tokens, texts, read, written, rfl⟩
    induction read generalizing held texts with
    | nil =>
        cases written
        rfl
    | keyword spells following inductionHypothesis =>
        rw [compileElements, Join.ofToken?_eq_some_iff.mpr spells]
        exact inductionHypothesis texts written
    | @mapping tables rest others nonempty following inductionHypothesis =>
        rw [joinsFrom_tables held nonempty] at written
        have writtenFirst := (List.forall₂_take_append texts _ _ written.flip).flip
        have writtenOthers := (List.forall₂_drop_append texts _ _ written.flip).flip
        have joined := compileJoins_eq_ok_iff.mpr ⟨tables, _, rfl, writtenFirst, rfl⟩
        have compiled := inductionHypothesis _ writtenOthers
        rw [compileElements_map held (Tables.pairs_ne_nil nonempty), joined, compiled]
        refine congrArg Except.ok ?_
        rw [← String.join_append, List.take_append_drop]

/-- What a specification starts with is compiled first. -/
theorem StartsWith.compile_eq
    {tables : Value}
    {base : String}
    {elements : List Value}
    (starts : StartsWith tables base elements) :
    compile delimiter tables = compileList delimiter (.text base :: elements) := by
  cases starts <;> rfl

theorem exists_startsWith
    {tables : Value}
    {clause : String}
    (compiled : compile delimiter tables = .ok clause) :
    ∃ base elements, StartsWith tables base elements := by
  have started :
      ∀ elements,
        compileList delimiter elements = .ok clause →
        ∃ base rest, elements = .text base :: rest := by
    intro elements compiled
    unfold compileList at compiled
    split at compiled
    · cases compiled
    · exact ⟨_, _, rfl⟩
    · cases compiled
  unfold compile at compiled
  split at compiled
  · exact ⟨_, _, .text _⟩
  · obtain ⟨base, rest, rfl⟩ := started _ compiled
    exact ⟨_, _, .list base rest⟩
  · obtain ⟨base, rest, rfl⟩ := started _ compiled
    exact ⟨_, _, .tuple base rest⟩
  · cases compiled

/-- A specification is compiled exactly if it can be read, and step by step as it is written. -/
theorem compile_eq_ok_iff
    {tables : Value}
    {clause : String} :
    compile delimiter tables = .ok clause ↔
      ∃ base steps quoted texts,
        ReadAs tables base steps ∧
          Identifier.quote delimiter (.text base) = .ok quoted ∧
          List.Forall₂ (Joined.Written delimiter) (steps.map Step.joined) texts ∧
          clause = quoted ++ String.join texts := by
  constructor
  · intro compiled
    obtain ⟨base, elements, starts⟩ := exists_startsWith compiled
    rw [starts.compile_eq, compileList] at compiled
    obtain ⟨quoted, written, compiled⟩ := Success.bind_eq_ok_iff.mp compiled
    obtain ⟨others, joined, compiled⟩ := Success.bind_eq_ok_iff.mp compiled
    cases compiled
    obtain ⟨tokens, texts, read, writtenOthers, rfl⟩ := compileElements_eq_ok_iff.mp joined
    obtain ⟨steps, trailing, rfl⟩ := exists_steps tokens
    rw [joinsFrom_steps] at writtenOthers
    exact ⟨base, steps, quoted, texts, ⟨elements, trailing, starts, read⟩, written,
      writtenOthers, rfl⟩
  · rintro ⟨base, steps, quoted, texts, ⟨elements, trailing, starts, read⟩, written, joined, rfl⟩
    rw [← joinsFrom_steps steps trailing] at joined
    have following := compileElements_eq_ok_iff.mpr ⟨_, texts, read, joined, rfl⟩
    rw [starts.compile_eq, compileList, written]
    exact Success.bind_eq_ok_iff.mpr ⟨_, rfl, Success.bind_eq_ok_iff.mpr ⟨_, following, rfl⟩⟩

/-- A specification is compiled exactly if its base table and all of its steps can be. -/
theorem exists_compile_iff
    (delimiter : String)
    (tables : Value) :
    (∃ clause, compile delimiter tables = .ok clause) ↔
      ∃ base steps,
        ReadAs tables base steps ∧
          Quotable (.text base) ∧
          ∀ step ∈ steps, step.joined.Acceptable := by
  have each :
      ∀ steps : List Step,
        (∃ texts, List.Forall₂ (Joined.Written delimiter) (steps.map Step.joined) texts) ↔
          ∀ step ∈ steps, step.joined.Acceptable := by
    intro steps
    rw [Success.exists_forall₂_iff, List.forall_mem_map]
    simp only [exists_written_iff]
  constructor
  · rintro ⟨clause, compiled⟩
    obtain ⟨base, steps, quoted, texts, read, written, joined, _⟩ := compile_eq_ok_iff.mp compiled
    exact ⟨base, steps, read, (Identifier.exists_quote_iff delimiter _).mp ⟨_, written⟩,
      (each steps).mp ⟨texts, joined⟩⟩
  · rintro ⟨base, steps, read, quotable, acceptable⟩
    obtain ⟨quoted, written⟩ := (Identifier.exists_quote_iff delimiter _).mpr quotable
    obtain ⟨texts, joined⟩ := (each steps).mpr acceptable
    exact ⟨_, compile_eq_ok_iff.mpr ⟨base, steps, quoted, texts, read, written, joined, rfl⟩⟩

end Clause

section Texts

variable {delimiter : String}

/-- The property holds of whole clauses. -/
theorem Compositional.compile
    {holds : String → Prop}
    (compositional : Compositional delimiter holds)
    {tables : Value}
    {clause : String}
    (compiled : Table.compile delimiter tables = .ok clause) :
    holds clause := by
  obtain ⟨base, steps, quoted, texts, _, written, joined, rfl⟩ := compile_eq_ok_iff.mp compiled
  apply compositional.append (compositional.quoted written)
  apply compositional.join
  intro text member
  obtain ⟨step, isWritten⟩ := Success.exists_forall₂_iff.mp ⟨_, joined.flip⟩ text member
  exact compositional.joined isWritten

/-- No question mark stands in the text, as every placeholder is one. -/
def Markless (text : String) : Prop :=
  '?' ∉ text.toList

theorem markless_compositional
    (markless : Markless delimiter) :
    Compositional delimiter Markless where
  fixed := by
    unfold Markless
    decide
  quoted written := List.count_eq_zero.mp (Filter.count_mark_quoted markless written)
  append opening closing := by
    rw [Markless, String.toList_append, List.mem_append]
    rintro (inFirst | inSecond)
    · exact opening inFirst
    · exact closing inSecond

/-- Texts without placeholders are put together into such texts. -/
theorem bound_compositional (mark : QuoteMark) :
    Compositional mark.text fun text => Bound text [] where
  fixed := by
    intro text member
    have plain : ∀ text ∈ fixedTexts, Placeholder.Plain text.toList := by decide
    exact .plain text (plain text member)
  quoted written := .quoted written
  append opening closing := opening.append closing

/-- A table clause that is written for a driver holds no placeholder. -/
theorem bound_of_compile
    (mark : QuoteMark)
    {tables : Value}
    {text : String}
    (compiled : compile mark.text tables = .ok text) :
    Bound text [] :=
  (bound_compositional mark).compile compiled

end Texts

section Mappings

variable {delimiter : String}

/-- The tables of one mapping can be divided between two mappings. -/
theorem compileJoins_append
    (held : Join)
    {pairs : List (Value × Value)}
    (nonempty : pairs ≠ [])
    (more : List (Value × Value)) :
    compileJoins delimiter held (pairs ++ more) = do
      let first ← compileJoins delimiter held pairs
      let others ← compileJoins delimiter .inner more
      return first ++ others := by
  induction pairs generalizing held with
  | nil =>
      exact absurd rfl nonempty
  | cons pair rest inductionHypothesis =>
      rw [List.cons_append, compileJoins, compileJoins]
      cases compileJoin delimiter held pair with
      | error error =>
          rfl
      | ok first =>
          cases rest with
          | nil =>
              change _ = (do
                let others ← compileJoins delimiter .inner more
                return (first ++ "") ++ others)
              rw [String.append_empty]
              rfl
          | cons next others =>
              rw [inductionHypothesis .inner (by simp)]
              cases compileJoins delimiter .inner (next :: others) with
              | error error =>
                  rfl
              | ok following =>
                  cases compileJoins delimiter .inner more with
                  | error error =>
                      rfl
                  | ok last =>
                      exact congrArg Except.ok String.append_assoc.symm

/-- One mapping joins the same tables as two mappings that it is divided into. -/
theorem compileElements_map_append
    (held : Join)
    {pairs more : List (Value × Value)}
    (nonempty : pairs ≠ [])
    (nonemptyMore : more ≠ [])
    (rest : List Value) :
    compileElements delimiter held (.map (pairs ++ more) :: rest) =
      compileElements delimiter held (.map pairs :: .map more :: rest) := by
  rw [compileElements_map held (by simp [nonempty]), compileElements_map held nonempty,
    compileElements_map .inner nonemptyMore, compileJoins_append held nonempty]
  cases compileJoins delimiter held pairs with
  | error error =>
      rfl
  | ok first =>
      cases compileJoins delimiter .inner more with
      | error error =>
          rfl
      | ok second =>
          cases compileElements delimiter .inner rest with
          | error error =>
              rfl
          | ok others =>
              exact congrArg Except.ok String.append_assoc

/-- What stands before elements does not tell apart those that are compiled alike. -/
theorem compileElements_congr
    (before : List Value)
    {left right : List Value}
    (same :
      ∀ held, compileElements delimiter held left = compileElements delimiter held right)
    (held : Join) :
    compileElements delimiter held (before ++ left) =
      compileElements delimiter held (before ++ right) := by
  induction before generalizing held with
  | nil =>
      exact same held
  | cons element rest inductionHypothesis =>
      rw [List.cons_append, List.cons_append]
      cases element with
      | text token =>
          rw [compileElements, compileElements]
          cases Join.ofToken? token with
          | none =>
              rfl
          | some found =>
              exact inductionHypothesis found
      | map pairs =>
          cases pairs with
          | nil =>
              rfl
          | cons pair others =>
              rw [compileElements, compileElements, inductionHypothesis .inner]
      | _ =>
          rfl

/-- A list of tables is compiled alike whether a mapping in it is divided or not. -/
theorem compile_map_append
    {listed : List Value → Value}
    (isListed : listed = .list ∨ listed = .tuple)
    (base : Value)
    (before after : List Value)
    {pairs more : List (Value × Value)}
    (nonempty : pairs ≠ [])
    (nonemptyMore : more ≠ []) :
    compile delimiter (listed (base :: before ++ .map (pairs ++ more) :: after)) =
      compile delimiter (listed (base :: before ++ .map pairs :: .map more :: after)) := by
  have elements :
      compileElements delimiter .inner (before ++ .map (pairs ++ more) :: after) =
        compileElements delimiter .inner (before ++ .map pairs :: .map more :: after) :=
    compileElements_congr before
      (fun held => compileElements_map_append held nonempty nonemptyMore after) .inner
  have lists :
      compileList delimiter (base :: (before ++ .map (pairs ++ more) :: after)) =
        compileList delimiter (base :: (before ++ .map pairs :: .map more :: after)) := by
    cases base with
    | text name =>
        rw [compileList, compileList, elements]
    | _ =>
        rfl
  rcases isListed with rfl | rfl <;> exact lists

end Mappings

/-- What is compiled to a clause, what the clause is, and that mappings only list tables. -/
structure JoinsInScope (delimiter : String) : Prop where
  /-- A specification is compiled exactly if its base table and all of its steps can be. -/
  accepted :
    ∀ tables,
      (∃ clause, compile delimiter tables = .ok clause) ↔
        ∃ base steps,
          ReadAs tables base steps ∧
            Quotable (.text base) ∧
            ∀ step ∈ steps, step.joined.Acceptable
  /-- The clause is the base table and, in their order, one join for each step. -/
  written :
    ∀ tables clause,
      compile delimiter tables = .ok clause ↔
        ∃ base steps quoted texts,
          ReadAs tables base steps ∧
            Identifier.quote delimiter (.text base) = .ok quoted ∧
            List.Forall₂ (Joined.Written delimiter) (steps.map Step.joined) texts ∧
            clause = quoted ++ String.join texts
  /-- The clause holds no placeholder, unless the delimiter looks like one. -/
  unbound :
    ∀ tables clause,
      Markless delimiter →
      compile delimiter tables = .ok clause →
      Markless clause
  /-- A mapping may be divided into two that follow each other. -/
  divided :
    ∀ (listed : List Value → Value) (base : Value) (before after : List Value)
      (pairs more : List (Value × Value)),
      listed = .list ∨ listed = .tuple →
      pairs ≠ [] →
      more ≠ [] →
      compile delimiter (listed (base :: before ++ .map (pairs ++ more) :: after)) =
        compile delimiter (listed (base :: before ++ .map pairs :: .map more :: after))
  /-- Two mappings of distinct tables that follow each other may be merged. -/
  merged :
    ∀ (listed : List Value → Value) (base : Value) (before after : List Value)
      (tables more : Tables),
      listed = .list ∨ listed = .tuple →
      tables ≠ [] →
      more ≠ [] →
      Association.Distinct (tables ++ more) →
      compile delimiter
          (listed (base :: before ++ .map (Tables.pairs (Association.merge tables more)) :: after)) =
        compile delimiter (listed (base :: before ++ .map tables.pairs :: .map more.pairs :: after))

/--
A table specification is compiled exactly if it can be read as a base table and steps. Every table
is joined by the last keyword between the table before it and itself, or by an inner join, however
the tables are divided among mappings.
-/
theorem compile_joinsInScope (delimiter : String) : JoinsInScope delimiter where
  accepted := exists_compile_iff delimiter
  written _ _ := compile_eq_ok_iff
  unbound _ _ markless compiled := (markless_compositional markless).compile compiled
  divided _ base before after _ _ isListed nonempty nonemptyMore :=
    compile_map_append isListed base before after nonempty nonemptyMore
  merged listed base before after tables more isListed nonempty nonemptyMore distinct := by
    rw [Association.merge_of_distinct distinct, Tables.pairs_append]
    exact compile_map_append isListed base before after (Tables.pairs_ne_nil nonempty)
      (Tables.pairs_ne_nil nonemptyMore)

/-- A guest book to which tables are joined, the first of them under the last of two keywords. -/
def joinedGuestbook (elements : List Value) : Value :=
  .list (.text "guestbook as gb" ::
    [.text "cross join", .text " left\touter  JOIN "] ++ elements)

/-- The authors of the entries. -/
def authors : Tables :=
  [("author", [(.text "gb.author", .text "author.id")])]

/-- The likes of other entries. -/
def likes : Tables :=
  [("likes", [(.text "gb.id <>", .column (.text "likes.id"))])]

/-- The clause of the guest book with both tables. -/
def guestbookClause : String :=
  "\"guestbook\" as gb" ++
    " LEFT OUTER JOIN \"author\" ON (\"gb\".\"author\" = \"author\".\"id\")" ++
    " INNER JOIN \"likes\" ON (\"gb\".\"id\" <> \"likes\".\"id\")"

/-- Two mappings are merged without a change of the clause; the keyword holds for one table only. -/
theorem compile_joinsInScope_guestbook :
    Association.Distinct (authors ++ likes) ∧
      compile "\"" (joinedGuestbook [.map (Tables.pairs (Association.merge authors likes))]) =
        compile "\"" (joinedGuestbook [.map authors.pairs, .map likes.pairs]) ∧
      compile "\"" (joinedGuestbook [.map authors.pairs, .map likes.pairs]) =
        .ok guestbookClause ∧
      Markless "\"" ∧
      Markless guestbookClause := by
  have distinct : Association.Distinct (authors ++ likes) := ⟨rfl, rfl, trivial⟩
  have merged := (compile_joinsInScope "\"").merged .list (.text "guestbook as gb")
    [.text "cross join", .text " left\touter  JOIN "] [] authors likes (.inl rfl)
    (by simp [authors]) (by simp [likes]) distinct
  have compiled :
      compile "\"" (joinedGuestbook [.map authors.pairs, .map likes.pairs]) =
        .ok guestbookClause := by
    rfl
  have markless : Markless "\"" := by
    unfold Markless
    decide
  exact ⟨distinct, merged, compiled, markless,
    (compile_joinsInScope "\"").unbound _ _ markless compiled⟩

end QueryComposer.Table
