import QueryComposer.Proofs.Filter.Language
import QueryComposer.Statement.Select
import QueryComposer.Statement.Upsert

namespace QueryComposer

/-!
# What the composition of a statement is refused for

A statement that cannot be composed is refused for an argument that says nothing, or for a value
of a type that cannot stand where it does. Nothing else goes wrong before a statement is sent.
-/

open Binding (Refuses)

/-- What composing a statement fails with. -/
inductive OfComposition : Error → Prop where
  | argument {error : Error} (about : error.isArgument = true) : OfComposition error
  | misuse (cause : Misuse) : OfComposition (.misuse cause)

namespace OfComposition

variable {error : Error}

theorem kind?_ne_transactionState
    (refused : OfComposition error) :
    error.kind? ≠ some .transactionState := by
  intro isState
  cases refused with
  | argument about =>
      rw [Error.isArgument, isState] at about
      cases about
  | misuse cause =>
      cases isState

/-- A reference that cannot be quoted is an argument that says nothing. -/
theorem quote_failsWith
    (delimiter : String)
    (reference : Value) :
    FailsWith OfComposition (Identifier.quote delimiter reference) :=
  Identifier.quote_failsWith (fun _ => .argument rfl) delimiter reference

theorem compileGroup_refuses
    (delimiter : String)
    (entries : List Filter.Entry) :
    Refuses OfComposition (Filter.compileGroup delimiter entries) :=
  (Filter.compileGroup_follows delimiter entries).refuses
    (fun _ => .argument rfl) (fun _ => .argument rfl) fun _ _ => .inr .misuse

/-- A filter that cannot be compiled is no better, unless an operator of a wrong type is misused. -/
theorem compile_refuses
    (delimiter : String)
    (filters : Value) :
    Refuses OfComposition (Filter.compile delimiter filters) :=
  Filter.compile_refuses (fun _ => .argument rfl) (fun _ => .argument rfl) delimiter
    fun _ _ => .inr .misuse

end OfComposition

namespace Filter

theorem isEmpty_failsWith (filters : Value) : FailsWith OfComposition (isEmpty filters) := by
  unfold isEmpty
  split
  · exact .ok true
  · exact (parse_failsWith (fun _ => .argument rfl) filters).map _

theorem splitAnyKey_failsWith (key : Value) : FailsWith OfComposition (splitAnyKey key) := by
  cases key with
  | text name =>
      exact .ok _
  | bytes octets =>
      refine FailsWith.map ?_ _
      unfold splitOctets
      dsimp only
      split
      · exact .ok _
      · split
        · exact .error (.misuse _)
        · exact .ok _
  | _ =>
      exact .error (.misuse _)

end Filter

namespace Table

theorem joinPredicate_failsWith
    (table : String)
    (pair : Value × Value) :
    FailsWith OfComposition (joinPredicate table pair) := by
  unfold joinPredicate
  split
  · exact .ok _
  · exact .ok _
  · exact .error (.argument rfl)

theorem compileJoin_failsWith
    (delimiter : String)
    (join : Join)
    (pair : Value × Value) :
    FailsWith OfComposition (compileJoin delimiter join pair) := by
  unfold compileJoin
  split
  · next table pairs =>
      refine (OfComposition.quote_failsWith delimiter (.text table)).bind fun quoted _ => ?_
      split
      · split
        · exact .ok _
        · exact .error (.argument rfl)
      · have reads : FailsWith OfComposition (pairs.mapM (joinPredicate table)) :=
          .mapM fun item _ => joinPredicate_failsWith table item
        refine reads.bind fun predicates _ => ?_
        have compiles : FailsWith OfComposition (compileCondition delimiter predicates) :=
          (OfComposition.compileGroup_refuses delimiter _).collect.map _
        exact compiles.bind fun _ _ => .ok _
  · exact .error (.argument rfl)
  · exact .error (.argument rfl)

theorem compileJoins_failsWith
    (delimiter : String)
    (join : Join)
    (pairs : List (Value × Value)) :
    FailsWith OfComposition (compileJoins delimiter join pairs) := by
  induction pairs generalizing join with
  | nil =>
      exact .ok ""
  | cons pair rest inductionHypothesis =>
      refine (compileJoin_failsWith delimiter join pair).bind fun _ _ => ?_
      exact (inductionHypothesis .inner).bind fun _ _ => .ok _

theorem compileElements_failsWith
    (delimiter : String)
    (join : Join)
    (elements : List Value) :
    FailsWith OfComposition (compileElements delimiter join elements) := by
  induction elements generalizing join with
  | nil =>
      exact .ok ""
  | cons element rest inductionHypothesis =>
      unfold compileElements
      split
      · cases ‹_ :: _ = []›
      · next _ tokens same =>
          cases same
          split
          · exact inductionHypothesis _
          · exact .error (.argument rfl)
      · next same =>
          cases same
          refine (compileJoins_failsWith delimiter join _).bind fun _ _ => ?_
          exact (inductionHypothesis .inner).bind fun _ _ => .ok _
      · exact .error (.argument rfl)

theorem compile_failsWith
    (delimiter : String)
    (tables : Value) :
    FailsWith OfComposition (compile delimiter tables) := by
  have compilesList : ∀ elements, FailsWith OfComposition (compileList delimiter elements) := by
    intro elements
    unfold compileList
    split
    · exact .error (.argument rfl)
    · refine (OfComposition.quote_failsWith delimiter _).bind fun _ _ => ?_
      exact (compileElements_failsWith delimiter .inner _).bind fun _ _ => .ok _
    · exact .error (.argument rfl)
  unfold compile
  split
  · exact compilesList _
  · exact compilesList _
  · exact compilesList _
  · exact .error (.argument rfl)

end Table

namespace Statement

theorem members_failsWith (argument : Value) : FailsWith OfComposition (members argument) := by
  unfold members
  split
  · exact .ok _
  · exact .error (.misuse _)

theorem listOf_failsWith (argument : Value) : FailsWith OfComposition (listOf argument) := by
  unfold listOf
  split
  · exact .ok _
  · exact .ok _
  · exact members_failsWith argument

theorem quoteAll_failsWith
    (delimiter : String)
    (identifiers : List Value) :
    FailsWith OfComposition (quoteAll delimiter identifiers) := by
  have quotes : FailsWith OfComposition (identifiers.mapM (Identifier.quote delimiter)) :=
    .mapM fun identifier _ => OfComposition.quote_failsWith delimiter identifier
  exact quotes.bind fun _ _ => .ok _

theorem pairsOf_failsWith (argument : Value) : FailsWith OfComposition (pairsOf argument) := by
  unfold pairsOf
  split
  · exact .ok _
  · exact .error (.misuse _)

theorem requireFilter_failsWith (filters : Value) :
    FailsWith OfComposition (requireFilter filters) := by
  refine (Filter.isEmpty_failsWith filters).bind fun isVacant _ => ?_
  split
  · exact .error (.argument rfl)
  · exact .ok _

/-- What a value set is refused for: it has no values, or it is no list of rows. -/
def OfRows (error : Error) : Prop :=
  error.kind? = some .emptyValues ∨ error.kind? = some .invalidArgument

theorem OfRows.ofComposition
    (error : Error)
    (refused : OfRows error) :
    OfComposition error := by
  apply OfComposition.argument
  unfold Error.isArgument
  rcases refused with isEmpty | isInvalid
  · rw [isEmpty]
  · rw [isInvalid]

theorem checkColumn_refuses (key : Value) : FailsWith OfRows (checkColumn key) := by
  unfold checkColumn
  split
  · exact .ok _
  · exact .error (.inr rfl)

theorem checkColumn_failsWith (key : Value) : FailsWith OfComposition (checkColumn key) :=
  (checkColumn_refuses key).mono OfRows.ofComposition

/-- What a composition collects is a statement unless the composition is refused. -/
theorem composed_failsWith
    {composition : Binding String}
    (refuses : Refuses OfComposition composition) :
    FailsWith OfComposition (composed composition) :=
  refuses.collect.map _

theorem insert_failsWith
    (delimiter : String)
    (table columns : Value) :
    FailsWith OfComposition (insert delimiter table columns) := by
  unfold insert
  split
  · exact .error (.argument rfl)
  · refine (members_failsWith columns).bind fun keys _ => ?_
    refine (FailsWith.mapM fun key _ => checkColumn_failsWith key).bind fun names _ => ?_
    refine (quoteAll_failsWith delimiter _).bind fun _ _ => ?_
    exact (OfComposition.quote_failsWith delimiter table).bind fun _ _ => .ok _

theorem delete_failsWith
    (delimiter : String)
    (table filters : Value) :
    FailsWith OfComposition (delete delimiter table filters) := by
  apply composed_failsWith
  refine (Refuses.lift (requireFilter_failsWith filters)).bind fun _ => ?_
  refine (OfComposition.compile_refuses delimiter filters).bind fun _ => ?_
  exact (Refuses.lift (OfComposition.quote_failsWith delimiter table)).bind fun _ => .pure _

theorem assignment_refuses
    (delimiter : String)
    (pair : Value × Value) :
    Refuses OfComposition (assignment delimiter pair) := by
  rcases pair with ⟨key, value⟩
  refine (Refuses.lift (checkColumn_failsWith key)).bind fun name => ?_
  dsimp only
  split
  · exact .throw (.argument rfl)
  · refine (Refuses.lift (OfComposition.quote_failsWith delimiter _)).bind fun _ => ?_
    refine (Refuses.bindValue value).bind fun _ => ?_
    split
    · exact .pure _
    · exact .pure _

theorem assignments_refuses
    (delimiter : String)
    (pairs : List (Value × Value)) :
    Refuses OfComposition (assignments delimiter pairs) := by
  induction pairs with
  | nil =>
      exact .pure []
  | cons pair rest inductionHypothesis =>
      refine (assignment_refuses delimiter pair).bind fun _ => ?_
      exact inductionHypothesis.bind fun _ => .pure _

theorem update_failsWith
    (delimiter : String)
    (table values filters : Value) :
    FailsWith OfComposition (update delimiter table values filters) := by
  apply composed_failsWith
  refine .guard (.argument rfl) ?_
  refine (Refuses.lift (requireFilter_failsWith filters)).bind fun _ => ?_
  refine (Refuses.lift (pairsOf_failsWith values)).bind fun pairs => ?_
  refine (assignments_refuses delimiter pairs).bind fun _ => ?_
  refine (OfComposition.compile_refuses delimiter filters).bind fun _ => ?_
  exact (Refuses.lift (OfComposition.quote_failsWith delimiter table)).bind fun _ => .pure _

theorem select_failsWith
    (delimiter : String)
    (columns tables filters order : Value) :
    FailsWith OfComposition (select delimiter columns tables filters order) := by
  apply composed_failsWith
  refine (Refuses.lift (listOf_failsWith columns)).bind fun names => ?_
  refine .guard (.argument rfl) ?_
  refine (Refuses.lift (quoteAll_failsWith delimiter names)).bind fun _ => ?_
  refine (Refuses.lift (Table.compile_failsWith delimiter tables)).bind fun _ => ?_
  have conditions : Refuses OfComposition (whereClause delimiter filters) := by
    refine (Refuses.lift (Filter.isEmpty_failsWith filters)).bind fun isVacant => ?_
    split
    · exact .pure _
    · exact (OfComposition.compile_refuses delimiter filters).bind fun _ => .pure _
  refine conditions.bind fun _ => ?_
  have orders : FailsWith OfComposition (orderClause delimiter order) := by
    refine (listOf_failsWith order).bind fun ordering _ => ?_
    split
    · exact .ok _
    · exact (quoteAll_failsWith delimiter ordering).bind fun _ _ => .ok _
  exact (Refuses.lift orders).bind fun _ => .pure _

theorem rowOfPairs_refuses (pairs : List (Value × Value)) :
    FailsWith OfRows (rowOfPairs pairs) := by
  induction pairs with
  | nil =>
      exact .ok []
  | cons pair rest inductionHypothesis =>
      refine (checkColumn_refuses pair.1).bind fun _ _ => ?_
      exact inductionHypothesis.bind fun _ _ => .ok _

theorem checkRows_refuses
    (index : Nat)
    (expected : Option (List String))
    (rows : List Value) :
    FailsWith OfRows (checkRows index expected rows) := by
  induction rows generalizing index expected with
  | nil =>
      exact .ok []
  | cons value rest inductionHypothesis =>
      cases value with
      | map pairs =>
          refine (rowOfPairs_refuses pairs).bind fun row _ => ?_
          dsimp only
          split
          · exact (inductionHypothesis _ _).bind fun _ _ => .ok _
          · exact .error (.inr rfl)
      | _ =>
          exact .error (.inr rfl)

/-- A value set that is not accepted is empty, or it is invalid. -/
theorem normalizeRows_refuses (values : Value) : FailsWith OfRows (normalizeRows values) := by
  have reads : FailsWith OfRows (rowValues values) := by
    unfold rowValues
    split
    · exact .ok _
    · exact .ok _
    · exact .ok _
    · exact .error (.inr rfl)
  refine reads.bind fun rows _ => ?_
  split
  · exact .error (.inl rfl)
  · split
    · exact checkRows_refuses 0 none _
    · exact .error (.inl rfl)

theorem normalizeRows_failsWith (values : Value) :
    FailsWith OfComposition (normalizeRows values) :=
  (normalizeRows_refuses values).mono OfRows.ofComposition

theorem keyValues_failsWith
    (row : List (Value × Value))
    (keys : List Value) :
    FailsWith OfComposition (keyValues row keys) := by
  induction keys with
  | nil =>
      exact .ok _
  | cons key rest inductionHypothesis =>
      unfold keyValues
      split
      · exact .error (.misuse _)
      · split
        · exact .ok none
        · exact .ok none
        · exact inductionHypothesis.bind fun _ _ => .ok _

theorem upsertUpdate_failsWith
    (delimiter : String)
    (table row keys : Value) :
    FailsWith OfComposition (upsertUpdate delimiter table row keys) := by
  refine (pairsOf_failsWith row).bind fun pairs _ => ?_
  have strips : FailsWith OfComposition (plainRow pairs) := by
    refine FailsWith.bind (.mapM fun pair _ => ?_) fun _ _ => .ok _
    exact (Filter.splitAnyKey_failsWith pair.1).bind fun _ _ => .ok _
  refine strips.bind fun plain _ => ?_
  refine (members_failsWith keys).bind fun keyColumns _ => ?_
  refine (keyValues_failsWith plain keyColumns).bind fun found _ => ?_
  split
  · exact .ok none
  · dsimp only
    split
    · exact .ok none
    · exact (update_failsWith delimiter table _ _).bind fun _ _ => .ok _

end Statement

end QueryComposer
