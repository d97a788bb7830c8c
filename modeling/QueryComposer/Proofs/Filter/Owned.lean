import QueryComposer.Proofs.Filter.Traversal

namespace QueryComposer.Filter

/-!
# Whom a placeholder belongs to

The text of a filter is `Composed` of parts: its conditions, each with the values that it binds,
and what joins them. The pieces of a condition have one placeholder for each of its values. So the
first placeholder of the text belongs to the condition with the first value, the second one to that
with the second value, and so on.

`compile_traverses` says how compiling a filter ends in every case: which values have been bound,
and to which placeholders they belong.
-/

/-- A piece of a text: characters that stand for themselves, or a placeholder. -/
inductive Piece where
  | plain (text : String)
  | mark

namespace Piece

/-- What is written for a piece. -/
def text : Piece → String
  | .plain text => text
  | .mark => placeholder

/-- The piece is a placeholder. -/
def isMark : Piece → Bool
  | .plain _ => false
  | .mark => true

/-- The text of several pieces. -/
def textOf (pieces : List Piece) : String :=
  String.join (pieces.map text)

/-- As many placeholders as counted, with commas between them. -/
def marks : Nat → List Piece
  | 0 => []
  | 1 => [.mark]
  | count + 2 => .mark :: .plain "," :: marks (count + 1)

end Piece

/-- The pieces of a condition, with one placeholder for each of its values. -/
inductive Predicate.Divided (delimiter : String) :
    Predicate → List Piece → List Value → Prop where
  | value
      {column operand : Value}
      {operator quoted : String}
      (known : operator ∈ operators)
      (written : Identifier.quote delimiter column = .ok quoted)
      (isScalar : operand.isScalar = true) :
      Divided delimiter
        ⟨column, .text operator, operand⟩
        [.plain quoted, .plain (" " ++ operator ++ " "), .mark]
        [operand]
  | column
      {column other : Value}
      {operator quoted quotedOther : String}
      (known : operator ∈ operators)
      (written : Identifier.quote delimiter column = .ok quoted)
      (writtenOther : Identifier.quote delimiter other = .ok quotedOther) :
      Divided delimiter
        ⟨column, .text operator, .column other⟩
        [.plain quoted, .plain (" " ++ operator ++ " "), .plain quotedOther]
        []
  | members
      {column operand : Value}
      {quoted : String}
      {members : List Value}
      (written : Identifier.quote delimiter column = .ok quoted)
      (listed : operand = .list members ∨ operand = .tuple members)
      (nonempty : members ≠ [])
      (areScalars : ∀ member ∈ members, member.isScalar = true) :
      Divided delimiter
        ⟨column, .text defaultOperator, operand⟩
        (.plain quoted :: .plain " IN (" :: Piece.marks members.length ++ [.plain ")"])
        members

/-- A part of the text of a filter: what joins conditions, or a condition and its values. -/
inductive Part where
  | joint (text : String)
  | test (p : Predicate) (pieces : List Piece) (values : List Value)

namespace Part

/-- The pieces of a part. -/
def pieces : Part → List Piece
  | .joint text => [.plain text]
  | .test _ pieces _ => pieces

/-- The text of a part. -/
def text (part : Part) : String :=
  Piece.textOf part.pieces

/-- The values that a part binds. -/
def values : Part → List Value
  | .joint _ => []
  | .test _ _ values => values

/-- The condition that a part is. -/
def predicate? : Part → Option Predicate
  | .joint _ => none
  | .test p _ _ => some p

/-- What may join conditions. -/
def joints : List String :=
  ["(", ")", " AND ", " OR "]

/-- A part is one of the joints, or a condition as it is written. -/
inductive Fits (delimiter : String) : Part → Prop where
  | joint
      {text : String}
      (known : text ∈ joints) :
      Fits delimiter (.joint text)
  | test
      {p : Predicate}
      {pieces : List Piece}
      {values : List Value}
      (divided : p.Divided delimiter pieces values) :
      Fits delimiter (.test p pieces values)

end Part

/-- The text and the values of parts, and the conditions among them. -/
structure Composed
    (delimiter : String)
    (parts : List Part)
    (predicates : List Predicate)
    (text : String)
    (values : List Value) : Prop where
  fits : ∀ part ∈ parts, part.Fits delimiter
  tests : parts.filterMap Part.predicate? = predicates
  spelled : String.join (parts.map Part.text) = text
  bound : parts.flatMap Part.values = values

/-- The places of the parts that some things belong to, given how many each part has. -/
def owners
    (count : Part → Nat)
    (parts : List Part) :
    List Nat :=
  parts.zipIdx.flatMap fun (part, place) => List.replicate (count part) place

/-- For each placeholder of the text, in order, the place of the part in which it stands. -/
def markOwners (parts : List Part) : List Nat :=
  owners (·.pieces.countP Piece.isMark) parts

/-- For each question mark of the text, in order, the place of the part in which it stands. -/
def questionOwners (parts : List Part) : List Nat :=
  owners (·.text.toList.count '?') parts

/-- For each of the values, in order, the place of the part that binds it. -/
def valueOwners (parts : List Part) : List Nat :=
  owners (·.values.length) parts

/-- How compiling a filter ends, and which values are bound then. -/
inductive Traversed
    (delimiter : String)
    (filters : Value)
    (bound : List Value) :
    Except Error String × List Value →
    Prop where
  /-- A filter that cannot be parsed binds nothing. -/
  | unparsed
      {error : Error}
      (refused : parse filters = .error error) :
      Traversed delimiter filters bound (.error error, bound)
  /-- The conditions before the first visit that is refused have bound their values. -/
  | refused
      {entries : List Entry}
      {passed : List Predicate}
      {failing : Visit}
      {later : List Visit}
      {error : Error}
      (parsed : parse filters = .ok entries)
      (visited : visits entries = passed.map .test ++ failing :: later)
      (ordered : passed <+: predicatesOf filters)
      (acceptable : ∀ p ∈ passed, p.Acceptable)
      (unacceptable : ¬ failing.Acceptable)
      (raised : failing.RefusedWith delimiter error) :
      Traversed delimiter filters bound
        (.error error, bound ++ passed.flatMap Predicate.boundValues)
  /--
  All conditions have bound their values, each of which has its placeholder. A question mark is
  nothing else, unless the delimiter has one.
  -/
  | compiled
      {entries : List Entry}
      {parts : List Part}
      {text : String}
      (parsed : parse filters = .ok entries)
      (visited : visits entries = (predicatesOf filters).map .test)
      (acceptable : ∀ p ∈ predicatesOf filters, p.Acceptable)
      (composed :
        Composed delimiter parts (predicatesOf filters) text
          ((predicatesOf filters).flatMap Predicate.boundValues))
      (owned : markOwners parts = valueOwners parts)
      (visible : '?' ∉ delimiter.toList → questionOwners parts = markOwners parts) :
      Traversed delimiter filters bound
        (.ok text, bound ++ (predicatesOf filters).flatMap Predicate.boundValues)

namespace Composed

variable {delimiter : String}

theorem nil : Composed delimiter [] [] "" [] :=
  ⟨by simp, rfl, rfl, rfl⟩

theorem joint
    {text : String}
    (known : text ∈ Part.joints) :
    Composed delimiter [.joint text] [] text [] where
  fits := List.forall_mem_singleton.mpr (.joint known)
  tests := rfl
  spelled := by simp [Part.text, Part.pieces, Piece.textOf, Piece.text]
  bound := rfl

theorem test
    {p : Predicate}
    {pieces : List Piece}
    {values : List Value}
    (divided : p.Divided delimiter pieces values) :
    Composed delimiter [.test p pieces values] [p] (Piece.textOf pieces) values where
  fits := List.forall_mem_singleton.mpr (.test divided)
  tests := rfl
  spelled := by simp [Part.text, Part.pieces]
  bound := by simp [Part.values]

theorem append
    {parts others : List Part}
    {predicates more : List Predicate}
    {text texts : String}
    {values following : List Value}
    (opening : Composed delimiter parts predicates text values)
    (closing : Composed delimiter others more texts following) :
    Composed delimiter (parts ++ others) (predicates ++ more) (text ++ texts)
      (values ++ following) where
  fits := List.forall_mem_append.mpr ⟨opening.fits, closing.fits⟩
  tests := by rw [List.filterMap_append, opening.tests, closing.tests]
  spelled := by rw [List.map_append, String.join_append, opening.spelled, closing.spelled]
  bound := by rw [List.flatMap_append, opening.bound, closing.bound]

end Composed

namespace Piece

/-- Placeholders with commas between them are written as such. -/
theorem textOf_marks (count : Nat) : textOf (marks count) = placeholders count := by
  induction count using marks.induct with
  | case1 =>
      rfl
  | case2 =>
      rfl
  | case3 count inductionHypothesis =>
      have following : textOf (.mark :: .plain "," :: marks (count + 1)) =
          placeholder ++ "," ++ textOf (marks (count + 1)) := by
        simp [textOf, text, String.append_assoc]
      have joined :
          placeholders (count + 2) = placeholder ++ "," ++ placeholders (count + 1) := by
        unfold placeholders
        rw [List.replicate_succ, List.replicate_succ, String.intercalate_cons_cons]
      rw [marks, following, inductionHypothesis, joined]

theorem countP_marks (count : Nat) : (marks count).countP isMark = count := by
  induction count using marks.induct with
  | case1 =>
      rfl
  | case2 =>
      rfl
  | case3 count inductionHypothesis =>
      rw [marks, List.countP_cons, List.countP_cons, inductionHypothesis]
      rfl

theorem mem_marks
    {count : Nat}
    {piece : Piece}
    (member : piece ∈ marks count) :
    piece = .mark ∨ piece = .plain "," := by
  induction count using marks.induct with
  | case1 =>
      cases member
  | case2 =>
      exact .inl (List.mem_singleton.mp member)
  | case3 count inductionHypothesis =>
      rcases List.mem_cons.mp member with isMark | inRest
      · exact .inl isMark
      · rcases List.mem_cons.mp inRest with isComma | inMarks
        · exact .inr isComma
        · exact inductionHypothesis inMarks

/-- If other pieces have no question marks, those of a text are its placeholders. -/
theorem count_textOf
    {pieces : List Piece}
    (plain : ∀ text, .plain text ∈ pieces → text.toList.count '?' = 0) :
    (textOf pieces).toList.count '?' = pieces.countP isMark := by
  induction pieces with
  | nil =>
      rfl
  | cons piece rest inductionHypothesis =>
      have following := inductionHypothesis
        fun text member => plain text (List.mem_cons_of_mem _ member)
      have own : piece.text.toList.count '?' = if piece.isMark then 1 else 0 := by
        cases piece with
        | plain text =>
            exact plain text List.mem_cons_self
        | mark =>
            decide
      rw [textOf, List.map_cons, String.join_cons, String.toList_append, List.count_append, own,
        List.countP_cons, ← following, Nat.add_comm]
      rfl

end Piece

/-- A condition that is written consists of pieces. -/
theorem Predicate.Written.exists_divided
    {delimiter : String}
    {p : Predicate}
    {text : String}
    {values : List Value}
    (written : p.Written delimiter text values) :
    ∃ pieces, p.Divided delimiter pieces values ∧ Piece.textOf pieces = text := by
  cases written with
  | value known written isScalar =>
      refine ⟨_, .value known written isScalar, ?_⟩
      simp [Piece.textOf, Piece.text, String.append_assoc]
  | column known written writtenOther =>
      refine ⟨_, .column known written writtenOther, ?_⟩
      simp [Piece.textOf, Piece.text, String.append_assoc]
  | members written listed nonempty areScalars =>
      refine ⟨_, .members written listed nonempty areScalars, ?_⟩
      have listedText := Piece.textOf_marks values.length
      unfold Piece.textOf at listedText
      simp [Piece.textOf, listedText, Piece.text, String.append_assoc]

mutual

/-- The text of an item is composed of its conditions. -/
theorem Item.Written.composed
    {delimiter : String} :
    ∀ {item : Item} {text : String} {values : List Value},
      item.Written delimiter text values →
      ∃ parts, Composed delimiter parts item.predicates text values
  | .test p, _, _, .test written => by
      obtain ⟨pieces, divided, rfl⟩ := written.exists_divided
      exact ⟨_, .test divided⟩
  | .group first others, _, _, .group opening following => by
      obtain ⟨parts, composed⟩ := opening.composed
      obtain ⟨more, composedMore⟩ := following.composed
      have opened : Composed delimiter [.joint "("] [] "(" [] := .joint (by decide)
      have closed : Composed delimiter [.joint ")"] [] ")" [] := .joint (by decide)
      have grouped := ((opened.append composed).append composedMore).append closed
      simp only [List.nil_append, List.append_nil] at grouped
      exact ⟨_, grouped⟩

/-- The text of items that follow is composed of their conditions. -/
theorem Chain.Written.composed
    {delimiter : String} :
    ∀ {chain : Chain} {text : String} {values : List Value},
      chain.Written delimiter text values →
      ∃ parts, Composed delimiter parts chain.predicates text values
  | .nil, _, _, .nil =>
      ⟨[], .nil⟩
  | .cons c item others, _, _, .cons opening following => by
      obtain ⟨parts, composed⟩ := opening.composed
      obtain ⟨more, composedMore⟩ := following.composed
      have known : " " ++ c.keyword ++ " " ∈ Part.joints := by
        cases c <;> decide
      have joined := ((Composed.joint known).append composed).append composedMore
      exact ⟨_, joined⟩

end

/-- A text in which no question mark is written has none. -/
theorem count_mark_quoted
    {delimiter quoted : String}
    {reference : Value}
    (markless : '?' ∉ delimiter.toList)
    (written : Identifier.quote delimiter reference = .ok quoted) :
    quoted.toList.count '?' = 0 := by
  rw [List.count_eq_zero]
  intro member
  rcases Identifier.mem_of_mem_quoted written member with plain | inDelimiter
  · rcases plain with word | blank | isPoint | isWildcard
    · exact absurd word (by decide)
    · exact absurd blank (by decide)
    · cases isPoint
    · cases isWildcard
  · exact markless inDelimiter

theorem count_mark_operator
    {operator : String}
    (known : operator ∈ operators) :
    operator.toList.count '?' = 0 := by
  have all : ∀ name ∈ operators, name.toList.count '?' = 0 := by decide
  exact all operator known

/-- A part has one placeholder for each of its values. -/
theorem Part.Fits.countP_isMark
    {delimiter : String}
    {part : Part}
    (fits : part.Fits delimiter) :
    part.pieces.countP Piece.isMark = part.values.length := by
  cases fits with
  | joint _ =>
      rfl
  | test divided =>
      cases divided with
      | value _ _ _ =>
          rfl
      | column _ _ _ =>
          rfl
      | members _ _ _ _ =>
          simp [Part.pieces, Part.values, Piece.isMark, Piece.countP_marks]

/-- What is no placeholder in a part has no question marks, if the delimiter has none. -/
theorem Part.Fits.count_plain
    {delimiter : String}
    (markless : '?' ∉ delimiter.toList)
    {part : Part}
    (fits : part.Fits delimiter)
    {text : String}
    (member : .plain text ∈ part.pieces) :
    text.toList.count '?' = 0 := by
  cases fits with
  | joint known =>
      have all : ∀ text ∈ Part.joints, text.toList.count '?' = 0 := by decide
      cases List.mem_singleton.mp member
      exact all text known
  | test divided =>
      have between : ∀ {operator : String}, operator ∈ operators →
          (" " ++ operator ++ " ").toList.count '?' = 0 := by
        intro operator known
        simp [count_mark_operator known]
      cases divided with
      | value known written _ =>
          simp only [Part.pieces, List.mem_cons, Piece.plain.injEq, reduceCtorEq,
            List.not_mem_nil, or_false] at member
          rcases member with rfl | rfl
          · exact count_mark_quoted markless written
          · exact between known
      | column known written writtenOther =>
          simp only [Part.pieces, List.mem_cons, Piece.plain.injEq, List.not_mem_nil,
            or_false] at member
          rcases member with rfl | rfl | rfl
          · exact count_mark_quoted markless written
          · exact between known
          · exact count_mark_quoted markless writtenOther
      | members written _ _ _ =>
          rw [Part.pieces, List.cons_append, List.cons_append, List.mem_cons, List.mem_cons,
            List.mem_append, List.mem_singleton] at member
          rcases member with isName | isOpening | inMarks | isClosing
          · cases isName
            exact count_mark_quoted markless written
          · cases isOpening
            decide
          · rcases Piece.mem_marks inMarks with impossible | isComma
            · cases impossible
            · cases isComma
              decide
          · cases isClosing
            decide

section Owners

variable
  {delimiter : String}
  {parts : List Part}
  {predicates : List Predicate}
  {text : String}
  {values : List Value}
  (composed : Composed delimiter parts predicates text values)

include composed

/-- Parts that have equally many things of two kinds own them alike. -/
theorem Composed.owners_congr
    {count other : Part → Nat}
    (same : ∀ part, part.Fits delimiter → count part = other part) :
    owners count parts = owners other parts := by
  unfold owners
  apply List.flatMap_congr
  rintro ⟨part, place⟩ member
  have inParts : part ∈ parts := List.fst_mem_of_mem_zipIdx member
  dsimp only
  rw [same part (composed.fits part inParts)]

/-- Each placeholder of the text stands in the part that binds its value. -/
theorem Composed.owned : markOwners parts = valueOwners parts :=
  composed.owners_congr fun _ fits => fits.countP_isMark

/-- The question marks of the text are its placeholders, if the delimiter has none. -/
theorem Composed.visible
    (markless : '?' ∉ delimiter.toList) :
    questionOwners parts = markOwners parts :=
  composed.owners_congr fun _ fits => Piece.count_textOf fun _ => fits.count_plain markless

end Owners

/--
However compiling a filter ends, what was bound before stays in front and the conditions that have
been passed have appended their values, in the order in which they stand: all conditions if the
filter is compiled, those before the entry that is refused otherwise, and none if the filter cannot
be parsed. Each placeholder of a compiled filter belongs to the condition that has bound its value.
-/
theorem compile_traverses
    (delimiter : String)
    (filters : Value)
    (bound : List Value) :
    Traversed delimiter filters bound ((compile delimiter filters).outcome bound) := by
  rcases parsed : parse filters with error | entries
  · have refused : (compile delimiter filters).outcome bound = (.error error, bound) := by
      rw [compile, parsed]
      rfl
    rw [refused]
    exact .unparsed parsed
  · have grouped :
        (compile delimiter filters).outcome bound =
          (compileGroup delimiter entries).outcome bound := by
      rw [compile, parsed]
      rfl
    have shown := visits_shows parsed
    have passes := compileGroup_follows delimiter entries bound
    rw [← grouped] at passes
    generalize visited : visits entries = visits at passes shown
    generalize ended : (compile delimiter filters).outcome bound = outcome at passes
    cases passes with
    | all passed acceptable text =>
        have same := shown.complete (unrefused_map_test passed)
        rw [leading_map_test] at same
        subst same
        obtain ⟨values, appended, effective⟩ := compile_effective delimiter filters _ _ _ ended
        obtain ⟨_, first, others, _, _, written, items⟩ := effective.written
        obtain ⟨parts, composed⟩ := written.composed
        rw [items, ← List.append_cancel_left appended] at composed
        exact .compiled parsed visited acceptable composed composed.owned composed.visible
    | upTo passed failing later acceptable unacceptable raised =>
        have ordered := shown.ordered
        rw [leading_append_of_unrefused (unrefused_map_test passed), leading_map_test] at ordered
        exact .refused parsed visited ((List.prefix_append _ _).trans ordered) acceptable
          unacceptable raised

end QueryComposer.Filter
