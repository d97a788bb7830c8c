import QueryComposer.Transaction.Tracker

namespace QueryComposer.Transaction

/-!
# A machine with savepoints

The flat commands run on a machine that holds data and a stack of marks. The bottom mark is the
start of the transaction, and every other mark is a savepoint with a name. Names need not be
distinct: a command that names a savepoint means the topmost one of that name. Rolling back to a
savepoint leaves its mark where it is.

`Carries` says what the stack has to do with nested transactions: the marks carry one snapshot
for each open level, with marks of levels in between that were rolled back.
-/

variable {δ : Type}

/-- A mark and the data it was put down with; the start of a transaction has no name. -/
structure Mark (δ : Type) where
  name : Option String
  data : δ

namespace Mark

/-- The mark of the start of a transaction. -/
def start (data : δ) : Mark δ :=
  ⟨none, data⟩

/-- The mark of the savepoint of a level. -/
def savepoint
    (level : Nat)
    (data : δ) :
    Mark δ :=
  ⟨some (savepointName level), data⟩

end Mark

/-- Data and the marks of the open transaction, topmost first; there are none outside of one. -/
structure Machine (δ : Type) where
  data : δ
  marks : List (Mark δ)

/-- The marks from the topmost one of a name downwards. -/
def marksFrom
    (name : String)
    (marks : List (Mark δ)) :
    List (Mark δ) :=
  marks.dropWhile (·.name != some name)

namespace Machine

/--
Carry out a command; an error has no machine after it.

It is an error to begin inside a transaction, to set a savepoint or to end the transaction
outside one, and to name a savepoint that is not there.
-/
def execute
    (machine : Machine δ) :
    Command →
    Option (Machine δ)
  | .begin =>
      match machine.marks with
      | [] => some ⟨machine.data, [.start machine.data]⟩
      | _ :: _ => none
  | .commit =>
      match machine.marks with
      | [] => none
      | _ :: _ => some ⟨machine.data, []⟩
  | .rollback =>
      match machine.marks.getLast? with
      | none => none
      | some bottom => some ⟨bottom.data, []⟩
  | .savepoint level =>
      match machine.marks with
      | [] => none
      | marks => some ⟨machine.data, .savepoint level machine.data :: marks⟩
  | .release level =>
      match marksFrom (savepointName level) machine.marks with
      | [] => none
      | _ :: below => some ⟨machine.data, below⟩
  | .rollbackTo level =>
      match marksFrom (savepointName level) machine.marks with
      | [] => none
      | mark :: below => some ⟨mark.data, mark :: below⟩

end Machine

/-- Different levels have savepoints of different names. -/
theorem savepointName_injective
    {first second : Nat}
    (same : savepointName first = savepointName second) :
    first = second := by
  have digits : Nat.repr first = Nat.repr second :=
    (String.append_right_inj "LEVEL").mp same
  have read := congrArg (fun text => Nat.ofDigitChars 10 text.toList 0) digits
  simpa [Nat.toList_repr] using read

/--
The marks carry the snapshots of the open levels, innermost first.

The outermost level has the bottom mark and every other level the savepoint that was set at its
depth. In between lie the marks of levels that were rolled back, none of which has the name of a
level that is open below it.
-/
inductive Carries : List (Mark δ) → List δ → Prop where
  | closed :
      Carries [] []
  | outermost
      (data : δ) :
      Carries [.start data] [data]
  | level
      (data : δ)
      {marks : List (Mark δ)}
      {snapshots : List δ} :
      Carries marks snapshots →
      snapshots ≠ [] →
      Carries (.savepoint snapshots.length data :: marks) (data :: snapshots)
  | stale
      {level : Nat}
      (data : δ)
      {marks : List (Mark δ)}
      {snapshots : List δ} :
      Carries marks snapshots →
      snapshots ≠ [] →
      snapshots.length ≤ level →
      Carries (.savepoint level data :: marks) snapshots

namespace Carries

/-- There are marks exactly if a level is open. -/
theorem marks_eq_nil_iff
    {marks : List (Mark δ)}
    {snapshots : List δ}
    (carries : Carries marks snapshots) :
    marks = [] ↔ snapshots = [] := by
  cases carries with
  | closed =>
      simp
  | outermost data =>
      simp
  | level data below opened =>
      simp
  | stale data below opened later =>
      simp [opened]

/-- The bottom mark has the snapshot of the outermost level. -/
theorem getLast?_marks
    {marks : List (Mark δ)}
    {snapshots : List δ}
    (carries : Carries marks snapshots) :
    marks.getLast?.map Mark.data = snapshots.getLast? := by
  induction carries with
  | closed =>
      rfl
  | outermost data =>
      rfl
  | @level data marks snapshots below opened inductionHypothesis =>
      have marked : marks ≠ [] := by
        rw [Ne, below.marks_eq_nil_iff]
        exact opened
      rw [List.getLast?_cons_of_ne_nil marked, List.getLast?_cons_of_ne_nil opened]
      exact inductionHypothesis
  | @stale level data marks snapshots below opened later inductionHypothesis =>
      have marked : marks ≠ [] := by
        rw [Ne, below.marks_eq_nil_iff]
        exact opened
      rw [List.getLast?_cons_of_ne_nil marked]
      exact inductionHypothesis

/--
The topmost mark of the name of the innermost level is that level's own, and below it the marks
carry the levels around it.
-/
theorem marksFrom_innermost
    {marks : List (Mark δ)}
    {snapshot : δ}
    {outer : List δ}
    (carries : Carries marks (snapshot :: outer))
    (nested : outer ≠ []) :
    ∃ below,
      marksFrom (savepointName outer.length) marks =
          .savepoint outer.length snapshot :: below ∧
        Carries below outer := by
  generalize shape : snapshot :: outer = snapshots at carries
  induction carries with
  | closed =>
      cases shape
  | outermost data =>
      cases shape
      exact (nested rfl).elim
  | @level data marks _ below opened =>
      cases shape
      exact ⟨marks, by simp [marksFrom, Mark.savepoint], below⟩
  | @stale level data marks _ below opened later inductionHypothesis =>
      subst shape
      obtain ⟨rest, found, carried⟩ := inductionHypothesis rfl
      have otherName : savepointName level ≠ savepointName outer.length := by
        intro same
        have sameLevel := savepointName_injective same
        simp only [List.length_cons] at later
        omega
      refine ⟨rest, ?_, carried⟩
      rw [← found]
      simp [marksFrom, Mark.savepoint, otherName]

end Carries

end QueryComposer.Transaction
