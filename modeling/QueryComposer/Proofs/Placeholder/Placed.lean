import QueryComposer.Binding
import QueryComposer.Placeholder

namespace QueryComposer.Placeholder

/-!
# Texts whose placeholders stand in the open

A text is `Placed` if it closes every quote that it opens, has all its question marks outside
quotes, and has no percent sign. Such texts can be written one after the other, so that a
statement is placed once its parts are.
-/

/-- A character that may change how a text is read: a quote, a question mark, a percent sign. -/
def isSpecial (c : Char) : Bool :=
  isQuote c || c == '?' || c == '%'

/-- No character of the text is special. -/
def Plain (s : List Char) : Prop :=
  ∀ c ∈ s, isSpecial c = false

instance (s : List Char) : Decidable (Plain s) :=
  List.decidableBAll (fun c => isSpecial c = false) s

/-- All question marks are outside quotes and as many as stated, and there is no percent sign. -/
structure Placed
    (sql : List Char)
    (marks : Nat) : Prop where
  closed :
    quoteAfter none sql = none
  outside :
    countFrom none sql = marks
  total :
    sql.count '?' = marks
  percentFree :
    '%' ∉ sql

/-- The second of two texts is read with the quote that the first one leaves open. -/
theorem quoteAfter_append
    (quote : Option Char)
    (first second : List Char) :
    quoteAfter quote (first ++ second) = quoteAfter (quoteAfter quote first) second := by
  simp [quoteAfter, List.foldl_append]

theorem ne_mark_of_isQuote
    {q : Char}
    (opens : isQuote q = true) :
    q ≠ '?' := by
  rintro rfl
  exact absurd opens (by decide)

/-- A character that is not special is no quote, no question mark and no percent sign. -/
theorem ne_of_not_isSpecial
    {c : Char}
    (plain : isSpecial c = false) :
    isQuote c = false ∧ c ≠ '?' ∧ c ≠ '%' := by
  simp only [isSpecial, Bool.or_eq_false_iff, beq_eq_false_iff_ne] at plain
  exact ⟨plain.1.1, plain.1.2, plain.2⟩

namespace Plain

theorem tail
    {c : Char}
    {rest : List Char}
    (plain : Plain (c :: rest)) :
    Plain rest :=
  fun d member => plain d (List.mem_cons_of_mem c member)

theorem append
    {first second : List Char}
    (opening : Plain first)
    (closing : Plain second) :
    Plain (first ++ second) := by
  intro c member
  rcases List.mem_append.mp member with inFirst | inSecond
  · exact opening c inFirst
  · exact closing c inSecond

theorem not_mem_mark
    {s : List Char}
    (plain : Plain s) :
    '?' ∉ s := by
  intro member
  exact (ne_of_not_isSpecial (plain _ member)).2.1 rfl

theorem not_mem_percent
    {s : List Char}
    (plain : Plain s) :
    '%' ∉ s := by
  intro member
  exact (ne_of_not_isSpecial (plain _ member)).2.2 rfl

/-- A plain character neither opens a quote nor closes one. -/
theorem nextQuote_eq
    {quote : Option Char}
    (isOpen : ∀ q, quote = some q → isQuote q = true)
    {c : Char}
    (plain : isSpecial c = false) :
    nextQuote quote c = quote := by
  obtain ⟨noQuote, _, _⟩ := ne_of_not_isSpecial plain
  cases quote with
  | none =>
      simp [nextQuote, noQuote]
  | some q =>
      have different : c ≠ q := by
        intro same
        rw [same, isOpen q rfl] at noQuote
        cases noQuote
      simp [nextQuote, different]

/-- A plain text leaves the quote that is open before it. -/
theorem quoteAfter_eq
    {quote : Option Char}
    (isOpen : ∀ q, quote = some q → isQuote q = true)
    {s : List Char}
    (plain : Plain s) :
    quoteAfter quote s = quote := by
  induction s with
  | nil =>
      rfl
  | cons c rest inductionHypothesis =>
      have first := nextQuote_eq isOpen (plain c (by simp))
      have others := inductionHypothesis plain.tail
      simpa [quoteAfter, first] using others

end Plain

theorem countFrom_mark_outside (rest : List Char) :
    countFrom none ('?' :: rest) = countFrom none rest + 1 := by
  rw [countFrom, Nat.add_comm]
  rfl

theorem countFrom_mark_inside
    (q : Char)
    (rest : List Char) :
    countFrom (some q) ('?' :: rest) = countFrom (nextQuote (some q) '?') rest := by
  simp [countFrom]

theorem countFrom_other
    (quote : Option Char)
    {c : Char}
    (other : c ≠ '?')
    (rest : List Char) :
    countFrom quote (c :: rest) = countFrom (nextQuote quote c) rest := by
  simp [countFrom, other]

theorem countFrom_eq_zero
    (quote : Option Char)
    {s : List Char}
    (unmarked : '?' ∉ s) :
    countFrom quote s = 0 := by
  induction s generalizing quote with
  | nil =>
      rfl
  | cons c rest inductionHypothesis =>
      rw [List.mem_cons, not_or] at unmarked
      rw [countFrom_other quote (Ne.symm unmarked.1)]
      exact inductionHypothesis (nextQuote quote c) unmarked.2

namespace Placed

/-- A plain text has no placeholder. -/
theorem ofPlain
    {s : List Char}
    (plain : Plain s) :
    Placed s 0 where
  closed := plain.quoteAfter_eq (by simp)
  outside := countFrom_eq_zero none plain.not_mem_mark
  total := List.count_eq_zero.mpr plain.not_mem_mark
  percentFree := plain.not_mem_percent

/-- The mark that a bound value takes the place of is one placeholder. -/
theorem mark : Placed placeholder.toList 1 where
  closed := by decide
  outside := by decide
  total := by decide
  percentFree := by decide

/-- A plain text between quotes has no placeholder. -/
theorem quoted
    {q : Char}
    (isOpen : isQuote q = true)
    {name : List Char}
    (plain : Plain name) :
    Placed (q :: name ++ [q]) 0 := by
  have opened : nextQuote none q = some q := by
    simp [nextQuote, isOpen]
  have inside : quoteAfter (some q) name = some q :=
    plain.quoteAfter_eq (by
      intro other same
      cases same
      exact isOpen)
  have noMark : '?' ≠ q := (ne_mark_of_isQuote isOpen).symm
  have noPercent : '%' ≠ q := by
    intro same
    rw [← same] at isOpen
    exact absurd isOpen (by decide)
  have unmarked : '?' ∉ q :: name ++ [q] := by
    simp [noMark, plain.not_mem_mark]
  constructor
  · rw [List.cons_append]
    have after : quoteAfter (some q) (name ++ [q]) = none := by
      rw [quoteAfter_append, inside]
      simp [quoteAfter, nextQuote]
    simpa [quoteAfter, opened] using after
  · exact countFrom_eq_zero none unmarked
  · exact List.count_eq_zero.mpr unmarked
  · simp [noPercent, plain.not_mem_percent]

/-- Two texts one after the other have the placeholders of both. -/
theorem append
    {first second : List Char}
    {marks more : Nat}
    (opening : Placed first marks)
    (closing : Placed second more) :
    Placed (first ++ second) (marks + more) where
  closed := by
    rw [quoteAfter_append, opening.closed, closing.closed]
  outside := by
    rw [countFrom_append, opening.closed, opening.outside, closing.outside]
  total := by
    rw [List.count_append, opening.total, closing.total]
  percentFree := by
    simp [opening.percentFree, closing.percentFree]

/-- Pieces between which a plain text stands have the placeholders of all of them. -/
theorem intercalate
    {separator : List Char}
    (plain : Plain separator)
    {pieces : List (List Char)}
    {marks : Nat}
    (each : ∀ piece ∈ pieces, Placed piece marks) :
    Placed (separator.intercalate pieces) (pieces.length * marks) := by
  induction pieces with
  | nil =>
      simpa [List.intercalate] using ofPlain (s := []) (by simp [Plain])
  | cons piece rest inductionHypothesis =>
      have first := each piece (by simp)
      have others := inductionHypothesis fun other member => each other (by simp [member])
      cases rest with
      | nil =>
          simpa [List.intercalate] using first
      | cons next rest =>
          rw [List.intercalate_cons_cons]
          have joined := (first.append (ofPlain plain)).append others
          have counted :
              marks + 0 + (next :: rest).length * marks =
                (piece :: next :: rest).length * marks := by
            simp only [List.length_cons, Nat.succ_mul]
            omega
          rwa [counted] at joined

end Placed

end QueryComposer.Placeholder
