import QueryComposer.Proofs.Placeholder.Placed

namespace QueryComposer.Placeholder

/-!
# Placeholders as a driver finds them

A driver of the question-mark style takes every question mark outside quotes for a parameter. A
driver of the format style reads a text from left to right: two percent signs stand for one, a
percent sign before an "s" takes the next parameter, and any other percent sign is an error.

The main result is `Aligned.ofPlaced`: in a placed text a driver of either style finds exactly the
placeholders that the text was composed with.
-/

/-- A question mark stands for a parameter, any other character for itself. -/
def slot (c : Char) : Option Char :=
  if c = '?' then none else some c

/-- Read a text in the question-mark style, given the open quote. -/
def readQmark
    (quote : Option Char) :
    List Char →
    List (Option Char)
  | [] => []
  | c :: rest =>
      (if quote.isNone then slot c else some c) :: readQmark (nextQuote quote c) rest

/-- Read a text in the format style. -/
def readFormat : List Char → Option (List (Option Char))
  | [] => some []
  | '%' :: '%' :: rest => (readFormat rest).map (some '%' :: ·)
  | '%' :: 's' :: rest => (readFormat rest).map (none :: ·)
  | '%' :: _ => none
  | c :: rest => (readFormat rest).map (some c :: ·)

/-- What a driver reads: nothing in place of each parameter; it may refuse the text. -/
def read?
    (style : ParamStyle)
    (sql : List Char) :
    Option (List (Option Char)) :=
  match style with
  | .qmark => some (readQmark none sql)
  | .format => readFormat sql

/-- A question mark in the format style; all other characters stay. -/
def formatted (c : Char) : List Char :=
  if c = '?' then ['%', 's'] else [c]

/--
A text has one placeholder for each of so many parameters, whatever the style of the driver.

Every question mark of the text is such a placeholder. In the format style each of them becomes a
percent sign with an "s" and nothing else changes. A driver of either style finds the parameters
where the question marks are, and no others.
-/
structure Aligned
    (sql : String)
    (parameters : Nat) : Prop where
  outside :
    ∀ before after,
      sql.toList = before ++ '?' :: after →
      quoteAfter none before = none
  marks :
    sql.toList.count '?' = parameters
  percentFree :
    '%' ∉ sql.toList
  format :
    (translate .format sql).toList = sql.toList.flatMap formatted
  percents :
    (translate .format sql).toList.count '%' = parameters
  qmark :
    translate .qmark sql = sql
  reading :
    ∀ style, read? style (translate style sql).toList = some (sql.toList.map slot)
  slots :
    (sql.toList.map slot).count none = parameters

/-- No more placeholders than question marks are found. -/
theorem countFrom_le_count
    (quote : Option Char)
    (s : List Char) :
    countFrom quote s ≤ s.count '?' := by
  induction s generalizing quote with
  | nil =>
      exact Nat.le_refl 0
  | cons c rest inductionHypothesis =>
      have others := inductionHypothesis (nextQuote quote c)
      by_cases mark : c = '?'
      · subst mark
        rw [List.count_cons_self]
        cases quote with
        | none =>
            rw [countFrom_mark_outside]
            exact Nat.succ_le_succ others
        | some q =>
            rw [countFrom_mark_inside]
            exact Nat.le_succ_of_le others
      · rw [countFrom_other quote mark, List.count_cons_of_ne mark]
        exact others

/-- If every question mark is found, then none of them is inside quotes. -/
theorem quoteAfter_eq_none_of_count
    {quote : Option Char}
    (before after : List Char)
    (found :
      countFrom quote (before ++ '?' :: after) =
        (before ++ '?' :: after).count '?') :
    quoteAfter quote before = none := by
  rw [countFrom_append, List.count_append, List.count_cons_self] at found
  have first := countFrom_le_count quote before
  cases inside : quoteAfter quote before with
  | none =>
      rfl
  | some q =>
      have later := countFrom_le_count (nextQuote (some q) '?') after
      rw [inside, countFrom_mark_inside] at found
      omega

/-- If every question mark is found, then so it is behind the first character. -/
theorem countFrom_tail
    {quote : Option Char}
    {c : Char}
    {rest : List Char}
    (found : countFrom quote (c :: rest) = (c :: rest).count '?') :
    countFrom (nextQuote quote c) rest = rest.count '?' := by
  by_cases mark : c = '?'
  · subst mark
    have outside : quote = none := quoteAfter_eq_none_of_count [] rest found
    subst outside
    rw [countFrom_mark_outside, List.count_cons_self] at found
    exact Nat.succ.inj found
  · rwa [countFrom_other quote mark, List.count_cons_of_ne mark] at found

/-- A text without percent signs whose question marks are all found changes mark by mark. -/
theorem formatFrom_eq_flatMap
    {quote : Option Char}
    {s : List Char}
    (found : countFrom quote s = s.count '?')
    (percentFree : '%' ∉ s) :
    formatFrom quote s = s.flatMap formatted := by
  induction s generalizing quote with
  | nil =>
      rfl
  | cons c rest inductionHypothesis =>
      rw [List.mem_cons, not_or] at percentFree
      rw [formatFrom, inductionHypothesis (countFrom_tail found) percentFree.2, List.flatMap_cons]
      by_cases mark : c = '?'
      · subst mark
        have outside : quote = none := quoteAfter_eq_none_of_count [] rest found
        simp [formatted, outside]
      · simp [formatted, mark, Ne.symm percentFree.1]

/-- A driver that finds every question mark reads a parameter for each. -/
theorem readQmark_eq_map
    {quote : Option Char}
    {s : List Char}
    (found : countFrom quote s = s.count '?') :
    readQmark quote s = s.map slot := by
  induction s generalizing quote with
  | nil =>
      rfl
  | cons c rest inductionHypothesis =>
      rw [readQmark, inductionHypothesis (countFrom_tail found), List.map_cons]
      by_cases mark : c = '?'
      · subst mark
        have outside : quote = none := quoteAfter_eq_none_of_count [] rest found
        simp [outside]
      · simp [slot, mark]

/-- A driver of the format style reads a parameter for every former question mark. -/
theorem readFormat_flatMap
    {s : List Char}
    (percentFree : '%' ∉ s) :
    readFormat (s.flatMap formatted) = some (s.map slot) := by
  induction s with
  | nil =>
      rfl
  | cons c rest inductionHypothesis =>
      rw [List.mem_cons, not_or] at percentFree
      have others := inductionHypothesis percentFree.2
      rw [List.flatMap_cons]
      by_cases mark : c = '?'
      · simp [formatted, slot, mark, readFormat, others]
      · have noPercent : c ≠ '%' := Ne.symm percentFree.1
        simp [formatted, slot, mark, readFormat, others, noPercent]

theorem count_none_map_slot (s : List Char) :
    (s.map slot).count none = s.count '?' := by
  induction s with
  | nil =>
      rfl
  | cons c rest inductionHypothesis =>
      rw [List.map_cons, List.count_cons, inductionHypothesis, List.count_cons]
      by_cases mark : c = '?'
      · simp [slot, mark]
      · simp [slot, mark]

theorem count_percent_flatMap
    {s : List Char}
    (percentFree : '%' ∉ s) :
    (s.flatMap formatted).count '%' = s.count '?' := by
  induction s with
  | nil =>
      rfl
  | cons c rest inductionHypothesis =>
      rw [List.mem_cons, not_or] at percentFree
      rw [List.flatMap_cons, List.count_append, inductionHypothesis percentFree.2,
        List.count_cons, Nat.add_comm]
      by_cases mark : c = '?'
      · simp [formatted, mark]
      · simp [formatted, mark, Ne.symm percentFree.1]

theorem flatMap_formatted_of_not_mem
    {s : List Char}
    (unmarked : '?' ∉ s) :
    s.flatMap formatted = s := by
  induction s with
  | nil =>
      rfl
  | cons c rest inductionHypothesis =>
      rw [List.mem_cons, not_or] at unmarked
      rw [List.flatMap_cons, inductionHypothesis unmarked.2]
      simp [formatted, Ne.symm unmarked.1]

namespace Placed

variable {sql : List Char} {marks : Nat}

theorem found (placed : Placed sql marks) : countFrom none sql = sql.count '?' := by
  rw [placed.outside, placed.total]

/-- In the format style exactly the question marks of a placed text change. -/
theorem translateChars_format (placed : Placed sql marks) :
    translateChars .format sql = sql.flatMap formatted := by
  by_cases unmarked : '?' ∈ sql
  · have counted : count sql ≠ 0 := by
      rw [count, placed.found]
      exact Nat.pos_iff_ne_zero.mp (List.count_pos_iff.mpr unmarked)
    simp only [translateChars, beq_iff_eq, counted, if_false]
    exact formatFrom_eq_flatMap placed.found placed.percentFree
  · have nothing : count sql = 0 := countFrom_eq_zero none unmarked
    simp only [translateChars, nothing, beq_self_eq_true, if_true]
    exact (flatMap_formatted_of_not_mem unmarked).symm

/-- A driver of either style reads a parameter for every question mark of a placed text. -/
theorem read?_translateChars
    (placed : Placed sql marks)
    (style : ParamStyle) :
    read? style (translateChars style sql) = some (sql.map slot) := by
  cases style with
  | qmark =>
      rw [read?, translateChars, readQmark_eq_map placed.found]
  | format =>
      rw [read?, placed.translateChars_format, readFormat_flatMap placed.percentFree]

end Placed

/-- A placed text is aligned with as many parameters as it has placeholders. -/
theorem Aligned.ofPlaced
    {sql : String}
    {marks : Nat}
    (placed : Placed sql.toList marks) :
    Aligned sql marks where
  outside before after shape := by
    apply quoteAfter_eq_none_of_count before after
    rw [← shape]
    exact placed.found
  marks := placed.total
  percentFree := placed.percentFree
  format := by
    rw [translate, String.toList_ofList, placed.translateChars_format]
  percents := by
    rw [translate, String.toList_ofList, placed.translateChars_format,
      count_percent_flatMap placed.percentFree, placed.total]
  qmark := by
    rw [translate, translateChars, String.ofList_toList]
  reading style := by
    rw [translate, String.toList_ofList, placed.read?_translateChars style]
  slots := by
    rw [count_none_map_slot, placed.total]

end QueryComposer.Placeholder
