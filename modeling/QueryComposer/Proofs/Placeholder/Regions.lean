import QueryComposer.Proofs.Placeholder.Aligned

namespace QueryComposer.Placeholder

/-!
# What a text says to a driver

A text is divided into quoted regions and what stands between them. A region is opened by a quote
and closed by the next quote of the same kind; one that is not closed goes on to the end. Only a
question mark between the regions stands for a parameter.

The main result is `format_reads_back`: whatever the text, a driver of the format style reads from
the written text exactly what the text itself says.
-/

/-- What a text says: nothing in place of each parameter, and every other character as it is. -/
inductive Says : List Char → List (Option Char) → Prop where
  | nil :
      Says [] []
  /-- A question mark between the regions stands for a parameter. -/
  | parameter
      {rest : List Char}
      {slots : List (Option Char)}
      (reading : Says rest slots) :
      Says ('?' :: rest) (none :: slots)
  /-- Any other character between the regions stands for itself. -/
  | character
      {c : Char}
      {rest : List Char}
      {slots : List (Option Char)}
      (noQuote : isQuote c = false)
      (noMark : c ≠ '?')
      (reading : Says rest slots) :
      Says (c :: rest) (some c :: slots)
  /-- Within a region every character stands for itself. -/
  | region
      {q : Char}
      {inside rest : List Char}
      {slots : List (Option Char)}
      (opens : isQuote q = true)
      (unquoted : q ∉ inside)
      (reading : Says rest slots) :
      Says (q :: (inside ++ q :: rest)) (some q :: (inside.map some ++ some q :: slots))
  /-- The last region may be left open. -/
  | openRegion
      {q : Char}
      {inside : List Char}
      (opens : isQuote q = true)
      (unquoted : q ∉ inside) :
      Says (q :: inside) (some q :: inside.map some)

/-- A quote between the regions is read as it is, and opens one. -/
theorem readQmark_quote
    {q : Char}
    (opens : isQuote q = true)
    (rest : List Char) :
    readQmark none (q :: rest) = some q :: readQmark (some q) rest := by
  have noMark : q ≠ '?' := ne_mark_of_isQuote opens
  simp [readQmark, slot, nextQuote, opens, noMark]

/-- Inside of a region everything is read as it is. -/
theorem readQmark_inside
    {q : Char}
    {inside : List Char}
    (unquoted : q ∉ inside)
    (rest : List Char) :
    readQmark (some q) (inside ++ rest) = inside.map some ++ readQmark (some q) rest := by
  induction inside with
  | nil =>
      rfl
  | cons c others inductionHypothesis =>
      rw [List.mem_cons, not_or] at unquoted
      have staysOpen : nextQuote (some q) c = some q := by
        simp [nextQuote, Ne.symm unquoted.1]
      rw [List.cons_append, readQmark, staysOpen, inductionHypothesis unquoted.2]
      rfl

/-- The quote that opened a region is read as it is, and closes the region. -/
theorem readQmark_closing
    (q : Char)
    (rest : List Char) :
    readQmark (some q) (q :: rest) = some q :: readQmark none rest := by
  simp [readQmark, nextQuote]

/-- What a text says is what is read when it is scanned for quotes. -/
theorem Says.eq_readQmark
    {s : List Char}
    {slots : List (Option Char)}
    (reading : Says s slots) :
    slots = readQmark none s := by
  induction reading with
  | nil =>
      rfl
  | parameter _ inductionHypothesis =>
      rw [inductionHypothesis]
      rfl
  | @character c rest slots noQuote noMark _ inductionHypothesis =>
      have staysOutside : nextQuote none c = none := by
        simp [nextQuote, noQuote]
      rw [inductionHypothesis, readQmark, staysOutside]
      simp [slot, noMark]
  | @region q inside rest slots opens unquoted _ inductionHypothesis =>
      rw [inductionHypothesis, readQmark_quote opens, readQmark_inside unquoted,
        readQmark_closing]
  | @openRegion q inside opens unquoted =>
      have read := readQmark_inside unquoted []
      rw [List.append_nil] at read
      rw [readQmark_quote opens, read, readQmark, List.append_nil]

/-- Every text is divided into regions and what stands between them. -/
theorem exists_slots (s : List Char) : ∃ slots, Says s slots := by
  -- A region takes away more than one character, so the induction is on the length.
  induction length : s.length using Nat.strongRecOn generalizing s with
  | _ n inductionHypothesis =>
      cases s with
      | nil =>
          exact ⟨[], .nil⟩
      | cons c rest =>
          subst length
          cases opens : isQuote c with
          | false =>
              obtain ⟨slots, reading⟩ := inductionHypothesis rest.length (by simp) rest rfl
              by_cases mark : c = '?'
              · subst mark
                exact ⟨_, .parameter reading⟩
              · exact ⟨_, .character opens mark reading⟩
          | true =>
              by_cases closed : c ∈ rest
              · obtain ⟨inside, others, divided, unquoted⟩ :=
                  List.eq_append_cons_of_mem closed
                subst divided
                have shorter : others.length < (c :: (inside ++ c :: others)).length := by
                  simp only [List.length_cons, List.length_append]
                  omega
                obtain ⟨slots, reading⟩ := inductionHypothesis _ shorter others rfl
                exact ⟨_, .region opens unquoted reading⟩
              · exact ⟨_, .openRegion opens closed⟩

/-- Written in the format style, a text is read as it is scanned for quotes. -/
theorem readFormat_formatFrom
    (quote : Option Char)
    (s : List Char) :
    readFormat (formatFrom quote s) = some (readQmark quote s) := by
  induction s generalizing quote with
  | nil =>
      rfl
  | cons c rest inductionHypothesis =>
      have others := inductionHypothesis (nextQuote quote c)
      rw [formatFrom, readQmark]
      by_cases percent : c = '%'
      · subst percent
        cases quote <;> simp [readFormat, others, slot]
      · by_cases mark : c = '?'
        · subst mark
          cases quote <;> simp [readFormat, others, slot]
        · cases quote <;> simp [readFormat, others, slot, percent, mark]

/-- With a question mark in place of each parameter, what is read is the text. -/
theorem map_getD_readQmark
    (quote : Option Char)
    (s : List Char) :
    (readQmark quote s).map (·.getD '?') = s := by
  induction s generalizing quote with
  | nil =>
      rfl
  | cons c rest inductionHypothesis =>
      have first : (if quote.isNone then slot c else some c).getD '?' = c := by
        by_cases mark : c = '?'
        · subst mark
          cases quote <;> simp [slot]
        · cases quote <;> simp [slot, mark]
      rw [readQmark, List.map_cons, first, inductionHypothesis]

/-- As many parameters are read as question marks are counted outside quotes. -/
theorem count_none_readQmark
    (quote : Option Char)
    (s : List Char) :
    (readQmark quote s).count none = countFrom quote s := by
  induction s generalizing quote with
  | nil =>
      rfl
  | cons c rest inductionHypothesis =>
      rw [readQmark, List.count_cons, inductionHypothesis, countFrom, Nat.add_comm]
      by_cases mark : c = '?'
      · subst mark
        cases quote <;> simp [slot]
      · cases quote <;> simp [slot, mark]

/--
A text says one thing only, and it can be restored from what it says. If it has parameters, then a
driver of the format style reads just that from the text as it is written for it, without an error.
A text without parameters is not changed, and neither is any text for the other style.
-/
theorem format_reads_back (sql : String) :
    ∃ slots,
      (∀ others, Says sql.toList others ↔ others = slots) ∧
        slots.map (·.getD '?') = sql.toList ∧
        slots.count none = count sql.toList ∧
        (none ∈ slots → read? .format (translate .format sql).toList = some slots) ∧
        (none ∉ slots → translate .format sql = sql) ∧
        translate .qmark sql = sql := by
  have counted := count_none_readQmark none sql.toList
  refine ⟨readQmark none sql.toList, ?_, map_getD_readQmark none _, counted, ?_, ?_, ?_⟩
  · intro others
    constructor
    · exact Says.eq_readQmark
    · rintro rfl
      obtain ⟨slots, reading⟩ := exists_slots sql.toList
      exact reading.eq_readQmark ▸ reading
  · intro parameters
    have found : count sql.toList ≠ 0 := by
      rw [count, ← counted]
      exact Nat.pos_iff_ne_zero.mp (List.count_pos_iff.mpr parameters)
    have written : translateChars .format sql.toList = formatFrom none sql.toList := by
      simp only [translateChars, beq_iff_eq, found, if_false]
    rw [translate, String.toList_ofList, written]
    exact readFormat_formatFrom none sql.toList
  · intro without
    have nothing : count sql.toList = 0 := by
      rw [count, ← counted]
      exact List.count_eq_zero.mpr without
    have unchanged : translateChars .format sql.toList = sql.toList := by
      simp only [translateChars, nothing, beq_self_eq_true, if_true]
    rw [translate, unchanged, String.ofList_toList]
  · rw [translate, translateChars, String.ofList_toList]

end QueryComposer.Placeholder
