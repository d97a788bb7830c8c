import QueryComposer.Identifier
import QueryComposer.Proofs.Placeholder.Placed

namespace QueryComposer

/-!
# Where a quoted name ends

A quoted name ends at the first mark that is not doubled. Whoever reads it so has to look at the
character behind each mark. The scan for placeholders does not: it takes a doubled mark for the end
of one region and the start of another one, and is inside of a region again before the name goes on.

The main result is `names_end_alike`: a reader of quoted names finds every name as it was before it
was quoted, and in a text of quoted names and of fragments between them the scan finds exactly the
question marks of the fragments.
-/

namespace Identifier

/-- Read a name up to its closing mark; the name and what follows it, unless the mark is missing. -/
def readName?
    (mark : Char) :
    List Char →
    Option (List Char × List Char)
  | [] => none
  | c :: rest =>
      if c = mark then
        match rest with
        | [] => some ([], [])
        | next :: others =>
            if next = mark then
              (readName? mark others).map fun (name, after) => (mark :: name, after)
            else
              some ([], next :: others)
      else
        (readName? mark rest).map fun (name, after) => (c :: name, after)

/-- Read a quoted name from its opening mark on. -/
def readQuoted?
    (mark : Char) :
    List Char →
    Option (List Char × List Char)
  | [] => none
  | c :: rest => if c = mark then readName? mark rest else none

/-- A mark in a name is written twice. -/
theorem escapeFrom_mark
    (mark : Char)
    (name : List Char) :
    escapeFrom [mark] 0 (mark :: name) = mark :: mark :: escapeFrom [mark] 0 name := by
  simp [escapeFrom]

/-- Any other character of a name is written as it is. -/
theorem escapeFrom_other
    {mark c : Char}
    (other : c ≠ mark)
    (name : List Char) :
    escapeFrom [mark] 0 (c :: name) = c :: escapeFrom [mark] 0 name := by
  simp [escapeFrom, Ne.symm other]

theorem wrapChars_append
    (mark : Char)
    (name after : List Char) :
    wrapChars [mark] name ++ after = mark :: (escapeFrom [mark] 0 name ++ mark :: after) := by
  simp [wrapChars]

/-- The closing mark of a name is one that no other mark follows. -/
theorem readName?_closing
    {mark : Char}
    {after : List Char}
    (single : after.head? ≠ some mark) :
    readName? mark (mark :: after) = some ([], after) := by
  cases after with
  | nil =>
      simp [readName?]
  | cons next others =>
      have other : next ≠ mark := by simpa using single
      simp [readName?, other]

/-- Any character but the mark belongs to the name. -/
theorem readName?_other
    {mark c : Char}
    (other : c ≠ mark)
    (rest : List Char) :
    readName? mark (c :: rest) =
      (readName? mark rest).map fun (name, after) => (c :: name, after) := by
  cases rest <;> simp [readName?, other]

/-- A name is read from its written form, and what follows is left. -/
theorem readName?_escapeFrom
    {mark : Char}
    {after : List Char}
    (single : after.head? ≠ some mark)
    (name : List Char) :
    readName? mark (escapeFrom [mark] 0 name ++ mark :: after) = some (name, after) := by
  induction name with
  | nil =>
      exact readName?_closing single
  | cons c rest inductionHypothesis =>
      by_cases isMark : c = mark
      · subst isMark
        rw [escapeFrom_mark]
        simp [readName?, inductionHypothesis]
      · rw [escapeFrom_other isMark, List.cons_append, readName?_other isMark,
          inductionHypothesis]
        rfl

/-- What is read as a name is the written form of the name. -/
theorem eq_of_readName?
    {mark : Char}
    {text name after : List Char}
    (read : readName? mark text = some (name, after)) :
    text = escapeFrom [mark] 0 name ++ mark :: after ∧ after.head? ≠ some mark := by
  -- A doubled mark takes two characters away, so the induction is on the recursion of the reader.
  fun_induction readName? mark text generalizing name with
  | case1 =>
      cases read
  | case2 =>
      cases read
      simp [escapeFrom]
  | case3 others inductionHypothesis =>
      obtain ⟨⟨found, left⟩, readOthers, made⟩ := Option.map_eq_some_iff.mp read
      cases made
      obtain ⟨shape, single⟩ := inductionHypothesis readOthers
      rw [escapeFrom_mark, shape]
      exact ⟨rfl, single⟩
  | case4 next others other =>
      cases read
      refine ⟨rfl, ?_⟩
      simpa using other
  | case5 c rest other inductionHypothesis =>
      obtain ⟨⟨found, left⟩, readRest, made⟩ := Option.map_eq_some_iff.mp read
      cases made
      obtain ⟨shape, single⟩ := inductionHypothesis readRest
      rw [escapeFrom_other other, shape]
      exact ⟨rfl, single⟩

/-- A reader finds a quoted name exactly in its written form, where no other mark follows it. -/
theorem readQuoted?_eq_some_iff
    {mark : Char}
    {text name after : List Char} :
    readQuoted? mark text = some (name, after) ↔
      text = wrapChars [mark] name ++ after ∧ after.head? ≠ some mark := by
  rw [wrapChars_append]
  constructor
  · intro read
    cases text with
    | nil =>
        cases read
    | cons c rest =>
        rw [readQuoted?] at read
        split at read
        · next isMark =>
            obtain ⟨shape, single⟩ := eq_of_readName? read
            rw [isMark, shape]
            exact ⟨rfl, single⟩
        · cases read
  · rintro ⟨rfl, single⟩
    rw [readQuoted?, if_pos rfl]
    exact readName?_escapeFrom single name

end Identifier

namespace Placeholder

open Identifier (escapeFrom escapeFrom_mark escapeFrom_other readQuoted? wrapChars)

/-- A percent sign is written twice, any other character as it is. -/
def doubled (c : Char) : List Char :=
  if c = '%' then ['%', '%'] else [c]

/--
From one open quote to another the scan finds so many placeholders in a text, and writes the text as
given in the format style.
-/
structure Scans
    (before : Option Char)
    (text : List Char)
    (after : Option Char)
    (marks : Nat)
    (written : List Char) : Prop where
  leaves :
    quoteAfter before text = after
  finds :
    countFrom before text = marks
  writes :
    formatFrom before text = written

namespace Scans

variable {before between after : Option Char} {q : Char}

theorem nil (quote : Option Char) : Scans quote [] quote 0 [] where
  leaves := rfl
  finds := rfl
  writes := rfl

/-- A scan goes on where it left the text before. -/
theorem append
    {first second writtenFirst writtenSecond : List Char}
    {marks more : Nat}
    (opening : Scans before first between marks writtenFirst)
    (closing : Scans between second after more writtenSecond) :
    Scans before (first ++ second) after (marks + more) (writtenFirst ++ writtenSecond) where
  leaves := by
    rw [quoteAfter_append, opening.leaves, closing.leaves]
  finds := by
    rw [countFrom_append, opening.leaves, opening.finds, closing.finds]
  writes := by
    rw [formatFrom_append, opening.leaves, opening.writes, closing.writes]

/-- Any character but a question mark outside quotes is written as it is, or is doubled. -/
theorem character
    {quote : Option Char}
    {c : Char}
    (noMark : quote = none → c ≠ '?') :
    Scans quote [c] (nextQuote quote c) 0 (doubled c) := by
  have noPlaceholder : ¬ (quote.isNone = true ∧ c = '?') :=
    fun both => noMark (Option.isNone_iff_eq_none.mp both.1) both.2
  constructor
  · rfl
  · simpa [countFrom] using noPlaceholder
  · rw [formatFrom, formatFrom, List.append_nil]
    simp only [Bool.and_eq_true, beq_iff_eq, noPlaceholder, if_false, doubled]

/-- A question mark outside quotes is a placeholder. -/
theorem placeholder : Scans none ['?'] none 1 ['%', 's'] where
  leaves := by decide
  finds := by decide
  writes := by decide

/-- The quote that opened a region closes it. -/
theorem closing (q : Char) : Scans (some q) [q] none 0 (doubled q) := by
  have closes : nextQuote (some q) q = none := by simp [nextQuote]
  rw [← closes]
  exact character fun isNone => absurd isNone (Option.some_ne_none q)

/-- Outside of regions a quote opens one. -/
theorem opening (opens : isQuote q = true) : Scans none [q] (some q) 0 (doubled q) := by
  have enters : nextQuote none q = some q := by simp [nextQuote, opens]
  rw [← enters]
  exact character fun _ => ne_mark_of_isQuote opens

/-- Inside of a region any other character leaves it open. -/
theorem inside
    {c : Char}
    (other : c ≠ q) :
    Scans (some q) [c] (some q) 0 (doubled c) := by
  have staysOpen : nextQuote (some q) c = some q := by simp [nextQuote, other]
  have scanned : Scans (some q) [c] (nextQuote (some q) c) 0 (doubled c) :=
    character fun isNone => absurd isNone (Option.some_ne_none q)
  rwa [staysOpen] at scanned

/-- The written form of a name leaves the region open: a doubled mark closes and opens it again. -/
theorem escaped
    (opens : isQuote q = true)
    (name : List Char) :
    Scans (some q) (escapeFrom [q] 0 name) (some q) 0
      ((escapeFrom [q] 0 name).flatMap doubled) := by
  induction name with
  | nil =>
      exact .nil (some q)
  | cons c rest inductionHypothesis =>
      by_cases isMark : c = q
      · subst isMark
        rw [escapeFrom_mark]
        exact (closing c).append ((opening opens).append inductionHypothesis)
      · rw [escapeFrom_other isMark]
        exact (inside isMark).append inductionHypothesis

/-- A quoted name has no placeholder, and the scan is outside of quotes behind it. -/
theorem quoted
    (opens : isQuote q = true)
    (name : List Char) :
    Scans none (wrapChars [q] name) none 0 ((wrapChars [q] name).flatMap doubled) := by
  have scanned := ((opening opens).append (escaped opens name)).append (closing q)
  simpa [wrapChars] using scanned

/-- In a fragment without quotes every question mark is a placeholder. -/
theorem fragment
    {text : List Char}
    (unquoted : ∀ c ∈ text, isQuote c = false) :
    Scans none text none (text.count '?')
      (text.flatMap fun c => if c = '?' then ['%', 's'] else doubled c) := by
  induction text with
  | nil =>
      exact .nil none
  | cons c rest inductionHypothesis =>
      rw [List.forall_mem_cons] at unquoted
      have others := inductionHypothesis unquoted.2
      by_cases isMark : c = '?'
      · subst isMark
        rw [List.count_cons_self, Nat.add_comm]
        exact placeholder.append others
      · have outside : nextQuote none c = none := by simp [nextQuote, unquoted.1]
        have first : Scans none [c] (nextQuote none c) 0 (doubled c) := character fun _ => isMark
        rw [outside] at first
        have scanned := first.append others
        rw [List.count_cons_of_ne isMark, List.flatMap_cons, if_neg isMark]
        rwa [Nat.zero_add] at scanned

end Scans

/-- A part of a statement: a name between two marks, or a fragment without quotes. -/
inductive Piece where
  | quoted
      (mark : Char)
      (opens : isQuote mark = true)
      (name : String)
  | fragment
      (text : String)
      (unquoted : ∀ c ∈ text.toList, isQuote c = false)

namespace Piece

/-- The text of a piece. -/
def text : Piece → List Char
  | .quoted mark _ name => (Identifier.wrap (String.singleton mark) name).toList
  | .fragment text _ => text.toList

/-- The number of question marks of a fragment; those of a name do not count. -/
def marks : Piece → Nat
  | .quoted _ _ _ => 0
  | .fragment text _ => text.toList.count '?'

/-- A piece in the format style: only the question marks of fragments become placeholders. -/
def formatted : Piece → List Char
  | .quoted mark _ name => (Identifier.wrap (String.singleton mark) name).toList.flatMap doubled
  | .fragment text _ =>
      text.toList.flatMap fun c => if c = '?' then ['%', 's'] else doubled c

/-- The text of pieces, one after the other. -/
def textOf (pieces : List Piece) : List Char :=
  pieces.flatMap text

/-- The number of question marks in the fragments among the pieces. -/
def marksOf : List Piece → Nat
  | [] => 0
  | piece :: rest => piece.marks + marksOf rest

theorem scans (piece : Piece) : Scans none piece.text none piece.marks piece.formatted := by
  cases piece with
  | quoted mark opens name =>
      have delimiter : (String.singleton mark).toList = [mark] := by simp
      have scanned := Scans.quoted opens name.toList
      rw [← delimiter] at scanned
      rw [text, formatted, Identifier.wrap, String.toList_ofList]
      exact scanned
  | fragment text unquoted =>
      exact .fragment unquoted

/-- The scan goes through pieces one by one and is outside of quotes behind each. -/
theorem scans_pieces (pieces : List Piece) :
    Scans none (textOf pieces) none (marksOf pieces) (pieces.flatMap formatted) := by
  induction pieces with
  | nil =>
      exact .nil none
  | cons piece rest inductionHypothesis =>
      exact piece.scans.append inductionHypothesis

end Piece

/--
A quoted name is read from its opening mark to its last character, and it is the name that was
quoted; nothing else is read as a name, and what follows is left. In a text of quoted names and of
fragments between them the scan for placeholders is outside of quotes behind each piece. In the
format style the question marks of the fragments become placeholders and percent signs are doubled,
and the names are otherwise left alone; the text does not change if no fragment has a question mark.
-/
theorem names_end_alike
    (mark : Char)
    (name : String)
    (pieces : List Piece) :
    readQuoted? mark (Identifier.wrap (String.singleton mark) name).toList =
        some (name.toList, []) ∧
      (∀ text found after,
        readQuoted? mark text = some (found, after) ↔
          text = wrapChars [mark] found ++ after ∧ after.head? ≠ some mark) ∧
      quoteAfter none (Piece.textOf pieces) = none ∧
      translate .format (String.ofList (Piece.textOf pieces)) =
        String.ofList
          (if Piece.marksOf pieces = 0 then
            Piece.textOf pieces
          else
            pieces.flatMap Piece.formatted) := by
  have scanned := Piece.scans_pieces pieces
  refine ⟨?_, fun text found after => Identifier.readQuoted?_eq_some_iff, scanned.leaves, ?_⟩
  · rw [Identifier.readQuoted?_eq_some_iff, Identifier.wrap]
    simp
  · rw [translate, String.toList_ofList, translateChars, count, scanned.finds, scanned.writes]
    simp only [beq_iff_eq]

end Placeholder

end QueryComposer
