import QueryComposer.Proofs.Filter.Key
import QueryComposer.Proofs.Identifier.Placed

namespace QueryComposer.Identifier

/-!
# Quoted references can be read back

A reference without blanks is quoted as a text that has neither spaces nor parentheses nor
placeholders in it, so that its end can be told in a longer text. Without its marks the text is the
reference again.
-/

open Placeholder (isQuote)

/-- A character that a quoted reference without blanks does not have. -/
def isBoundary (c : Char) : Bool :=
  " ()?".toList.contains c

/-- A quoted reference without its marks. -/
def unquote
    (delimiter : List Char)
    (quoted : List Char) :
    List Char :=
  quoted.filter (!delimiter.contains ·)

/-- Without its marks the text is the reference again, and it has no character that could end it. -/
structure QuotedAs
    (delimiter : List Char)
    (s quoted : List Char) : Prop where
  unquoted :
    unquote delimiter quoted = s
  unbroken :
    ∀ c ∈ quoted, isBoundary c = false

/-- A character at which a reference ends is one of four. -/
theorem eq_of_isBoundary
    {c : Char}
    (boundary : isBoundary c = true) :
    c = ' ' ∨ c = '(' ∨ c = ')' ∨ c = '?' := by
  have boundaries : " ()?".toList = [' ', '(', ')', '?'] := by decide
  rw [isBoundary, boundaries] at boundary
  simpa using boundary

/-- No reference ends at a word character. -/
theorem not_isBoundary_of_isWord
    {c : Char}
    (word : Text.isWord c = true) :
    isBoundary c = false := by
  rw [Bool.eq_false_iff]
  intro boundary
  rcases eq_of_isBoundary boundary with rfl | rfl | rfl | rfl <;>
    exact absurd word (by decide)

/-- No reference ends at a quote. -/
theorem not_isBoundary_of_isQuote
    {q : Char}
    (isOpen : isQuote q = true) :
    isBoundary q = false := by
  rw [Bool.eq_false_iff]
  intro boundary
  rcases eq_of_isBoundary boundary with rfl | rfl | rfl | rfl <;>
    exact absurd isOpen (by decide)

namespace QuotedAs

variable {delimiter : List Char}

/-- Texts are read back one after the other. -/
theorem append
    {s t quoted quotedRest : List Char}
    (opening : QuotedAs delimiter s quoted)
    (closing : QuotedAs delimiter t quotedRest) :
    QuotedAs delimiter (s ++ t) (quoted ++ quotedRest) where
  unquoted := by
    rw [unquote, List.filter_append]
    exact congrArg₂ (· ++ ·) opening.unquoted closing.unquoted
  unbroken := by
    intro c member
    rcases List.mem_append.mp member with inFirst | inSecond
    · exact opening.unbroken c inFirst
    · exact closing.unbroken c inSecond

/-- A text without marks and ends stays as it is. -/
theorem self
    {s : List Char}
    (unmarked : ∀ c ∈ s, c ∉ delimiter)
    (unbroken : ∀ c ∈ s, isBoundary c = false) :
    QuotedAs delimiter s s where
  unquoted := by
    rw [unquote, List.filter_eq_self]
    intro c member
    simpa using unmarked c member
  unbroken := unbroken

/-- The pieces of a path are read back between its points. -/
theorem intercalate
    (pointless : '.' ∉ delimiter)
    {pieces quotedPieces : List (List Char)}
    (each : List.Forall₂ (QuotedAs delimiter) pieces quotedPieces) :
    QuotedAs delimiter (['.'].intercalate pieces) (['.'].intercalate quotedPieces) := by
  have point : QuotedAs delimiter ['.'] ['.'] :=
    self (by simpa using pointless) (List.forall_mem_singleton.mpr (by decide))
  induction each with
  | nil =>
      exact self (by simp) (by simp)
  | cons first others inductionHypothesis =>
      cases others with
      | nil =>
          simpa using first
      | cons second rest =>
          simpa [List.intercalate] using first.append (point.append inductionHypothesis)

end QuotedAs

section Quote

variable {q : Char} {s quoted : List Char}

/-- A character that is no quote is no mark. -/
theorem not_mem_of_not_isQuote
    (isOpen : isQuote q = true)
    {c : Char}
    (ordinary : isQuote c = false) :
    c ∉ [q] := by
  intro member
  rw [List.mem_singleton.mp member, isOpen] at ordinary
  cases ordinary

/-- A quoted piece of a path is read back. -/
theorem quotedAs_of_quoteSegment
    (isOpen : isQuote q = true)
    (accepted : quoteSegment [q] s = .ok quoted) :
    QuotedAs [q] s quoted := by
  unfold quoteSegment at accepted
  split at accepted
  · next name =>
      cases accepted
      have words : ∀ c ∈ s, Text.isWord c = true := by
        simp only [isPlain, Bool.and_eq_true] at name
        exact List.all_eq_true.mp name.2
      have unmarked : ∀ c ∈ s, c ∉ [q] := by
        intro c member
        have plain := not_isSpecial_of_isWord (words c member)
        exact not_mem_of_not_isQuote isOpen (Placeholder.ne_of_not_isSpecial plain).1
      have absent : q ∉ s := fun member => unmarked q member (List.mem_singleton_self q)
      have mark : QuotedAs [q] [] [q] := by
        refine ⟨by simp [unquote], ?_⟩
        simpa using not_isBoundary_of_isQuote isOpen
      have inner : QuotedAs [q] s s :=
        .self unmarked fun c member => not_isBoundary_of_isWord (words c member)
      rw [wrapChars, escapeFrom_of_not_mem absent]
      simpa using (mark.append inner).append mark
  · split at accepted
    · next wildcard =>
        cases accepted
        rw [beq_iff_eq.mp wildcard]
        have unmarked := not_mem_of_not_isQuote isOpen (show isQuote '*' = false by decide)
        exact .self (by simpa using unmarked) (List.forall_mem_singleton.mpr (by decide))
    · split at accepted <;> cases accepted

/-- A quoted path is read back. -/
theorem quotedAs_of_quotePath
    (isOpen : isQuote q = true)
    (accepted : quotePath [q] s = .ok quoted) :
    QuotedAs [q] s quoted := by
  obtain ⟨pieces, quotedPieces, joined⟩ := Success.bind_eq_ok_iff.mp accepted
  cases joined
  rw [← intercalate_segments s]
  apply QuotedAs.intercalate (not_mem_of_not_isQuote isOpen (by decide))
  exact (Success.mapM_eq_ok_iff.mp quotedPieces).imp fun _ _ => quotedAs_of_quoteSegment isOpen

/-- A quoted reference without blanks is read back, and there is something to read. -/
theorem quotedAs_of_quoteChars
    (isOpen : isQuote q = true)
    (solid : ∀ c ∈ s, Text.isBlank c = false)
    (accepted : quoteChars [q] s = .ok quoted) :
    QuotedAs [q] s quoted ∧ quoted ≠ [] := by
  have nonempty : s ≠ [] := by
    rintro rfl
    cases accepted
  have oneWord : Text.firstWord s = (s, []) := by
    simpa [Text.trimStart] using
      @Text.firstWord_append s [] solid nonempty (by simp) (by simp)
  rw [quoteChars, oneWord] at accepted
  have quotedAs := quotedAs_of_quotePath isOpen accepted
  refine ⟨quotedAs, ?_⟩
  rintro rfl
  exact nonempty quotedAs.unquoted.symm

end Quote

/-- A name without blanks is read back as it is quoted for a driver, and it is not empty. -/
theorem quotedAs_of_quote
    (mark : QuoteMark)
    {name quoted : String}
    (solid : ∀ c ∈ name.toList, Text.isBlank c = false)
    (accepted : quote mark.text (.text name) = .ok quoted) :
    QuotedAs mark.text.toList name.toList quoted.toList ∧ quoted.toList ≠ [] := by
  obtain ⟨q, delimiter, isOpen⟩ := quoteMark_text mark
  obtain ⟨characters, quotedCharacters, written⟩ := Success.map_eq_ok_iff.mp accepted
  rw [delimiter] at quotedCharacters
  rw [delimiter, ← written, String.toList_ofList]
  exact quotedAs_of_quoteChars isOpen solid quotedCharacters

end QueryComposer.Identifier
