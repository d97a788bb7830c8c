import QueryComposer.Driver.Entry
import QueryComposer.Identifier
import QueryComposer.Proofs.Placeholder.Placed
import QueryComposer.Proofs.Success

namespace QueryComposer.Identifier

/-!
# Quoted identifiers hold no placeholder

Whatever `quote` accepts, it writes as a text without placeholders that closes all its quotes.
The names between the quotes consist of word characters and the suffix of word characters and
blanks, none of which is special.
-/

open Placeholder (Placed Plain isQuote isSpecial)

/-- A special character is one of five. -/
theorem eq_of_isSpecial
    {c : Char}
    (special : isSpecial c = true) :
    c = '\'' ∨ c = '"' ∨ c = '`' ∨ c = '?' ∨ c = '%' := by
  simp only [isSpecial, isQuote, Bool.or_eq_true, beq_iff_eq, List.contains_eq_mem,
    decide_eq_true_eq] at special
  have quotes : "'\"`".toList = ['\'', '"', '`'] := by decide
  rw [quotes] at special
  simpa [or_assoc] using special

/-- A word character is not special. -/
theorem not_isSpecial_of_isWord
    {c : Char}
    (word : Text.isWord c = true) :
    isSpecial c = false := by
  rw [Bool.eq_false_iff]
  intro special
  rcases eq_of_isSpecial special with rfl | rfl | rfl | rfl | rfl <;>
    exact absurd word (by decide)

/-- A blank is not special. -/
theorem not_isSpecial_of_isBlank
    {c : Char}
    (blank : Text.isBlank c = true) :
    isSpecial c = false := by
  rw [Bool.eq_false_iff]
  intro special
  rcases eq_of_isSpecial special with rfl | rfl | rfl | rfl | rfl <;>
    exact absurd blank (by decide)

/-- A name that can be quoted is plain. -/
theorem plain_of_isPlain
    {s : List Char}
    (accepted : isPlain s = true) :
    Plain s := by
  simp only [isPlain, Bool.and_eq_true] at accepted
  intro c member
  exact not_isSpecial_of_isWord (List.all_eq_true.mp accepted.2 c member)

/-- A suffix is plain. -/
theorem plain_of_isSuffix
    {s : List Char}
    (accepted : isSuffix s = true) :
    Plain s := by
  simp only [isSuffix, Bool.and_eq_true] at accepted
  intro c member
  have allowed := List.all_eq_true.mp accepted.2 c member
  rw [Bool.or_eq_true] at allowed
  rcases allowed with word | blank
  · exact not_isSpecial_of_isWord word
  · exact not_isSpecial_of_isBlank blank

/-- The mark of a driver is one quote character. -/
theorem quoteMark_text (mark : QuoteMark) : ∃ q, mark.text.toList = [q] ∧ isQuote q = true := by
  cases mark with
  | backtick => exact ⟨'`', by decide, by decide⟩
  | double => exact ⟨'"', by decide, by decide⟩

/-- A name without the delimiter stays as it is. -/
theorem escapeFrom_of_not_mem
    {q : Char}
    {name : List Char}
    (absent : q ∉ name) :
    escapeFrom [q] 0 name = name := by
  induction name with
  | nil =>
      rfl
  | cons c rest inductionHypothesis =>
      rw [List.mem_cons, not_or] at absent
      simp [escapeFrom, absent.1, inductionHypothesis absent.2]

/-- A quoted piece of a path holds no placeholder. -/
theorem placed_of_quoteSegment
    {q : Char}
    (isOpen : isQuote q = true)
    {s quoted : List Char}
    (accepted : quoteSegment [q] s = .ok quoted) :
    Placed quoted 0 := by
  unfold quoteSegment at accepted
  split at accepted
  · next name =>
      cases accepted
      have plain := plain_of_isPlain name
      have absent : q ∉ s := by
        intro member
        have ordinary := (Placeholder.ne_of_not_isSpecial (plain q member)).1
        rw [isOpen] at ordinary
        cases ordinary
      rw [wrapChars, escapeFrom_of_not_mem absent]
      exact Placed.quoted isOpen plain
  · split at accepted
    · next wildcard =>
        cases accepted
        rw [beq_iff_eq.mp wildcard]
        exact Placed.ofPlain (by decide)
    · split at accepted <;> cases accepted

/-- A quoted path holds no placeholder. -/
theorem placed_of_quotePath
    {q : Char}
    (isOpen : isQuote q = true)
    {s quoted : List Char}
    (accepted : quotePath [q] s = .ok quoted) :
    Placed quoted 0 := by
  obtain ⟨pieces, quotedPieces, joined⟩ := Success.bind_eq_ok_iff.mp accepted
  cases joined
  have each : ∀ piece ∈ pieces, Placed piece 0 :=
    Success.forall_of_mapM_eq_ok
      (fun _ _ quotedPiece => placed_of_quoteSegment isOpen quotedPiece) quotedPieces
  simpa using Placed.intercalate (show Plain ['.'] by decide) each

/-- A quoted reference holds no placeholder. -/
theorem placed_of_quoteChars
    {q : Char}
    (isOpen : isQuote q = true)
    {s quoted : List Char}
    (accepted : quoteChars [q] s = .ok quoted) :
    Placed quoted 0 := by
  unfold quoteChars at accepted
  split at accepted
  next name suffix _ =>
    split at accepted
    · exact placed_of_quotePath isOpen accepted
    · split at accepted
      · next allowed =>
          obtain ⟨path, quotedPath, joined⟩ := Success.bind_eq_ok_iff.mp accepted
          cases joined
          have plain : Plain (' ' :: suffix) := by
            intro c member
            rcases List.mem_cons.mp member with isSpace | inSuffix
            · rw [isSpace]
              decide
            · exact plain_of_isSuffix allowed c inSuffix
          exact (placed_of_quotePath isOpen quotedPath).append (Placed.ofPlain plain)
      · cases accepted

/-- Whatever is quoted for a driver holds no placeholder. -/
theorem placed_of_quote
    (mark : QuoteMark)
    {reference : Value}
    {quoted : String}
    (accepted : quote mark.text reference = .ok quoted) :
    Placed quoted.toList 0 := by
  obtain ⟨q, delimiter, isOpen⟩ := quoteMark_text mark
  cases reference with
  | text s =>
      obtain ⟨characters, quotedCharacters, written⟩ := Success.map_eq_ok_iff.mp accepted
      rw [delimiter] at quotedCharacters
      rw [← written, String.toList_ofList]
      exact placed_of_quoteChars isOpen quotedCharacters
  | _ => cases accepted

end QueryComposer.Identifier
