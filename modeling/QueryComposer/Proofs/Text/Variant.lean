import Mathlib.Data.List.Chain
import QueryComposer.Proofs.Text.Capital
import QueryComposer.Proofs.Text.Spaced

namespace QueryComposer.Text

/-!
# Variants of a text

A variant of a text has the same words, in letters of any case and with any blanks around and
between them. What it is written as when it is trimmed, collapsed and put into capital letters is
`Tidy`: upper-casing makes no character blank, so that words stay words.
-/

section Upper

/-- No ASCII letter has a blank as its other form. -/
theorem isBlank_toUpper
    {c : Char}
    (ascii : c.toNat < 128) :
    isBlank c.toUpper = isBlank c := by
  have all : ∀ n < 128, isBlank (Char.ofNat n).toUpper = isBlank (Char.ofNat n) := by
    decide +kernel
  have here := all c.toNat ascii
  rwa [Char.ofNat_toNat] at here

/-- Expansions consist of one or more characters that are not blank. -/
theorem upperExpansions_solid :
    ∀ pair ∈ upperExpansions,
      pair.2 ≠ [] ∧ ∀ code ∈ pair.2, isBlank (Char.ofNat code) = false := by
  decide +kernel

/-- No run moves over a blank. -/
theorem upperRuns_solid :
    ∀ run ∈ upperRuns,
      ∀ code ∈ blankCodes,
        ¬ ((run.first : Int) + run.distance ≤ code ∧ (code : Int) ≤ run.last + run.distance) := by
  decide +kernel

/-- A code that names a blank is the code of the blank. -/
theorem mem_blankCodes_of_isBlank_ofNat
    {code : Nat}
    (blank : isBlank (Char.ofNat code) = true) :
    code ∈ blankCodes := by
  have listed := toNat_mem_blankCodes blank
  by_cases valid : code.isValidChar
  · rw [Char.ofNat, dif_pos valid] at listed
    exact listed
  · rw [Char.ofNat, dif_neg valid] at listed
    exact absurd listed (by decide)

theorem upperChar_ne_nil (c : Char) : upperChar c ≠ [] := by
  unfold upperChar
  split
  · simp
  · rcases mapCase_cases upperRuns upperExpansions c with
      ⟨codes, listed, expanded⟩ | ⟨run, _, _, _, moved⟩ | same
    · rw [expanded]
      simpa using (upperExpansions_solid _ listed).1
    · simp [moved]
    · simp [same]

/-- No character of the upper-case form is blank, unless the character itself is. -/
theorem not_isBlank_of_mem_upperChar
    {c d : Char}
    (solid : isBlank c = false)
    (member : d ∈ upperChar c) :
    isBlank d = false := by
  unfold upperChar at member
  split at member
  · next ascii =>
      rw [List.mem_singleton.mp member, isBlank_toUpper ascii, solid]
  · rcases mapCase_cases upperRuns upperExpansions c with
      ⟨codes, listed, expanded⟩ | ⟨run, listed, starts, ends, moved⟩ | same
    · rw [expanded] at member
      obtain ⟨code, inCodes, rfl⟩ := List.mem_map.mp member
      exact (upperExpansions_solid _ listed).2 code inCodes
    · rw [moved] at member
      rw [List.mem_singleton.mp member, Bool.eq_false_iff]
      intro blank
      have isCode := mem_blankCodes_of_isBlank_ofNat blank
      have positive : 0 < (c.toNat + run.distance).toNat := by
        have all : ∀ code ∈ blankCodes, 0 < code := by decide
        exact all _ isCode
      exact upperRuns_solid run listed _ isCode (by omega)
    · rw [same] at member
      rw [List.mem_singleton.mp member, solid]

/-- A word in upper case is a word. -/
theorem Word.upper
    {word : List Char}
    (isWord : Word word) :
    Word (upper word) where
  nonempty := by
    obtain ⟨c, rest, rfl⟩ := List.exists_cons_of_ne_nil isWord.nonempty
    simp [Text.upper, upperChar_ne_nil]
  solid := by
    intro d member
    obtain ⟨c, inWord, inForm⟩ := List.mem_flatMap.mp member
    exact not_isBlank_of_mem_upperChar (isWord.solid c inWord) inForm

/-- Words with one space between them are put into upper case one by one. -/
theorem capitalWords_eq (words : List (List Char)) :
    capitalWords words = [' '].intercalate (words.map upper) := by
  have space : upper [' '] = [' '] := by decide
  unfold capitalWords
  induction words with
  | nil =>
      rfl
  | cons word rest inductionHypothesis =>
      cases rest with
      | nil =>
          simp [List.intercalate]
      | cons next others =>
          rw [List.map_cons] at inductionHypothesis
          rw [List.map_cons, List.map_cons, List.intercalate_cons_cons,
            List.intercalate_cons_cons, upper_append, upper_append, space, inductionHypothesis]

end Upper

section Tidy

/-- No blank surrounds the text, and no two blanks stand side by side in it. -/
structure Tidy (s : List Char) : Prop where
  trimmed : Trimmed s
  unrepeated : s.IsChain fun c d => isBlank c = true → isBlank d = false

/-- A word is recognised by running through it. -/
theorem word_of_all
    {word : List Char}
    (nonempty : word ≠ [])
    (all : word.all (!isBlank ·) = true) :
    Word word :=
  ⟨nonempty, by simpa using all⟩

theorem Word.tidy
    {word : List Char}
    (isWord : Word word) :
    Tidy word where
  trimmed := isWord.trimmed
  unrepeated := by
    rw [List.isChain_iff_forall_rel_of_append_cons_cons]
    rintro c d before after rfl _
    exact isWord.solid d (by simp)

/-- A word, a space and a tidy text are tidy. -/
theorem Word.tidy_append
    {word rest : List Char}
    (isWord : Word word)
    (nonempty : rest ≠ [])
    (tidy : Tidy rest) :
    Tidy (word ++ [' '] ++ rest) where
  trimmed := by
    constructor
    · intro c member
      rw [List.append_assoc, List.head?_append_of_ne_nil word isWord.nonempty] at member
      exact isWord.trimmed.starts c member
    · intro c member
      rw [List.getLast?_append_of_ne_nil _ nonempty] at member
      exact tidy.trimmed.ends c member
  unrepeated := by
    have opening : (word ++ [' ']).IsChain fun c d => isBlank c = true → isBlank d = false := by
      refine isWord.tidy.unrepeated.append (.singleton ' ') fun c last d _ blank => ?_
      rw [isWord.trimmed.ends c last] at blank
      cases blank
    exact opening.append tidy.unrepeated fun _ _ d first _ => tidy.trimmed.starts d first

/-- Words with one space between them are tidy. -/
theorem tidy_intercalate
    {words : List (List Char)}
    (areWords : ∀ word ∈ words, Word word) :
    Tidy ([' '].intercalate words) := by
  induction words with
  | nil =>
      exact ⟨⟨by simp, by simp⟩, .nil⟩
  | cons word rest inductionHypothesis =>
      rw [List.forall_mem_cons] at areWords
      have others := inductionHypothesis areWords.2
      cases rest with
      | nil =>
          simpa [List.intercalate] using areWords.1.tidy
      | cons next more =>
          have nonempty : [' '].intercalate (next :: more) ≠ [] := by
            have isNext := (areWords.2 next List.mem_cons_self).nonempty
            cases more <;> simp [List.intercalate, isNext]
          rw [List.intercalate_cons_cons]
          exact areWords.1.tidy_append nonempty others

theorem Spaced.areWords
    {words : List (List Char)}
    {s : List Char}
    (spaced : Spaced words s) :
    ∀ word ∈ words, Word word := by
  induction spaced with
  | single isWord =>
      exact List.forall_mem_singleton.mpr isWord
  | cons isWord _ _ _ inductionHypothesis =>
      exact List.forall_mem_cons.mpr ⟨isWord, inductionHypothesis⟩

/-- Spaced words in upper case are tidy. -/
theorem Spaced.tidy_capitalWords
    {words : List (List Char)}
    {s : List Char}
    (spaced : Spaced words s) :
    Tidy (capitalWords words) := by
  rw [capitalWords_eq]
  apply tidy_intercalate
  rw [List.forall_mem_map]
  exact fun word member => (spaced.areWords word member).upper

end Tidy

section Variants

/-- The words of a text, in ASCII letters of any case and with blanks around and between them. -/
def Variant (s canonical : List Char) : Prop :=
  ∃ before words spaced after,
    Blank before ∧ Spaced words spaced ∧ Blank after ∧
      s = before ++ spaced ++ after ∧
      ([' '].intercalate words).map Char.toUpper = canonical

/-- An ASCII text is recognised by running through it. -/
theorem ascii_of_all
    {s : List Char}
    (all : (s.all fun c => c.toNat < 128) = true) :
    ∀ c ∈ s, c.toNat < 128 := by
  simpa using all

/-- A text that is an ASCII text letter by letter in capitals is so in upper case. -/
theorem upper_eq_of_map_toUpper
    {s target : List Char}
    (ascii : ∀ c ∈ target, c.toNat < 128)
    (capitals : s.map Char.toUpper = target) :
    upper s = target := by
  rw [← capitals]
  apply upper_of_ascii
  intro c member
  by_contra beyond
  have same : c.toUpper = c := toUpper_eq_self (by omega)
  apply beyond
  rw [← same]
  apply ascii
  rw [← capitals]
  exact List.mem_map_of_mem member

end Variants

end QueryComposer.Text
