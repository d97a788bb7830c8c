import QueryComposer.Proofs.Filter.Key

namespace QueryComposer.Text

/-!
# Texts between blanks

Blanks may surround a text and stand between its words. `trim` finds what they surround and
`firstWord` the first word in it; the words of any text are found so one after the other, and
`collapse` writes one space between them.
-/

/-- Every character of the text is blank. -/
def Blank (s : List Char) : Prop :=
  ∀ c ∈ s, isBlank c = true

/-- No blank surrounds the text. -/
structure Trimmed (s : List Char) : Prop where
  starts : ∀ c ∈ s.head?, isBlank c = false
  ends : ∀ c ∈ s.getLast?, isBlank c = false

/-- A word: at least one character, and no blank. -/
structure Word (s : List Char) : Prop where
  nonempty : s ≠ []
  solid : ∀ c ∈ s, isBlank c = false

namespace Word

variable {word : List Char}

theorem trimmed (isWord : Word word) : Trimmed word where
  starts c member := isWord.solid c (List.mem_of_mem_head? member)
  ends c member := isWord.solid c (List.mem_of_getLast? member)

end Word

/-- The first character that is not dropped is not blank. -/
theorem not_isBlank_of_head?_trimStart
    {s : List Char}
    {c : Char}
    (first : c ∈ (trimStart s).head?) :
    isBlank c = false := by
  have kept := List.head?_dropWhile_not isBlank s
  unfold trimStart at first
  rw [Option.mem_def.mp first] at kept
  simpa using kept

/-- Blanks are the only characters that are dropped at the end of a text. -/
theorem exists_trimEnd (s : List Char) : ∃ after, Blank after ∧ s = trimEnd s ++ after := by
  refine ⟨s.rtakeWhile isBlank, fun c member => List.mem_rtakeWhile_imp member, ?_⟩
  exact List.rdropWhile_append_rtakeWhile.symm

theorem not_isBlank_of_getLast?_trimEnd
    {s : List Char}
    {c : Char}
    (last : c ∈ (trimEnd s).getLast?) :
    isBlank c = false := by
  apply not_isBlank_of_head?_trimStart (s := s.reverse)
  rwa [trimEnd, List.getLast?_reverse] at last

/-- No blank surrounds a text that is trimmed. -/
theorem trimmed_trim (s : List Char) : Trimmed (trim s) where
  starts c first := by
    obtain ⟨after, _, split⟩ := exists_trimEnd (trimStart s)
    apply not_isBlank_of_head?_trimStart (s := s)
    rw [split]
    change c ∈ (trim s ++ after).head?
    rw [List.head?_append, Option.mem_def.mp first]
    rfl
  ends _ last := not_isBlank_of_getLast?_trimEnd last

/-- A text is what is left of it when it is trimmed, with blanks around that. -/
theorem exists_trim (s : List Char) :
    ∃ before after, Blank before ∧ Blank after ∧ s = before ++ trim s ++ after := by
  obtain ⟨after, blankAfter, split⟩ := exists_trimEnd (trimStart s)
  refine ⟨s.takeWhile isBlank, after, fun c member => List.mem_takeWhile_imp member,
    blankAfter, ?_⟩
  rw [List.append_assoc, trim, ← split]
  exact List.takeWhile_append_dropWhile.symm

/-- The blanks around a text are what it loses when it is trimmed. -/
theorem trim_surrounded
    {before s after : List Char}
    (blankBefore : Blank before)
    (trimmed : Trimmed s)
    (blankAfter : Blank after) :
    trim (before ++ s ++ after) = s := by
  cases shape : s with
  | nil =>
      have blank : Blank (before ++ after) := by
        intro c member
        rcases List.mem_append.mp member with inBefore | inAfter
        · exact blankBefore c inBefore
        · exact blankAfter c inAfter
      simp [trim, trimStart, trimEnd, List.dropWhile_eq_nil_iff.mpr blank]
  | cons first rest =>
      rw [← shape]
      have started : trimStart (before ++ s ++ after) = s ++ after := by
        rw [List.append_assoc]
        apply dropWhile_append_of_head blankBefore
        intro c member
        rw [shape] at member
        exact trimmed.starts c (by rwa [shape])
      have reversed : (s ++ after).reverse.dropWhile isBlank = s.reverse := by
        rw [List.reverse_append]
        apply dropWhile_append_of_head
        · intro c member
          exact blankAfter c (List.mem_reverse.mp member)
        · intro c member
          rw [List.head?_reverse] at member
          exact trimmed.ends c member
      rw [trim, started, trimEnd, reversed, List.reverse_reverse]

/-- The first word of a text is found in its trimmed text. -/
theorem firstWord_congr
    {s t : List Char}
    (same : trim s = trim t) :
    firstWord s = firstWord t := by
  unfold firstWord
  rw [same]

/-- The only word of a text is its first one, with blanks around it. -/
theorem firstWord_alone
    {before word after : List Char}
    (blankBefore : Blank before)
    (isWord : Word word)
    (blankAfter : Blank after) :
    firstWord (before ++ word ++ after) = (word, []) := by
  have same : trim (before ++ word ++ after) = trim (word ++ []) := by
    rw [List.append_nil, trim_surrounded blankBefore isWord.trimmed blankAfter,
      trim_of_ends isWord.trimmed.starts isWord.trimmed.ends]
  rw [firstWord_congr same]
  exact firstWord_append isWord.solid isWord.nonempty (by simp) (by simp)

/-- The first word is followed by blanks and the trimmed rest of the text. -/
theorem firstWord_surrounded
    {before word gap rest after : List Char}
    (blankBefore : Blank before)
    (isWord : Word word)
    (blankGap : Blank gap)
    (apart : gap ≠ [])
    (nonempty : rest ≠ [])
    (trimmed : Trimmed rest)
    (blankAfter : Blank after) :
    firstWord (before ++ word ++ gap ++ rest ++ after) = (word, rest) := by
  have ends : ∀ c ∈ (gap ++ rest).getLast?, isBlank c = false := by
    intro c member
    rw [List.getLast?_append_of_ne_nil gap nonempty] at member
    exact trimmed.ends c member
  have starts : ∀ c ∈ (gap ++ rest).head?, isBlank c = true := by
    intro c member
    rw [List.head?_append_of_ne_nil gap apart] at member
    exact blankGap c (List.mem_of_mem_head? member)
  have inner : Trimmed (word ++ (gap ++ rest)) := by
    constructor
    · intro c member
      rw [List.head?_append_of_ne_nil word isWord.nonempty] at member
      exact isWord.trimmed.starts c member
    · intro c member
      rw [List.getLast?_append_of_ne_nil word (by simp [nonempty])] at member
      exact ends c member
  have same : trim (before ++ word ++ gap ++ rest ++ after) = trim (word ++ (gap ++ rest)) := by
    have whole := trim_surrounded blankBefore inner blankAfter
    rw [trim_of_ends inner.starts inner.ends, ← whole]
    simp only [List.append_assoc]
  rw [firstWord_congr same, firstWord_append isWord.solid isWord.nonempty starts ends]
  exact congrArg (word, ·) (dropWhile_append_of_head blankGap trimmed.starts)

/-- A text consists of its first word and the rest, with blanks around and between them. -/
theorem exists_firstWord (s : List Char) :
    ∃ before gap after,
      Blank before ∧ Blank gap ∧ Blank after ∧
        s = before ++ (firstWord s).1 ++ gap ++ (firstWord s).2 ++ after ∧
        Trimmed (firstWord s).2 ∧
        ((firstWord s).2 ≠ [] → gap ≠ []) := by
  obtain ⟨before, after, blankBefore, blankAfter, split⟩ := exists_trim s
  let rest := (trim s).dropWhile (!isBlank ·)
  have cut : trim s = (firstWord s).1 ++ (rest.takeWhile isBlank ++ (firstWord s).2) := by
    have following : rest.takeWhile isBlank ++ (firstWord s).2 = rest :=
      List.takeWhile_append_dropWhile
    rw [following]
    exact List.takeWhile_append_dropWhile.symm
  refine ⟨before, rest.takeWhile isBlank, after, blankBefore,
    fun c member => List.mem_takeWhile_imp member, blankAfter, ?_, ?_, ?_⟩
  · rw [cut] at split
    simpa only [List.append_assoc] using split
  · constructor
    · intro c first
      exact not_isBlank_of_head?_trimStart first
    · intro c last
      apply (trimmed_trim s).ends c
      have nonempty : (firstWord s).2 ≠ [] := by
        intro isNil
        rw [isNil] at last
        cases last
      rw [cut, ← List.append_assoc, List.getLast?_append_of_ne_nil _ nonempty]
      exact last
  · intro nonempty noGap
    -- The rest after the first word starts with a blank, which the gap would have taken.
    have untouched : (firstWord s).2 = rest := by
      have following : rest.takeWhile isBlank ++ (firstWord s).2 = rest :=
        List.takeWhile_append_dropWhile
      rwa [noGap, List.nil_append] at following
    rw [untouched] at nonempty
    cases shape : rest with
    | nil =>
        exact nonempty shape
    | cons c others =>
        have stops := List.head?_dropWhile_not (!isBlank ·) (trim s)
        have isHead : ((trim s).dropWhile (!isBlank ·)).head? = some c := by
          change rest.head? = some c
          rw [shape]
          rfl
        rw [isHead] at stops
        rw [shape, List.takeWhile_cons] at noGap
        have blank : isBlank c = true := by simpa using stops
        rw [blank] at noGap
        cases noGap

section Words

/-- A text consists of words, with blanks between them. -/
inductive Spaced : List (List Char) → List Char → Prop where
  | single
      {word : List Char}
      (isWord : Word word) :
      Spaced [word] word
  | cons
      {word gap rest : List Char}
      {words : List (List Char)}
      (isWord : Word word)
      (blankGap : Blank gap)
      (apart : gap ≠ [])
      (following : Spaced words rest) :
      Spaced (word :: words) (word ++ gap ++ rest)

namespace Spaced

variable {words : List (List Char)} {s : List Char}

theorem nonempty (spaced : Spaced words s) : s ≠ [] := by
  cases spaced with
  | single isWord =>
      exact isWord.nonempty
  | cons isWord _ _ _ =>
      simp [isWord.nonempty]

theorem words_ne_nil (spaced : Spaced words s) : words ≠ [] := by
  cases spaced <;> simp

/-- Spaced words are trimmed. -/
theorem trimmed (spaced : Spaced words s) : Trimmed s := by
  induction spaced with
  | single isWord =>
      exact isWord.trimmed
  | @cons word gap rest words isWord blankGap apart following inductionHypothesis =>
      constructor
      · intro c member
        rw [List.append_assoc, List.head?_append_of_ne_nil word isWord.nonempty] at member
        exact isWord.trimmed.starts c member
      · intro c member
        rw [List.getLast?_append_of_ne_nil _ following.nonempty] at member
        exact inductionHypothesis.ends c member

end Spaced

/-- A word in front of a text is collapsed to itself. -/
theorem collapse_append_of_solid
    {word : List Char}
    (solid : ∀ c ∈ word, isBlank c = false)
    (rest : List Char) :
    collapse (word ++ rest) = word ++ collapse rest := by
  induction word with
  | nil =>
      rfl
  | cons c others inductionHypothesis =>
      have following := inductionHypothesis fun d member => solid d (List.mem_cons_of_mem c member)
      simp [collapse, solid c List.mem_cons_self, following]

/-- Blanks in front of a word are collapsed to one space. -/
theorem collapse_append_of_blank
    {gap rest : List Char}
    (blank : Blank gap)
    (apart : gap ≠ [])
    (nonempty : rest ≠ [])
    (starts : ∀ c ∈ rest.head?, isBlank c = false) :
    collapse (gap ++ rest) = ' ' :: collapse rest := by
  induction gap with
  | nil =>
      exact absurd rfl apart
  | cons c others inductionHypothesis =>
      have isFirst := blank c List.mem_cons_self
      cases others with
      | nil =>
          cases rest with
          | nil =>
              exact absurd rfl nonempty
          | cons next more =>
              have stops := starts next rfl
              simp [collapse, isFirst, stops]
      | cons next more =>
          have following := inductionHypothesis
            (fun d member => blank d (List.mem_cons_of_mem c member)) (by simp)
          have isNext := blank next (by simp)
          rw [List.cons_append] at following
          simp only [List.cons_append, collapse, isFirst, isNext, if_true] at following ⊢
          exact following

/-- Spaced words are collapsed to the words with one space between them. -/
theorem Spaced.collapse_eq
    {words : List (List Char)}
    {s : List Char}
    (spaced : Spaced words s) :
    collapse s = [' '].intercalate words := by
  induction spaced with
  | single isWord =>
      rw [collapse_of_not_isBlank isWord.solid]
      simp [List.intercalate]
  | @cons word gap rest words isWord blankGap apart following inductionHypothesis =>
      rw [List.append_assoc, collapse_append_of_solid isWord.solid,
        collapse_append_of_blank blankGap apart following.nonempty following.trimmed.starts,
        inductionHypothesis]
      obtain ⟨next, others, rfl⟩ := List.exists_cons_of_ne_nil following.words_ne_nil
      simp [List.intercalate]

/-- Words with one space between them, in upper case. -/
def capitalWords (words : List (List Char)) : List Char :=
  upper ([' '].intercalate words)

/-- A text that is trimmed and not empty consists of words. -/
theorem exists_spaced
    {s : List Char}
    (trimmed : Trimmed s)
    (nonempty : s ≠ []) :
    ∃ words, Spaced words s := by
  let word := s.takeWhile (!isBlank ·)
  let rest := s.dropWhile (!isBlank ·)
  have split : word ++ rest = s := List.takeWhile_append_dropWhile
  have isWord : Word word := by
    constructor
    · obtain ⟨c, others, rfl⟩ := List.exists_cons_of_ne_nil nonempty
      simp [word, trimmed.starts c rfl]
    · intro c member
      simpa using List.mem_takeWhile_imp member
  by_cases ended : rest = []
  · rw [ended, List.append_nil] at split
    rw [← split]
    exact ⟨[word], .single isWord⟩
  · let gap := rest.takeWhile isBlank
    let later := rest.dropWhile isBlank
    have splitRest : gap ++ later = rest := List.takeWhile_append_dropWhile
    have blankGap : Blank gap := fun c member => List.mem_takeWhile_imp member
    have starts : ∀ c ∈ rest.head?, isBlank c = true := by
      intro c member
      have stops := List.head?_dropWhile_not (!isBlank ·) s
      rw [Option.mem_def.mp member] at stops
      simpa using stops
    have ends : ∀ c ∈ rest.getLast?, isBlank c = false := by
      intro c member
      apply trimmed.ends c
      rwa [← split, List.getLast?_append_of_ne_nil _ ended]
    have apart : gap ≠ [] := by
      obtain ⟨c, others, shape⟩ := List.exists_cons_of_ne_nil ended
      have isFirst : isBlank c = true := starts c (by rw [shape]; rfl)
      simp [gap, shape, isFirst]
    have remains : later ≠ [] := by
      intro isNil
      rw [isNil, List.append_nil] at splitRest
      have isLast := List.getLast?_eq_some_getLast ended
      have inGap : rest.getLast ended ∈ gap := by
        rw [splitRest]
        exact List.getLast_mem ended
      have blank := blankGap _ inGap
      rw [ends _ isLast] at blank
      cases blank
    have trimmedLater : Trimmed later := by
      constructor
      · intro c member
        exact not_isBlank_of_head?_trimStart member
      · intro c member
        apply ends c
        rwa [← splitRest, List.getLast?_append_of_ne_nil _ remains]
    have shorter : later.length < s.length := by
      have atLeast := List.length_pos_iff.mpr isWord.nonempty
      rw [← split, ← splitRest]
      simp only [List.length_append]
      omega
    obtain ⟨words, following⟩ := exists_spaced trimmedLater remains
    rw [← split, ← splitRest, ← List.append_assoc]
    exact ⟨word :: words, .cons isWord blankGap apart following⟩
termination_by s.length

end Words

end QueryComposer.Text
