import QueryComposer.Proofs.Identifier.Grammar

namespace QueryComposer

/-!
# Quoting by recursion

A reference can also be quoted by a recursion over its text. A suffix is cut off first, and the
path before it is quoted as a reference of its own; a text without a suffix is divided at its first
point, and both parts are quoted as references of their own. `quoteRecursively` does this, and comes
to the same text and to the same error as `quoteChars`, which divides a text only once.

A part of a text may be anything that a reference can be, a path with a suffix among them. But a
text that has no suffix has no part with one: a blank that has other characters on both of its sides
has them in the whole text, too.
-/

namespace Text

/-- No blank of the text has other characters on both of its sides. -/
def Undivided (s : List Char) : Prop :=
  ∀ before c after, s = before ++ c :: after → isBlank c = true → Blank before ∨ Blank after

/-- A part of an undivided text is undivided. -/
theorem Undivided.of_infix
    {part s : List Char}
    (undivided : Undivided s)
    (isPart : part <:+: s) :
    Undivided part := by
  obtain ⟨start, finish, shape⟩ := isPart
  intro before c after split blank
  have whole : s = (start ++ before) ++ c :: (after ++ finish) := by
    rw [← shape, split]
    simp
  rcases undivided _ c _ whole blank with blankBefore | blankAfter
  · exact .inl fun d member => blankBefore d (List.mem_append_right _ member)
  · exact .inr fun d member => blankAfter d (List.mem_append_left _ member)

/-- Blanks around one word leave a text undivided. -/
theorem Undivided.surrounded
    {before word after : List Char}
    (blankBefore : Blank before)
    (solid : ∀ c ∈ word, isBlank c = false)
    (blankAfter : Blank after) :
    Undivided (before ++ word ++ after) := by
  intro start c finish cut blank
  rw [List.append_assoc] at cut
  rcases List.append_eq_append_iff.mp cut with ⟨more, _, following⟩ | ⟨rest, isBefore, _⟩
  · right
    rcases List.append_eq_append_iff.mp following with ⟨rest, _, isAfter⟩ | ⟨rest, isWord, isRest⟩
    · exact fun d member => blankAfter d (by simp [isAfter, member])
    · cases rest with
      | nil =>
          rw [List.nil_append] at isRest
          exact fun d member => blankAfter d (isRest ▸ List.mem_cons_of_mem c member)
      | cons d others =>
          -- The blank would be a character of the word.
          cases isRest
          rw [solid c (by simp [isWord])] at blank
          cases blank
  · exact .inl fun d member => blankBefore d (by simp [isBefore, member])

/-- Something follows the first word of a text only if there is a first word. -/
theorem firstWord_ne_nil
    {s : List Char}
    (followed : (firstWord s).2 ≠ []) :
    (firstWord s).1 ≠ [] := by
  have starts := (trimmed_trim s).starts
  unfold firstWord at followed ⊢
  cases shape : trim s with
  | nil =>
      rw [shape] at followed
      exact absurd rfl followed
  | cons c rest =>
      have solid : isBlank c = false := starts c (by rw [shape]; rfl)
      simp [solid]

/-- A text in which something follows the first word is divided behind the word. -/
theorem not_undivided_of_firstWord
    {s : List Char}
    (followed : (firstWord s).2 ≠ []) :
    ¬ Undivided s := by
  obtain ⟨before, gap, after, _, blankGap, _, split, trimmed, apart⟩ := exists_firstWord s
  intro undivided
  obtain ⟨c, others, isGap⟩ := List.exists_cons_of_ne_nil (apart followed)
  have whole : s = (before ++ (firstWord s).1) ++ c :: (others ++ (firstWord s).2 ++ after) := by
    rw [isGap] at split
    simpa using split
  rcases undivided _ c _ whole (blankGap c (by simp [isGap])) with blankWord | blankRest
  · obtain ⟨d, member⟩ := List.exists_mem_of_ne_nil _ (firstWord_ne_nil followed)
    have solid := not_isBlank_of_mem_firstWord member
    rw [blankWord d (List.mem_append_right _ member)] at solid
    cases solid
  · obtain ⟨d, more, isRest⟩ := List.exists_cons_of_ne_nil followed
    have solid := trimmed.starts d (by simp [isRest])
    rw [blankRest d (by simp [isRest])] at solid
    cases solid

/-- Nothing follows the first word of a text exactly if the text is undivided. -/
theorem firstWord_snd_eq_nil_iff {s : List Char} : (firstWord s).2 = [] ↔ Undivided s := by
  constructor
  · intro alone
    obtain ⟨before, gap, after, blankBefore, blankGap, blankAfter, split, _, _⟩ :=
      exists_firstWord s
    have blankEnd : Blank (gap ++ after) := by
      intro c member
      rcases List.mem_append.mp member with inGap | inAfter
      · exact blankGap c inGap
      · exact blankAfter c inAfter
    have shape : s = before ++ (firstWord s).1 ++ (gap ++ after) := by
      simpa [alone] using split
    rw [shape]
    exact .surrounded blankBefore (fun _ member => not_isBlank_of_mem_firstWord member) blankEnd
  · intro undivided
    by_contra followed
    exact not_undivided_of_firstWord followed undivided

/-- Nothing follows the first word of a text without blanks. -/
theorem firstWord_snd_eq_nil_of_solid
    {s : List Char}
    (solid : ∀ c ∈ s, isBlank c = false) :
    (firstWord s).2 = [] := by
  have blank : Blank [] := fun _ member => by cases member
  rw [firstWord_snd_eq_nil_iff]
  simpa using Undivided.surrounded blank solid blank

end Text

namespace Identifier

/-- What stands before the first point of a text, and what stands behind it. -/
def splitAtPoint (s : List Char) : List Char × List Char :=
  (s.takeWhile (· != '.'), (s.dropWhile (· != '.')).tail)

section Points

variable {s : List Char}

theorem not_mem_splitAtPoint : '.' ∉ (splitAtPoint s).1 := by
  intro member
  have passed := List.mem_takeWhile_imp member
  simp at passed

/-- A text with a point is divided there. -/
theorem splitAtPoint_eq (pointed : '.' ∈ s) :
    s = (splitAtPoint s).1 ++ '.' :: (splitAtPoint s).2 := by
  have stops := List.head?_dropWhile_not (· != '.') s
  have whole : (splitAtPoint s).1 ++ s.dropWhile (· != '.') = s :=
    List.takeWhile_append_dropWhile
  cases shape : s.dropWhile (· != '.') with
  | nil =>
      have pointless := List.dropWhile_eq_nil_iff.mp shape '.' pointed
      simp at pointless
  | cons c rest =>
      have isPoint : c = '.' := by simpa [shape] using stops
      have isRest : (splitAtPoint s).2 = rest := by simp [splitAtPoint, shape]
      rw [isRest, ← isPoint, ← shape, whole]

/-- Both parts of a text are shorter than the text that is divided at a point. -/
theorem length_splitAtPoint (pointed : '.' ∈ s) :
    (splitAtPoint s).1.length + (splitAtPoint s).2.length + 1 = s.length := by
  have lengths := congrArg List.length (splitAtPoint_eq pointed)
  simp only [List.length_append, List.length_cons] at lengths
  omega

/-- The first word is shorter than a text in which something follows it. -/
theorem length_firstWord_lt (affixed : (Text.firstWord s).2 ≠ []) :
    (Text.firstWord s).1.length < s.length := by
  obtain ⟨before, gap, after, _, _, _, split, _, apart⟩ := Text.exists_firstWord s
  have gapped := List.length_pos_iff.mpr (apart affixed)
  have lengths := congrArg List.length split
  simp only [List.length_append] at lengths
  omega

end Points

/-- Quote a reference, and the parts of it as references of their own. -/
def quoteRecursively
    (delimiter : List Char)
    (s : List Char) :
    Except Error (List Char) :=
  if s.isEmpty then
    .error (.identifier (.notText (.text "")))
  else if isPlain s then
    .ok (wrapChars delimiter s)
  else if s == ['*'] then
    .ok s
  else if _ : (Text.firstWord s).2 ≠ [] then
    if isSuffix (Text.firstWord s).2 then do
      let name ← quoteRecursively delimiter (Text.firstWord s).1
      return name ++ ' ' :: (Text.firstWord s).2
    else
      .error (.identifier (.suffix (String.ofList s)))
  else if _ : '.' ∈ s then do
    let qualifier ← quoteRecursively delimiter (splitAtPoint s).1
    let rest ← quoteRecursively delimiter (splitAtPoint s).2
    return qualifier ++ '.' :: rest
  else
    .error (.identifier (.malformed (String.ofList s)))
termination_by s.length
decreasing_by
  · exact length_firstWord_lt ‹_›
  · have lengths := length_splitAtPoint ‹_›
    omega
  · have lengths := length_splitAtPoint ‹_›
    omega

section Paths

variable (delimiter : List Char)

/-- A path is quoted up to its first point, and then from there on. -/
theorem quotePath_append_point
    {qualifier : List Char}
    (pointless : '.' ∉ qualifier)
    (rest : List Char) :
    quotePath delimiter (qualifier ++ '.' :: rest) = do
      let first ← quotePath delimiter qualifier
      let others ← quotePath delimiter rest
      return first ++ '.' :: others := by
  rw [quotePath_of_not_mem delimiter pointless, quotePath, quotePath,
    segments_append_point pointless, List.mapM_cons]
  cases quoteSegment delimiter qualifier with
  | error error =>
      rfl
  | ok first =>
      cases quoted : (segments rest).mapM (quoteSegment delimiter) with
      | error error =>
          rfl
      | ok others =>
          have nonempty : others ≠ [] := by
            rintro rfl
            have pieces := Success.mapM_eq_ok_iff.mp quoted
            exact segments_ne_nil rest (List.forall₂_nil_right_iff.mp pieces)
          obtain ⟨next, more, rfl⟩ := List.exists_cons_of_ne_nil nonempty
          change Except.ok (['.'].intercalate (first :: next :: more)) = _
          rw [List.intercalate_cons_cons]
          simp [pure, Except.pure, bind, Except.bind]

/-- A text with a suffix is quoted as a path up to the suffix, which is checked before. -/
theorem quoteChars_of_affixed
    {s : List Char}
    (affixed : (Text.firstWord s).2 ≠ []) :
    quoteChars delimiter s =
      if isSuffix (Text.firstWord s).2 then do
        let name ← quotePath delimiter (Text.firstWord s).1
        return name ++ ' ' :: (Text.firstWord s).2
      else
        .error (.identifier (.suffix (String.ofList s))) := by
  rw [quoteChars]
  simp [affixed]
  rfl

end Paths

/-- Quoting by recursion comes to the same text and to the same error. -/
theorem quoteRecursively_eq_quoteChars
    (delimiter : List Char)
    (s : List Char) :
    quoteRecursively delimiter s = quoteChars delimiter s := by
  fun_induction quoteRecursively delimiter s with
  | case1 s isEmpty =>
      rw [List.isEmpty_iff.mp isEmpty]
      rfl
  | case2 s _ plain =>
      have isName := isPlain_iff.mp plain
      have alone := Text.firstWord_snd_eq_nil_of_solid fun c member =>
        not_isBlank_of_isWord (isName.words c member)
      have pointless : '.' ∉ s := fun member => absurd (isName.words '.' member) (by decide)
      rw [quoteChars_of_alone delimiter alone, quotePath_of_not_mem delimiter pointless,
        quoteSegment, if_pos plain]
  | case3 s _ _ isWildcard =>
      rw [eq_of_beq isWildcard]
      rfl
  | case4 s _ _ _ affixed allowed quotedName =>
      have alone := Text.firstWord_snd_eq_nil_of_solid fun c member =>
        Text.not_isBlank_of_mem_firstWord (s := s) (c := c) member
      rw [quoteChars_of_affixed delimiter affixed, if_pos allowed, quotedName,
        quoteChars_of_alone delimiter alone]
  | case5 s _ _ _ affixed refused =>
      rw [quoteChars_of_affixed delimiter affixed, if_neg refused]
  | case6 s _ _ _ single pointed quotedQualifier quotedRest =>
      have alone := not_not.mp single
      have undivided := Text.firstWord_snd_eq_nil_iff.mp alone
      have split := splitAtPoint_eq pointed
      have aloneQualifier : (Text.firstWord (splitAtPoint s).1).2 = [] :=
        Text.firstWord_snd_eq_nil_iff.mpr (undivided.of_infix ⟨[], _, by simpa using split.symm⟩)
      have aloneRest : (Text.firstWord (splitAtPoint s).2).2 = [] :=
        Text.firstWord_snd_eq_nil_iff.mpr
          (undivided.of_infix ⟨(splitAtPoint s).1 ++ ['.'], [], by simpa using split.symm⟩)
      rw [quotedQualifier, quotedRest, quoteChars_of_alone delimiter aloneQualifier,
        quoteChars_of_alone delimiter aloneRest, quoteChars_of_alone delimiter alone]
      conv_rhs => rw [split]
      exact (quotePath_append_point delimiter not_mem_splitAtPoint _).symm
  | case7 s nonempty unplain noWildcard single pointless =>
      rw [quoteChars_of_alone delimiter (not_not.mp single),
        quotePath_of_not_mem delimiter pointless, quoteSegment, if_neg unplain, if_neg noWildcard,
        if_neg nonempty]

/-- The recursion accepts the texts that spell a reference and no others. -/
theorem quoteRecursively_eq_ok_iff
    {delimiter s quoted : List Char} :
    quoteRecursively delimiter s = .ok quoted ↔
      ∃ pieces affix, Spells s pieces affix ∧ quoted = written delimiter pieces affix := by
  rw [quoteRecursively_eq_quoteChars]
  exact quoteChars_eq_ok_iff

/-- A reference that is given as a text is quoted by the recursion. -/
theorem quote_eq_quoteRecursively (delimiter s : String) :
    quote delimiter (.text s) =
      (quoteRecursively delimiter.toList s.toList).map String.ofList := by
  rw [quoteRecursively_eq_quoteChars]
  rfl

end Identifier

end QueryComposer
