import Mathlib.Data.List.Basic
import Mathlib.Data.List.DropRight
import Mathlib.Data.List.TakeWhile
import QueryComposer.Filter.Key
import QueryComposer.Identifier
import QueryComposer.Proofs.Success

namespace QueryComposer

/-!
# Bare columns

A column without blanks is a key of its own. With an operator after a blank it is split into the
two again; and whatever column a key has is bare, if it can be quoted at all.
-/

namespace Text

section Boundary

variable
  {p : Char → Bool}
  {within rest : List Char}
  (inside : ∀ c ∈ within, p c = true)
  (outside : ∀ c ∈ rest.head?, p c = false)

include outside

/-- Nothing is dropped from a text whose first character lacks the property. -/
theorem dropWhile_of_head : rest.dropWhile p = rest := by
  cases rest with
  | nil =>
      rfl
  | cons c others =>
      simp [outside c rfl]

include inside

theorem dropWhile_append_of_head : (within ++ rest).dropWhile p = rest := by
  rw [List.dropWhile_append_of_pos inside, dropWhile_of_head outside]

theorem takeWhile_append_of_head : (within ++ rest).takeWhile p = within := by
  have whole := List.takeWhile_append_dropWhile (p := p) (l := within ++ rest)
  rw [dropWhile_append_of_head inside outside] at whole
  exact List.append_cancel_right whole

end Boundary

/-- A text that neither starts nor ends with a blank has none to lose. -/
theorem trim_of_ends
    {s : List Char}
    (starts : ∀ c ∈ s.head?, isBlank c = false)
    (ends : ∀ c ∈ s.getLast?, isBlank c = false) :
    trim s = s := by
  rw [← List.head?_reverse] at ends
  unfold trim trimStart trimEnd
  rw [dropWhile_of_head starts, dropWhile_of_head ends, List.reverse_reverse]

/-- The first word of a text ends where the first blank stands. -/
theorem firstWord_append
    {word rest : List Char}
    (solid : ∀ c ∈ word, isBlank c = false)
    (nonempty : word ≠ [])
    (starts : ∀ c ∈ rest.head?, isBlank c = true)
    (ends : ∀ c ∈ rest.getLast?, isBlank c = false) :
    firstWord (word ++ rest) = (word, trimStart rest) := by
  have solidly : ∀ c ∈ word, (!isBlank c) = true := by
    intro c member
    rw [solid c member]
    rfl
  have trimmed : trim (word ++ rest) = word ++ rest := by
    apply trim_of_ends
    · intro c member
      rw [List.head?_append_of_ne_nil word nonempty] at member
      exact solid c (List.mem_of_mem_head? member)
    · intro c member
      cases rest with
      | nil =>
          rw [List.append_nil] at member
          exact solid c (List.mem_of_getLast? member)
      | cons next others =>
          rw [List.getLast?_append_cons] at member
          exact ends c member
  have boundary : ∀ c ∈ rest.head?, (!isBlank c) = false := by
    intro c isFirst
    rw [starts c isFirst]
    rfl
  unfold firstWord
  dsimp only
  rw [trimmed, takeWhile_append_of_head solidly boundary,
    dropWhile_append_of_head solidly boundary]

/-- A text without a first word is blank. -/
theorem isBlank_of_firstWord_eq_nil
    {s : List Char}
    (wordless : (firstWord s).1 = []) :
    ∀ c ∈ s, isBlank c = true := by
  cases shape : s.dropWhile isBlank with
  | nil =>
      exact List.dropWhile_eq_nil_iff.mp shape
  | cons first rest =>
      have solid : isBlank first = false := by
        have head := List.head_dropWhile_not isBlank (l := s) (by simp [shape])
        simpa [shape] using head
      obtain ⟨cut, split⟩ : trim s <+: first :: rest := by
        unfold trim trimStart
        rw [shape]
        exact List.rdropWhile_prefix isBlank _
      have wordless : (trim s).takeWhile (!isBlank ·) = [] := wordless
      cases trimmed : trim s with
      | nil =>
          have cutAll : List.rdropWhile isBlank (first :: rest) = [] := by
            rw [← shape]
            exact trimmed
          rw [List.rdropWhile_eq_nil_iff.mp cutAll first List.mem_cons_self] at solid
          cases solid
      | cons next others =>
          rw [trimmed, List.cons_append, List.cons.injEq] at split
          rw [trimmed, List.takeWhile_cons, split.1, solid] at wordless
          cases wordless

/-- The codes of all blanks. -/
def blankCodes : List Nat :=
  [0x9, 0xA, 0xB, 0xC, 0xD, 0x1C, 0x1D, 0x1E, 0x1F, 0x20, 0x85, 0xA0, 0x1680, 0x2000, 0x2001,
    0x2002, 0x2003, 0x2004, 0x2005, 0x2006, 0x2007, 0x2008, 0x2009, 0x200A, 0x2028, 0x2029,
    0x202F, 0x205F, 0x3000]

theorem toNat_mem_blankCodes
    {c : Char}
    (blank : isBlank c = true) :
    c.toNat ∈ blankCodes := by
  simp only [isBlank, Bool.or_eq_true, Bool.and_eq_true, decide_eq_true_eq, beq_iff_eq] at blank
  simp only [blankCodes, List.mem_cons, List.not_mem_nil, or_false]
  omega

/-- No blank is a word character. -/
theorem isWord_of_isBlank
    {c : Char}
    (blank : isBlank c = true) :
    isWord c = false := by
  have all : ∀ n ∈ blankCodes, isWord (Char.ofNat n) = false := by
    decide +kernel
  rw [← Char.ofNat_toNat c]
  exact all _ (toNat_mem_blankCodes blank)

end Text

namespace Filter

/-- A column that is one word. -/
structure Bare (column : String) : Prop where
  nonempty : column.toList ≠ []
  solid : ∀ c ∈ column.toList, Text.isBlank c = false

/-- A key that starts with a word is split after it. -/
theorem splitKeyChars_of_firstWord
    {operator key word rest : List Char}
    (split : Text.firstWord key = (word, rest))
    (nonempty : word ≠ []) :
    splitKeyChars operator key =
      (word, if rest.isEmpty then operator else Text.upper (Text.collapse rest)) := by
  unfold splitKeyChars
  rw [split]
  dsimp only
  rw [if_neg (by simpa using nonempty)]
  split <;> rfl

/-- A bare column is a key for the usual operator. -/
theorem splitKey_of_bare
    {column : String}
    (bare : Bare column) :
    splitKey column = (column, defaultOperator) := by
  have word : Text.firstWord (column.toList ++ []) = (column.toList, []) :=
    Text.firstWord_append bare.solid bare.nonempty (by simp) (by simp)
  rw [List.append_nil] at word
  unfold splitKey splitKeyWith
  rw [splitKeyChars_of_firstWord word bare.nonempty]
  simp

/-- A bare column with the usual operator after a space is split into the two. -/
theorem splitKey_append_operator
    {column : String}
    (bare : Bare column) :
    splitKey (column ++ " " ++ defaultOperator) = (column, defaultOperator) := by
  have starts : ∀ c ∈ [' ', '='].head?, Text.isBlank c = true := by
    intro c isFirst
    cases isFirst
    rfl
  have ends : ∀ c ∈ [' ', '='].getLast?, Text.isBlank c = false := by
    intro c isLast
    cases isLast
    rfl
  have word : Text.firstWord (column.toList ++ [' ', '=']) = (column.toList, ['=']) :=
    Text.firstWord_append bare.solid bare.nonempty starts ends
  have written : (column ++ " " ++ defaultOperator).toList = column.toList ++ [' ', '='] := by
    rw [String.toList_append, String.toList_append, List.append_assoc]
    rfl
  have upper : Text.upper (Text.collapse ['=']) = defaultOperator.toList := by
    decide +kernel
  unfold splitKey splitKeyWith
  rw [written, splitKeyChars_of_firstWord word bare.nonempty, if_neg (by decide), upper]
  simp

/-- The column of a key is bare, unless the key is blank. -/
theorem bare_columnOf
    (key : String) :
    Bare (columnOf key) ∨ columnOf key = key ∧ ∀ c ∈ key.toList, Text.isBlank c = true := by
  unfold columnOf splitKey splitKeyWith splitKeyChars
  dsimp only
  split
  · next wordless =>
      right
      refine ⟨by simp, ?_⟩
      exact Text.isBlank_of_firstWord_eq_nil (List.isEmpty_iff.mp wordless)
  · next worded =>
      left
      rw [List.isEmpty_iff] at worded
      split
      all_goals exact ⟨by simpa using worded, by
        intro c member
        exact Text.not_isBlank_of_mem_firstWord (by simpa using member)⟩

end Filter

namespace Identifier

/-- A text without points is one piece. -/
theorem segments_of_not_mem
    {s : List Char}
    (pointless : '.' ∉ s) :
    segments s = [s] := by
  induction s with
  | nil =>
      rfl
  | cons c rest inductionHypothesis =>
      rw [List.mem_cons, not_or] at pointless
      have different : (c == '.') = false := by
        simpa using fun same => pointless.1 same.symm
      simp [segments, inductionHypothesis pointless.2, different]

/-- A text without points is quoted as the only piece of a path. -/
theorem quotePath_of_not_mem
    (delimiter : List Char)
    {s : List Char}
    (pointless : '.' ∉ s) :
    quotePath delimiter s = quoteSegment delimiter s := by
  rw [quotePath, segments_of_not_mem pointless, List.mapM_cons, List.mapM_nil]
  cases quoteSegment delimiter s with
  | error error =>
      rfl
  | ok quoted =>
      exact congrArg Except.ok List.intercalate_singleton

/-- A text without a suffix is quoted as a path. -/
theorem quoteChars_of_alone
    (delimiter : List Char)
    {s : List Char}
    (alone : (Text.firstWord s).2 = []) :
    quoteChars delimiter s = quotePath delimiter s := by
  rw [quoteChars]
  simp [alone]

/-- A blank text cannot be quoted. -/
theorem quote_ne_ok_of_blank
    (delimiter : String)
    {s : String}
    (blank : ∀ c ∈ s.toList, Text.isBlank c = true)
    (quoted : String) :
    quote delimiter (.text s) ≠ .ok quoted := by
  have wordless : Text.firstWord s.toList = ([], []) := by
    unfold Text.firstWord Text.trim Text.trimStart
    rw [List.dropWhile_eq_nil_iff.mpr blank]
    rfl
  have pointless : '.' ∉ s.toList := by
    intro member
    exact absurd (blank _ member) (by decide)
  have unplain : isPlain s.toList = false := by
    cases shape : s.toList with
    | nil =>
        rfl
    | cons c rest =>
        have word := Text.isWord_of_isBlank (blank c (by simp [shape]))
        simp [isPlain, word]
  intro accepted
  obtain ⟨chars, accepted, _⟩ := Success.map_eq_ok_iff.mp accepted
  rw [quoteChars_of_alone _ (by rw [wordless]), quotePath_of_not_mem _ pointless, quoteSegment,
    unplain, if_neg Bool.false_ne_true] at accepted
  split at accepted
  · next isWildcard =>
      have member : '*' ∈ s.toList := by
        rw [eq_of_beq isWildcard]
        exact List.mem_singleton_self _
      exact absurd (blank _ member) (by decide)
  · split at accepted <;> cases accepted

end Identifier

namespace Filter

/-- The column of a key is bare if it can be quoted. -/
theorem bare_of_quote
    {delimiter key quoted : String}
    (accepted : Identifier.quote delimiter (.text (columnOf key)) = .ok quoted) :
    Bare (columnOf key) := by
  rcases bare_columnOf key with bare | ⟨same, blank⟩
  · exact bare
  · rw [same] at accepted
    exact absurd accepted (Identifier.quote_ne_ok_of_blank delimiter blank quoted)

end Filter

end QueryComposer
