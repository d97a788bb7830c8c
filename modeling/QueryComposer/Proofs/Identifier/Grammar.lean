import QueryComposer.Proofs.Failure
import QueryComposer.Proofs.Identifier.Placed
import QueryComposer.Proofs.Text.Spaced

namespace QueryComposer.Identifier

/-!
# The grammar of references

A reference is a path of names and wildcards, or such a path with a suffix, around and between
which blanks may stand. `Spells` says which text spells which path and suffix. `quote` accepts the
texts that spell a reference and no others, and what it writes is `written` from the path and the
suffix. For the mark of a driver the result is `Paired`: nothing but names stands between marks,
and outside of them there is nothing but what a path and a suffix are made of.
-/

/-- A name: one or more word characters. -/
structure IsName (s : List Char) : Prop where
  nonempty : s ≠ []
  words : ∀ c ∈ s, Text.isWord c = true

/-- A piece of a path: a name or the wildcard. -/
inductive IsPiece : List Char → Prop where
  | name
      {s : List Char}
      (isName : IsName s) :
      IsPiece s
  | wildcard :
      IsPiece ['*']

/-- The pieces of a path, of which there is at least one. -/
structure IsPath (pieces : List (List Char)) : Prop where
  nonempty : pieces ≠ []
  each : ∀ piece ∈ pieces, IsPiece piece

/-- What may follow a path: word characters and blanks, the first and the last one no blank. -/
structure IsAffix (s : List Char) : Prop where
  allowed : ∀ c ∈ s, Text.isWord c = true ∨ Text.isBlank c = true
  starts : ∃ c, s.head? = some c ∧ Text.isWord c = true
  ends : ∃ c, s.getLast? = some c ∧ Text.isWord c = true

/-- The text of a path: its pieces, joined by points. -/
def pathText (pieces : List (List Char)) : List Char :=
  ['.'].intercalate pieces

/-- A text spells a path, either alone or followed by a suffix behind blanks. -/
inductive Spells : List Char → List (List Char) → Option (List Char) → Prop where
  | path
      {pieces : List (List Char)}
      (isPath : IsPath pieces) :
      Spells (pathText pieces) pieces none
  | affixed
      {pieces : List (List Char)}
      {before gap affix after : List Char}
      (blankBefore : Text.Blank before)
      (isPath : IsPath pieces)
      (blankGap : Text.Blank gap)
      (apart : gap ≠ [])
      (isAffix : IsAffix affix)
      (blankAfter : Text.Blank after) :
      Spells (before ++ pathText pieces ++ gap ++ affix ++ after) pieces (some affix)

/-- A value can be quoted: it is a text that spells a path, with or without a suffix. -/
def Quotable (reference : Value) : Prop :=
  ∃ s pieces affix, reference = .text s ∧ Spells s.toList pieces affix

/-- A piece of a path as it is written: a name between delimiters, the wildcard as it is. -/
def writtenPiece
    (delimiter : List Char)
    (piece : List Char) :
    List Char :=
  if piece = ['*'] then piece else wrapChars delimiter piece

/-- A path and its suffix as they are written, with one space before the suffix. -/
def written
    (delimiter : List Char)
    (pieces : List (List Char)) :
    Option (List Char) →
    List Char
  | none => pathText (pieces.map (writtenPiece delimiter))
  | some affix => pathText (pieces.map (writtenPiece delimiter)) ++ ' ' :: affix

/-- A character that may stand outside of marks. -/
def IsPlainCharacter (c : Char) : Prop :=
  Text.isWord c = true ∨ Text.isBlank c = true ∨ c = '.' ∨ c = '*'

/-- Marks stand in pairs around names, and other characters are word characters or separators. -/
inductive Paired (mark : Char) : List Char → Prop where
  | nil :
      Paired mark []
  | plain
      {c : Char}
      {rest : List Char}
      (allowed : IsPlainCharacter c)
      (following : Paired mark rest) :
      Paired mark (c :: rest)
  | quoted
      {name rest : List Char}
      (isName : IsName name)
      (following : Paired mark rest) :
      Paired mark (mark :: name ++ mark :: rest)

/-- No word character is blank. -/
theorem not_isBlank_of_isWord
    {c : Char}
    (word : Text.isWord c = true) :
    Text.isBlank c = false := by
  rw [Bool.eq_false_iff]
  intro blank
  rw [Text.isWord_of_isBlank blank] at word
  cases word

section Pieces

theorem isPlain_iff {s : List Char} : isPlain s = true ↔ IsName s := by
  simp only [isPlain, Bool.and_eq_true, Bool.not_eq_true', List.isEmpty_eq_false_iff,
    List.all_eq_true]
  constructor
  · rintro ⟨nonempty, words⟩
    exact ⟨nonempty, words⟩
  · rintro ⟨nonempty, words⟩
    exact ⟨nonempty, words⟩

/-- The wildcard is no name. -/
theorem not_isName_wildcard : ¬ IsName ['*'] := by
  intro isName
  exact absurd (isName.words '*' List.mem_cons_self) (by decide)

/-- No character of a piece is blank or a point. -/
theorem solid_of_isPiece
    {piece : List Char}
    (isPiece : IsPiece piece) :
    ∀ c ∈ piece, Text.isBlank c = false ∧ c ≠ '.' := by
  cases isPiece with
  | name isName =>
      intro c member
      have word := isName.words c member
      refine ⟨not_isBlank_of_isWord word, ?_⟩
      rintro rfl
      exact absurd word (by decide)
  | wildcard =>
      intro c member
      rw [List.mem_singleton.mp member]
      decide

theorem nonempty_of_isPiece
    {piece : List Char}
    (isPiece : IsPiece piece) :
    piece ≠ [] := by
  cases isPiece with
  | name isName =>
      exact isName.nonempty
  | wildcard =>
      simp

/-- Exactly the pieces of paths can be quoted as such. -/
theorem quoteSegment_eq_ok_iff
    {delimiter s quoted : List Char} :
    quoteSegment delimiter s = .ok quoted ↔ IsPiece s ∧ quoted = writtenPiece delimiter s := by
  unfold quoteSegment writtenPiece
  split
  · next plain =>
      have isName := isPlain_iff.mp plain
      have noWildcard : s ≠ ['*'] := by
        rintro rfl
        exact not_isName_wildcard isName
      rw [if_neg noWildcard, Except.ok.injEq, eq_comm]
      exact ⟨fun same => ⟨.name isName, same⟩, fun accepted => accepted.2⟩
  · next notPlain =>
      split
      · next isWildcard =>
          have same := eq_of_beq isWildcard
          subst same
          rw [if_pos rfl, Except.ok.injEq, eq_comm]
          exact ⟨fun same => ⟨.wildcard, same⟩, fun accepted => accepted.2⟩
      · next noWildcard =>
          have noPiece : ¬ IsPiece s := by
            intro isPiece
            cases isPiece with
            | name isName => exact notPlain (isPlain_iff.mpr isName)
            | wildcard => exact noWildcard rfl
          constructor
          · intro accepted
            split at accepted <;> cases accepted
          · intro accepted
            exact absurd accepted.1 noPiece

end Pieces

section Paths

/-- A text without points is the first piece of a longer text, if a point follows it. -/
theorem segments_append_point
    {piece : List Char}
    (pointless : '.' ∉ piece)
    (rest : List Char) :
    segments (piece ++ '.' :: rest) = piece :: segments rest := by
  induction piece with
  | nil =>
      obtain ⟨first, others, shape⟩ := List.exists_cons_of_ne_nil (segments_ne_nil rest)
      simp [segments, shape]
  | cons c others inductionHypothesis =>
      rw [List.mem_cons, not_or] at pointless
      have different : (c == '.') = false := by
        simpa using fun same => pointless.1 same.symm
      simp [segments, inductionHypothesis pointless.2, different]

/-- The pieces of a text are those that it was joined from, if they have no points. -/
theorem segments_pathText
    {pieces : List (List Char)}
    (nonempty : pieces ≠ [])
    (pointless : ∀ piece ∈ pieces, '.' ∉ piece) :
    segments (pathText pieces) = pieces := by
  induction pieces with
  | nil =>
      exact absurd rfl nonempty
  | cons piece rest inductionHypothesis =>
      have pointlessFirst := pointless piece List.mem_cons_self
      cases rest with
      | nil =>
          simpa [pathText] using segments_of_not_mem pointlessFirst
      | cons next others =>
          have following := inductionHypothesis (by simp)
            fun other member => pointless other (List.mem_cons_of_mem _ member)
          have split : pathText (piece :: next :: others) =
              piece ++ '.' :: pathText (next :: others) := by
            simp [pathText, List.intercalate_cons_cons]
          rw [split, segments_append_point pointlessFirst, following]

theorem IsPath.segments
    {pieces : List (List Char)}
    (isPath : IsPath pieces) :
    Identifier.segments (pathText pieces) = pieces := by
  apply segments_pathText isPath.nonempty
  intro piece member isPoint
  exact (solid_of_isPiece (isPath.each piece member) '.' isPoint).2 rfl

/-- A character of a path is a point or belongs to one of the pieces. -/
theorem mem_pathText
    {pieces : List (List Char)}
    {c : Char}
    (member : c ∈ pathText pieces) :
    c = '.' ∨ ∃ piece ∈ pieces, c ∈ piece := by
  induction pieces with
  | nil =>
      simp [pathText] at member
  | cons piece rest inductionHypothesis =>
      cases rest with
      | nil =>
          exact .inr ⟨piece, List.mem_cons_self, by simpa [pathText] using member⟩
      | cons next others =>
          rw [pathText, List.intercalate_cons_cons, List.mem_append, List.mem_append] at member
          rcases member with (inFirst | isPoint) | inRest
          · exact .inr ⟨piece, List.mem_cons_self, inFirst⟩
          · exact .inl (List.mem_singleton.mp isPoint)
          · rcases inductionHypothesis inRest with isPoint | ⟨other, inOthers, inside⟩
            · exact .inl isPoint
            · exact .inr ⟨other, List.mem_cons_of_mem _ inOthers, inside⟩

/-- A path is one word. -/
theorem IsPath.word
    {pieces : List (List Char)}
    (isPath : IsPath pieces) :
    Text.Word (pathText pieces) where
  nonempty := by
    intro isNil
    have onePiece := isPath.segments
    rw [isNil] at onePiece
    have empty : [] ∈ pieces := by
      rw [← onePiece]
      exact List.mem_singleton_self []
    exact nonempty_of_isPiece (isPath.each [] empty) rfl
  solid := by
    intro c member
    rcases mem_pathText member with rfl | ⟨piece, inPieces, inside⟩
    · decide
    · exact (solid_of_isPiece (isPath.each piece inPieces) c inside).1

/-- A text can be quoted as a path exactly if its pieces are those of a path. -/
theorem quotePath_eq_ok_iff
    {delimiter s quoted : List Char} :
    quotePath delimiter s = .ok quoted ↔
      ∃ pieces, IsPath pieces ∧ s = pathText pieces ∧
        quoted = pathText (pieces.map (writtenPiece delimiter)) := by
  have each : ∀ {pieces quotedPieces : List (List Char)},
      pieces.mapM (quoteSegment delimiter) = .ok quotedPieces ↔
        (∀ piece ∈ pieces, IsPiece piece) ∧
          quotedPieces = pieces.map (writtenPiece delimiter) :=
    Success.mapM_eq_ok_iff_forall fun _ _ => quoteSegment_eq_ok_iff
  unfold quotePath
  rw [Success.bind_eq_ok_iff]
  constructor
  · rintro ⟨quotedPieces, accepted, joined⟩
    cases joined
    obtain ⟨pieces, same⟩ := each.mp accepted
    refine ⟨segments s, ⟨segments_ne_nil s, pieces⟩, (intercalate_segments s).symm, ?_⟩
    rw [same]
    rfl
  · rintro ⟨pieces, isPath, rfl, rfl⟩
    refine ⟨pieces.map (writtenPiece delimiter), ?_, rfl⟩
    rw [isPath.segments]
    exact each.mpr ⟨isPath.each, rfl⟩

end Paths

section References

/-- What is accepted after a path is a suffix, since no blanks are left around it. -/
theorem isAffix_iff {s : List Char} : IsAffix s ↔ isSuffix s = true ∧ Text.Trimmed s := by
  have allowed_iff : isSuffix s = true ↔
      s ≠ [] ∧ ∀ c ∈ s, Text.isWord c = true ∨ Text.isBlank c = true := by
    simp [isSuffix]
  rw [allowed_iff]
  constructor
  · rintro ⟨allowed, ⟨first, isFirst, wordFirst⟩, ⟨last, isLast, wordLast⟩⟩
    refine ⟨⟨?_, allowed⟩, ?_, ?_⟩
    · rintro rfl
      cases isFirst
    · intro c member
      rw [Option.mem_unique member isFirst]
      exact not_isBlank_of_isWord wordFirst
    · intro c member
      rw [Option.mem_unique member isLast]
      exact not_isBlank_of_isWord wordLast
  · rintro ⟨⟨nonempty, allowed⟩, trimmed⟩
    have word : ∀ c ∈ s, Text.isBlank c = false → Text.isWord c = true := by
      intro c member solid
      rcases allowed c member with word | blank
      · exact word
      · rw [blank] at solid
        cases solid
    have isFirst := List.head?_eq_some_head nonempty
    have isLast := List.getLast?_eq_some_getLast nonempty
    refine ⟨allowed, ⟨_, isFirst, ?_⟩, ⟨_, isLast, ?_⟩⟩
    · exact word _ (List.head_mem nonempty) (trimmed.starts _ isFirst)
    · exact word _ (List.getLast_mem nonempty) (trimmed.ends _ isLast)

/-- The characters that can be quoted are those that spell a path, with or without a suffix. -/
theorem quoteChars_eq_ok_iff
    {delimiter s quoted : List Char} :
    quoteChars delimiter s = .ok quoted ↔
      ∃ pieces affix, Spells s pieces affix ∧ quoted = written delimiter pieces affix := by
  unfold quoteChars
  constructor
  · intro accepted
    obtain ⟨before, gap, after, blankBefore, blankGap, blankAfter, split, trimmed, apart⟩ :=
      Text.exists_firstWord s
    rcases shape : Text.firstWord s with ⟨name, suffix⟩
    rw [shape] at accepted split trimmed apart
    dsimp only at accepted split trimmed apart
    split at accepted
    · obtain ⟨pieces, isPath, rfl, rfl⟩ := quotePath_eq_ok_iff.mp accepted
      exact ⟨pieces, none, .path isPath, rfl⟩
    · next nonempty =>
      split at accepted
      · next allowed =>
          obtain ⟨path, quotedPath, joined⟩ := Success.bind_eq_ok_iff.mp accepted
          cases joined
          obtain ⟨pieces, isPath, rfl, rfl⟩ := quotePath_eq_ok_iff.mp quotedPath
          refine ⟨pieces, some suffix, ?_, rfl⟩
          rw [split]
          exact .affixed blankBefore isPath blankGap (apart (by simpa using nonempty))
            (isAffix_iff.mpr ⟨allowed, trimmed⟩) blankAfter
      · cases accepted
  · rintro ⟨pieces, affix, spells, rfl⟩
    cases spells with
    | path isPath =>
        have oneWord : Text.firstWord (pathText pieces) = (pathText pieces, []) := by
          simpa [Text.trimStart] using
            Text.firstWord_append isPath.word.solid isPath.word.nonempty
              (show ∀ c ∈ [].head?, Text.isBlank c = true by simp) (by simp)
        rw [oneWord]
        exact quotePath_eq_ok_iff.mpr ⟨pieces, isPath, rfl, rfl⟩
    | @affixed _ before gap affix after blankBefore isPath blankGap apart isAffix blankAfter =>
        obtain ⟨allowed, trimmed⟩ := isAffix_iff.mp isAffix
        have nonempty : affix ≠ [] := by
          rintro rfl
          cases allowed
        rw [Text.firstWord_surrounded blankBefore isPath.word blankGap apart nonempty trimmed
          blankAfter]
        dsimp only
        rw [if_neg (by simpa using nonempty), if_pos allowed,
          quotePath_eq_ok_iff.mpr ⟨pieces, isPath, rfl, rfl⟩]
        rfl

/-- The values that can be quoted are the texts that spell a path, with or without a suffix. -/
theorem quote_eq_ok_iff
    {delimiter : String}
    {reference : Value}
    {quoted : String} :
    quote delimiter reference = .ok quoted ↔
      ∃ s pieces affix,
        reference = .text s ∧ Spells s.toList pieces affix ∧
          quoted.toList = written delimiter.toList pieces affix := by
  cases reference with
  | text s =>
      unfold quote quoteText
      simp only [Success.map_eq_ok_iff, quoteChars_eq_ok_iff]
      constructor
      · rintro ⟨_, ⟨pieces, affix, spells, rfl⟩, rfl⟩
        exact ⟨s, pieces, affix, rfl, spells, String.toList_ofList⟩
      · rintro ⟨_, pieces, affix, ⟨⟩, spells, same⟩
        exact ⟨_, ⟨pieces, affix, spells, rfl⟩, by rw [← same, String.ofList_toList]⟩
  | _ =>
      simp [quote]

/-- A value can be quoted for any delimiter exactly if it spells a reference. -/
theorem exists_quote_iff
    (delimiter : String)
    (reference : Value) :
    (∃ quoted, quote delimiter reference = .ok quoted) ↔ Quotable reference := by
  simp only [quote_eq_ok_iff]
  constructor
  · rintro ⟨_, s, pieces, affix, isText, spells, _⟩
    exact ⟨s, pieces, affix, isText, spells⟩
  · rintro ⟨s, pieces, affix, isText, spells⟩
    exact ⟨String.ofList (written delimiter.toList pieces affix), s, pieces, affix, isText, spells,
      String.toList_ofList⟩

end References

section Refusals

variable {allowed : Error → Prop} (permitted : ∀ cause, allowed (.identifier cause))

include permitted

theorem quotePath_failsWith
    (delimiter : List Char)
    (s : List Char) :
    FailsWith allowed (quotePath delimiter s) := by
  refine FailsWith.bind (.mapM fun piece _ => ?_) fun _ _ => .ok _
  unfold quoteSegment
  split
  · exact .ok _
  · split
    · exact .ok _
    · split
      · exact .error (permitted _)
      · exact .error (permitted _)

/-- What cannot be quoted is refused as a reference. -/
theorem quote_failsWith
    (delimiter : String)
    (reference : Value) :
    FailsWith allowed (quote delimiter reference) := by
  cases reference with
  | text s =>
      refine FailsWith.map ?_ _
      unfold quoteChars
      dsimp only
      split
      · exact quotePath_failsWith permitted delimiter.toList s.toList
      · split
        · exact (quotePath_failsWith permitted delimiter.toList _).bind fun _ _ => .ok _
        · exact .error (permitted _)
  | _ =>
      exact .error (permitted _)

end Refusals

section Output

/-- A name in which the delimiter does not occur stays as it is between delimiters. -/
theorem wrapChars_of_not_infix
    {delimiter name : List Char}
    (absent : delimiter = [] ∨ ¬ delimiter <:+: name) :
    wrapChars delimiter name = delimiter ++ name ++ delimiter := by
  suffices unescaped : escapeFrom delimiter 0 name = name by
    rw [wrapChars, unescaped]
  induction name with
  | nil =>
      rfl
  | cons c rest inductionHypothesis =>
      have following : escapeFrom delimiter 0 rest = rest := by
        apply inductionHypothesis
        apply absent.imp_right
        intro absent inRest
        exact absent (inRest.trans (List.suffix_cons c rest).isInfix)
      have noStart : (!delimiter.isEmpty && delimiter.isPrefixOf (c :: rest)) = false := by
        rcases absent with rfl | absent
        · rfl
        · rw [Bool.and_eq_false_iff]
          right
          rw [Bool.eq_false_iff, Ne, List.isPrefixOf_iff_prefix]
          exact fun starts => absent starts.isInfix
      rw [escapeFrom, noStart, following]
      rfl

/-- A character of a name between delimiters belongs to the name or to the delimiter. -/
theorem mem_of_mem_escapeFrom
    {delimiter : List Char}
    {pending : Nat}
    {name : List Char}
    {c : Char}
    (member : c ∈ escapeFrom delimiter pending name) :
    c ∈ delimiter ∨ c ∈ name := by
  fun_induction escapeFrom delimiter pending name with
  | case1 => cases member
  | case2 first rest left inductionHypothesis =>
      rcases List.mem_cons.mp member with isFirst | inRest
      · exact .inr (isFirst ▸ List.mem_cons_self)
      · exact (inductionHypothesis inRest).imp_right (List.mem_cons_of_mem first)
  | case3 first rest starts inductionHypothesis =>
      rcases List.mem_append.mp member with inDelimiter | inRest
      · exact .inl inDelimiter
      · rcases List.mem_cons.mp inRest with isFirst | inRest
        · exact .inr (isFirst ▸ List.mem_cons_self)
        · exact (inductionHypothesis inRest).imp_right (List.mem_cons_of_mem first)
  | case4 first rest starts inductionHypothesis =>
      rcases List.mem_cons.mp member with isFirst | inRest
      · exact .inr (isFirst ▸ List.mem_cons_self)
      · exact (inductionHypothesis inRest).imp_right (List.mem_cons_of_mem first)

/-- A character of a written piece is a plain one or belongs to the delimiter. -/
theorem mem_writtenPiece
    {delimiter piece : List Char}
    (isPiece : IsPiece piece)
    {c : Char}
    (member : c ∈ writtenPiece delimiter piece) :
    IsPlainCharacter c ∨ c ∈ delimiter := by
  cases isPiece with
  | name isName =>
      have wrapped : c ∈ delimiter ++ escapeFrom delimiter 0 piece ++ delimiter := by
        rw [writtenPiece, if_neg] at member
        · exact member
        · rintro rfl
          exact not_isName_wildcard isName
      rcases List.mem_append.mp wrapped with opening | closing
      · rcases List.mem_append.mp opening with inDelimiter | inside
        · exact .inr inDelimiter
        · rcases mem_of_mem_escapeFrom inside with inDelimiter | inName
          · exact .inr inDelimiter
          · exact .inl (.inl (isName.words c inName))
      · exact .inr closing
  | wildcard =>
      rw [writtenPiece, if_pos rfl] at member
      rw [List.mem_singleton.mp member]
      exact .inl (.inr (.inr (.inr rfl)))

/-- Whatever is quoted consists of plain characters and of those of the delimiter. -/
theorem mem_of_mem_quoted
    {delimiter : String}
    {reference : Value}
    {quoted : String}
    (accepted : quote delimiter reference = .ok quoted)
    {c : Char}
    (member : c ∈ quoted.toList) :
    IsPlainCharacter c ∨ c ∈ delimiter.toList := by
  obtain ⟨s, pieces, affix, _, spells, same⟩ := quote_eq_ok_iff.mp accepted
  have inPath : IsPath pieces → c ∈ pathText (pieces.map (writtenPiece delimiter.toList)) →
      IsPlainCharacter c ∨ c ∈ delimiter.toList := by
    intro isPath inside
    rcases mem_pathText inside with isPoint | ⟨_, inPieces, inPiece⟩
    · exact .inl (.inr (.inr (.inl isPoint)))
    · obtain ⟨piece, inPath, rfl⟩ := List.mem_map.mp inPieces
      exact mem_writtenPiece (isPath.each piece inPath) inPiece
  rw [same] at member
  generalize s.toList = characters at spells
  cases spells with
  | path isPath =>
      exact inPath isPath member
  | affixed _ isPath _ _ isAffix _ =>
      rcases List.mem_append.mp member with inside | inAffix
      · exact inPath isPath inside
      · rcases List.mem_cons.mp inAffix with isSpace | inAffix
        · rw [isSpace]
          exact .inl (.inr (.inl (by decide)))
        · exact .inl ((isAffix.allowed c inAffix).imp_right .inl)

namespace Paired

variable {mark : Char} {s t : List Char}

theorem ofPlain
    (plain : ∀ c ∈ s, IsPlainCharacter c) :
    Paired mark s := by
  induction s with
  | nil =>
      exact .nil
  | cons c rest inductionHypothesis =>
      have following := inductionHypothesis fun d member => plain d (List.mem_cons_of_mem c member)
      exact .plain (plain c List.mem_cons_self) following

theorem append
    (opening : Paired mark s)
    (closing : Paired mark t) :
    Paired mark (s ++ t) := by
  induction opening with
  | nil =>
      exact closing
  | plain allowed _ inductionHypothesis =>
      exact .plain allowed inductionHypothesis
  | @quoted name rest isName _ inductionHypothesis =>
      have both : Paired mark (mark :: name ++ mark :: (rest ++ t)) :=
        .quoted isName inductionHypothesis
      simpa [List.append_assoc] using both

/-- A piece of a path is written with its marks in pairs. -/
theorem piece
    (isOpen : Placeholder.isQuote mark = true)
    {piece : List Char}
    (isPiece : IsPiece piece) :
    Paired mark (writtenPiece [mark] piece) := by
  cases isPiece with
  | name isName =>
      have absent : mark ∉ piece := by
        intro member
        have plain := not_isSpecial_of_isWord (isName.words mark member)
        rw [(Placeholder.ne_of_not_isSpecial plain).1] at isOpen
        cases isOpen
      have noWildcard : piece ≠ ['*'] := by
        rintro rfl
        exact not_isName_wildcard isName
      rw [writtenPiece, if_neg noWildcard, wrapChars, escapeFrom_of_not_mem absent]
      exact .quoted isName .nil
  | wildcard =>
      exact .plain (.inr (.inr (.inr rfl))) .nil

theorem path
    (isOpen : Placeholder.isQuote mark = true)
    {pieces : List (List Char)}
    (each : ∀ piece ∈ pieces, IsPiece piece) :
    Paired mark (pathText (pieces.map (writtenPiece [mark]))) := by
  induction pieces with
  | nil =>
      exact .nil
  | cons first rest inductionHypothesis =>
      have following := inductionHypothesis
        fun other member => each other (List.mem_cons_of_mem _ member)
      have opening := piece isOpen (each first List.mem_cons_self)
      cases rest with
      | nil =>
          simpa [pathText] using opening
      | cons next others =>
          have point : Paired mark ['.'] := .plain (.inr (.inr (.inl rfl))) .nil
          have joined := opening.append (point.append following)
          simpa [pathText, List.intercalate_cons_cons] using joined

end Paired

/-- Whatever is quoted for a driver has its marks in pairs around names. -/
theorem paired_of_quote
    (mark : QuoteMark)
    {reference : Value}
    {quoted : String}
    (accepted : quote mark.text reference = .ok quoted) :
    ∃ q, mark.text.toList = [q] ∧ Paired q quoted.toList := by
  obtain ⟨q, delimiter, isOpen⟩ := quoteMark_text mark
  obtain ⟨s, pieces, affix, _, spells, same⟩ := quote_eq_ok_iff.mp accepted
  refine ⟨q, delimiter, ?_⟩
  rw [same, delimiter]
  generalize s.toList = characters at spells
  cases spells with
  | path isPath =>
      exact .path isOpen isPath.each
  | affixed _ isPath _ _ isAffix _ =>
      apply (Paired.path isOpen isPath.each).append
      refine .plain (.inr (.inl (by decide))) (.ofPlain fun c member => ?_)
      exact (isAffix.allowed c member).imp_right .inl

end Output

/--
A value is quoted exactly if it is a text that spells a path, alone or with a suffix, and it is
written as its path with every name between delimiters, followed by a space and the suffix; every
other value is refused as a reference. A name that does not have the delimiter in it stays as it is
between the two. For a driver the marks stand in pairs around names, and outside of them there are
word characters, blanks, points and wildcards only.
-/
theorem quote_iff_spells
    (delimiter : String)
    (reference : Value) :
    (∀ quoted,
      quote delimiter reference = .ok quoted ↔
        ∃ s pieces affix,
          reference = .text s ∧ Spells s.toList pieces affix ∧
            quoted.toList = written delimiter.toList pieces affix) ∧
      ((∃ quoted, quote delimiter reference = .ok quoted) ↔ Quotable reference) ∧
      (¬ Quotable reference → ∃ cause, quote delimiter reference = .error (.identifier cause)) ∧
      (∀ name,
        delimiter = "" ∨ ¬ delimiter.toList <:+: name →
        wrapChars delimiter.toList name = delimiter.toList ++ name ++ delimiter.toList) ∧
      ∀ (mark : QuoteMark) (quoted : String),
        quote mark.text reference = .ok quoted →
        ∃ q, mark.text.toList = [q] ∧ Paired q quoted.toList := by
  refine ⟨fun _ => quote_eq_ok_iff, exists_quote_iff delimiter reference, ?_, ?_,
    fun mark _ => paired_of_quote mark⟩
  · intro unquotable
    cases outcome : quote delimiter reference with
    | ok quoted =>
        exact absurd ((exists_quote_iff delimiter reference).mp ⟨quoted, outcome⟩) unquotable
    | error error =>
        have refused : FailsWith (fun error => ∃ cause, error = .identifier cause)
            (quote delimiter reference) :=
          quote_failsWith (fun cause => ⟨cause, rfl⟩) delimiter reference
        obtain ⟨cause, rfl⟩ := refused error outcome
        exact ⟨cause, rfl⟩
  · intro name absent
    apply wrapChars_of_not_infix
    exact absent.imp_left fun empty => by rw [empty]; rfl

/-- A path with a suffix is quoted with its marks in pairs; a blank after a point is refused. -/
theorem quote_iff_spells_affixed :
    quote "`" (.text " g.*\tas gb ") = .ok "`g`.* as gb" ∧
      (∃ q, QuoteMark.backtick.text.toList = [q] ∧ Paired q "`g`.* as gb".toList) ∧
      ¬ Quotable (.text "g. x") ∧
      ∃ cause, quote "`" (.text "g. x") = .error (.identifier cause) := by
  have written : quote "`" (.text " g.*\tas gb ") = .ok "`g`.* as gb" := by
    rfl
  obtain ⟨_, _, _, _, pairs⟩ := quote_iff_spells "`" (.text " g.*\tas gb ")
  obtain ⟨_, accepted, refuses, _⟩ := quote_iff_spells "`" (.text "g. x")
  have unquotable : ¬ Quotable (.text "g. x") := by
    intro quotable
    obtain ⟨_, quoted⟩ := accepted.mpr quotable
    cases quoted
  exact ⟨written, pairs .backtick _ written, unquotable, refuses unquotable⟩

end QueryComposer.Identifier
