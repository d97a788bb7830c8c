import QueryComposer.Proofs.Text.Spaced
import QueryComposer.Table.Join

namespace QueryComposer

/-!
# How keys and join keywords are spelled

A key spells a column and the words of an operator behind it; a token spells the words of a join
keyword. Case does not count in either, and blanks only separate words.
-/

namespace Filter

open Text (Blank Spaced Word)

/-- A key spells a column, alone or with an operator behind it. -/
inductive KeySpells (key column : String) : String → Prop where
  | bare
      {before after : List Char}
      (blankBefore : Blank before)
      (isWord : Word column.toList)
      (blankAfter : Blank after)
      (shape : key.toList = before ++ column.toList ++ after) :
      KeySpells key column defaultOperator
  | decorated
      {before gap spaced after : List Char}
      {words : List (List Char)}
      {operator : String}
      (blankBefore : Blank before)
      (isWord : Word column.toList)
      (blankGap : Blank gap)
      (apart : gap ≠ [])
      (operated : Spaced words spaced)
      (blankAfter : Blank after)
      (shape : key.toList = before ++ column.toList ++ gap ++ spaced ++ after)
      (spelled : Text.capitalWords words = operator.toList) :
      KeySpells key column operator

variable {key column operator : String}

/-- A key is split into the column and the operator that it spells. -/
theorem KeySpells.splitKey_eq (spells : KeySpells key column operator) :
    splitKey key = (column, operator) := by
  unfold splitKey splitKeyWith
  cases spells with
  | bare blankBefore isWord blankAfter shape =>
      have found := Text.firstWord_alone blankBefore isWord blankAfter
      rw [← shape] at found
      rw [splitKeyChars_of_firstWord found isWord.nonempty]
      simp
  | decorated blankBefore isWord blankGap apart operated blankAfter shape spelled =>
      have found := Text.firstWord_surrounded blankBefore isWord blankGap apart
        operated.nonempty operated.trimmed blankAfter
      rw [← shape] at found
      rw [splitKeyChars_of_firstWord found isWord.nonempty,
        if_neg (by simpa using operated.nonempty), operated.collapse_eq]
      dsimp only
      rw [Text.capitalWords] at spelled
      rw [spelled]
      simp

/-- A key whose column is a word spells what it is split into. -/
theorem keySpells_of_splitKey
    (isWord : Word column.toList)
    (split : splitKey key = (column, operator)) :
    KeySpells key column operator := by
  obtain ⟨before, gap, after, blankBefore, blankGap, blankAfter, shape, trimmed, apart⟩ :=
    Text.exists_firstWord key.toList
  unfold splitKey splitKeyWith at split
  generalize found : Text.firstWord key.toList = parts at shape trimmed apart
  rcases parts with ⟨word, rest⟩
  dsimp only at shape trimmed apart
  have nonempty : word ≠ [] := by
    rintro rfl
    have blank : Blank key.toList := Text.isBlank_of_firstWord_eq_nil (by rw [found])
    have wordless : splitKeyChars defaultOperator.toList key.toList =
        (key.toList, defaultOperator.toList) := by
      unfold splitKeyChars
      rw [found]
      rfl
    rw [wordless, Prod.mk.injEq, String.ofList_toList] at split
    obtain ⟨rfl, _⟩ := split
    obtain ⟨c, member⟩ := List.exists_mem_of_ne_nil _ isWord.nonempty
    have solid := isWord.solid c member
    rw [blank c member] at solid
    cases solid
  rw [splitKeyChars_of_firstWord found nonempty, Prod.mk.injEq] at split
  obtain ⟨rfl, rfl⟩ := split
  rw [String.toList_ofList] at isWord
  by_cases ended : rest = []
  · subst ended
    have alone : key.toList = before ++ word ++ (gap ++ after) := by
      simpa using shape
    have blankBehind : Blank (gap ++ after) := by
      intro c member
      rcases List.mem_append.mp member with inGap | inAfter
      · exact blankGap c inGap
      · exact blankAfter c inAfter
    have bare : KeySpells key (String.ofList word) defaultOperator :=
      .bare blankBefore (by rwa [String.toList_ofList]) blankBehind
        (by rwa [String.toList_ofList])
    simpa using bare
  · obtain ⟨words, operated⟩ := Text.exists_spaced trimmed ended
    apply KeySpells.decorated blankBefore (by rwa [String.toList_ofList]) blankGap (apart ended)
      operated blankAfter (by rwa [String.toList_ofList])
    rw [String.toList_ofList, if_neg (by simpa using ended), operated.collapse_eq]
    rfl

end Filter

namespace Table.Join

open Text (Blank Spaced)

/-- A token spells a join: the words of its keyword, in any case. -/
def Spells
    (token : String)
    (join : Join) : Prop :=
  ∃ before words spaced after,
    Blank before ∧ Spaced words spaced ∧ Blank after ∧
      token.toList = before ++ spaced ++ after ∧
      Text.capitalWords words = join.keyword.toList

/-- A token names the join that it spells. -/
theorem ofToken?_eq_some_iff
    {token : String}
    {join : Join} :
    ofToken? token = some join ↔ Spells token join := by
  constructor
  · intro named
    have canonical : join.keyword.toList = canonicalToken token.toList := by
      simpa using List.find?_some named
    obtain ⟨before, after, blankBefore, blankAfter, shape⟩ := Text.exists_trim token.toList
    have nonempty : Text.trim token.toList ≠ [] := by
      intro isNil
      rw [canonicalToken, isNil] at canonical
      cases join <;> cases canonical
    obtain ⟨words, spaced⟩ := Text.exists_spaced (Text.trimmed_trim _) nonempty
    refine ⟨before, words, _, after, blankBefore, spaced, blankAfter, shape, ?_⟩
    rw [canonical, canonicalToken, spaced.collapse_eq]
    rfl
  · rintro ⟨before, words, spaced, after, blankBefore, isSpaced, blankAfter, shape, spelled⟩
    have canonical : canonicalToken token.toList = canonicalToken join.keyword.toList := by
      have named := List.find?_some (ofToken?_keyword join)
      rw [← eq_of_beq named, ← spelled, canonicalToken, shape,
        Text.trim_surrounded blankBefore isSpaced.trimmed blankAfter, isSpaced.collapse_eq]
      rfl
    rw [← ofToken?_keyword join]
    unfold ofToken?
    rw [canonical]

end Table.Join

end QueryComposer
