import Mathlib.Data.List.TakeWhile
import QueryComposer.Proofs.Log.Loggable

namespace QueryComposer.Redaction

/-!
# What is masked

A key names a secret if one of a few words stands in it, or if it is the name of a connection
string, both in any case. Redaction goes by the first line of a key only: a word counts if no line
feed stands before it, and the name of a connection string may have one line feed behind it.
So the two agree on all keys of one line.

`Shows` says what is shown of a value if the values of some keys are masked.
-/

/-- Every character is in the ASCII range. -/
def IsAscii (key : String) : Prop :=
  ∀ c ∈ key.toList, c.toNat < 128

instance (key : String) : Decidable (IsAscii key) :=
  List.decidableBAll (fun c : Char => c.toNat < 128) key.toList

/-- The key has one line only. -/
def IsLine (key : String) : Prop :=
  '\n' ∉ key.toList

instance (key : String) : Decidable (IsLine key) :=
  inferInstanceAs (Decidable ('\n' ∉ key.toList))

/-- The words that stand in the names of secrets. -/
def secretWords : List String :=
  ["password", "token", "secret"]

/-- The characters spell the word, in any case. -/
def SpellsWord
    (characters : List Char)
    (word : String) : Prop :=
  characters.map Char.toLower = word.toList

/-- The word stands in the key, in any case, with the given characters before it. -/
def StandsBehind
    (before : List Char)
    (word key : String) : Prop :=
  ∃ part after, key.toList = before ++ part ++ after ∧ SpellsWord part word

/-- The key names a secret: a word stands in it, or it is the name of a connection string. -/
def NamesSecret (key : String) : Prop :=
  (∃ word ∈ secretWords, ∃ before, StandsBehind before word key) ∨
    SpellsWord key.toList "dsn"

/-- The key is masked: a word stands in its first line, or that is a connection string's name. -/
def IsMasked (key : String) : Prop :=
  (∃ word ∈ secretWords, ∃ before, '\n' ∉ before ∧ StandsBehind before word key) ∨
    SpellsWord key.toList "dsn" ∨ SpellsWord key.toList "dsn\n"

section Keys

theorem occursIn_iff
    {part s : List Char} :
    occursIn part s = true ↔ part <:+: s := by
  induction s with
  | nil =>
      rw [occursIn, List.isEmpty_iff, List.infix_nil]
  | cons c rest inductionHypothesis =>
      rw [occursIn, Bool.or_eq_true, List.isPrefixOf_iff_prefix, inductionHypothesis,
        List.infix_cons_iff]

/-- An ASCII letter is folded to its small form. -/
theorem fold_of_ascii
    {c : Char}
    (ascii : c.toNat < 128) :
    fold c = c.toLower := by
  unfold fold
  rw [if_neg, if_neg]
  · rw [beq_iff_eq]
    omega
  · rw [beq_iff_eq]
    omega

/-- A part without line feeds stands in the first line if none stands before it. -/
theorem infix_takeWhile_iff
    {part s : List Char}
    (unbroken : '\n' ∉ part) :
    part <:+: s.takeWhile (· != '\n') ↔
      ∃ before after, s = before ++ part ++ after ∧ '\n' ∉ before := by
  constructor
  · rintro ⟨before, after, cut⟩
    refine ⟨before, after ++ s.dropWhile (· != '\n'), ?_, ?_⟩
    · rw [← List.append_assoc, cut, List.takeWhile_append_dropWhile]
    · intro member
      have inLine : '\n' ∈ s.takeWhile (· != '\n') := by
        rw [← cut]
        simp [member]
      exact absurd (List.mem_takeWhile_imp inLine) (by decide)
  · rintro ⟨before, after, rfl, noLineFeed⟩
    have within : ∀ c ∈ before ++ part, (c != '\n') = true := by
      intro c member
      rw [bne_iff_ne]
      rintro rfl
      rcases List.mem_append.mp member with inBefore | inPart
      · exact noLineFeed inBefore
      · exact unbroken inPart
    rw [List.takeWhile_append_of_pos within]
    exact ⟨before, _, rfl⟩

/-- Only a line feed is a line feed when it is written small. -/
theorem eq_lineFeed_of_toLower
    {c : Char}
    (small : c.toLower = '\n') :
    c = '\n' := by
  unfold Char.toLower at small
  split at small
  · have moved : c.val + 32 = 10 := congrArg Char.val small
    grind
  · exact small

/-- What spells a word has no line feeds unless the word does. -/
theorem not_mem_of_spellsWord
    {part : List Char}
    {word : String}
    (spells : SpellsWord part word)
    (unbroken : '\n' ∉ word.toList) :
    '\n' ∉ part := by
  intro member
  apply unbroken
  rw [← spells]
  exact List.mem_map_of_mem (f := Char.toLower) member

/-- A word occurs in the small first line exactly if it stands in the key before all line feeds. -/
theorem occursIn_firstLine_iff
    {word key : String}
    (unbroken : '\n' ∉ word.toList) :
    occursIn word.toList ((key.toList.takeWhile (· != '\n')).map Char.toLower) = true ↔
      ∃ before, '\n' ∉ before ∧ StandsBehind before word key := by
  rw [occursIn_iff, List.infix_map_iff]
  constructor
  · rintro ⟨part, inLine, spells⟩
    have whole := not_mem_of_spellsWord spells.symm unbroken
    obtain ⟨before, after, split, noLineFeed⟩ := (infix_takeWhile_iff whole).mp inLine
    exact ⟨before, noLineFeed, part, after, split, spells.symm⟩
  · rintro ⟨before, noLineFeed, part, after, split, spells⟩
    have whole := not_mem_of_spellsWord spells unbroken
    exact ⟨part, (infix_takeWhile_iff whole).mpr ⟨before, after, split, noLineFeed⟩, spells.symm⟩

/-- The keys whose values are not shown are those that are masked. -/
theorem isSensitive_iff
    {key : String}
    (ascii : IsAscii key) :
    isSensitive key = true ↔ IsMasked key := by
  have folded :
      ∀ {part : List Char},
        (∀ c ∈ part, c ∈ key.toList) → part.map fold = part.map Char.toLower := by
    intro part within
    exact List.map_congr_left fun c member => fold_of_ascii (ascii c (within c member))
  have unbroken : ∀ word ∈ secretWords, '\n' ∉ word.toList := by
    decide
  have inFirstLine :
      (words.any fun word =>
          occursIn word.toList ((key.toList.takeWhile (· != '\n')).map Char.toLower)) = true ↔
        ∃ word ∈ secretWords, ∃ before, '\n' ∉ before ∧ StandsBehind before word key := by
    rw [List.any_eq_true]
    constructor
    · rintro ⟨word, isWord, occurs⟩
      exact ⟨word, isWord, (occursIn_firstLine_iff (unbroken word isWord)).mp occurs⟩
    · rintro ⟨word, isWord, stands⟩
      exact ⟨word, isWord, (occursIn_firstLine_iff (unbroken word isWord)).mpr stands⟩
  unfold isSensitive isSensitiveChars
  dsimp only
  rw [folded fun _ member => List.takeWhile_subset _ member, folded fun _ member => member,
    Bool.or_eq_true, Bool.or_eq_true, inFirstLine, or_assoc, beq_iff_eq, beq_iff_eq]
  rfl

/-- On keys of one line, exactly those that name a secret are masked. -/
theorem isMasked_iff_namesSecret
    {key : String}
    (line : IsLine key) :
    IsMasked key ↔ NamesSecret key := by
  constructor
  · rintro (⟨word, isWord, before, _, stands⟩ | name | nameAndLineFeed)
    · exact .inl ⟨word, isWord, before, stands⟩
    · exact .inr name
    · have lineFeed : '\n' ∈ key.toList.map Char.toLower := by
        rw [nameAndLineFeed]
        decide
      obtain ⟨c, member, small⟩ := List.mem_map.mp lineFeed
      rw [eq_lineFeed_of_toLower small] at member
      exact absurd member line
  · rintro (⟨word, isWord, before, stands⟩ | name)
    · refine .inl ⟨word, isWord, before, ?_, stands⟩
      obtain ⟨part, after, split, _⟩ := stands
      intro member
      apply line
      rw [split]
      simp [member]
    · exact .inr (.inl name)

end Keys

section Mappings

mutual

/-- Every key of a mapping in the value, however deep, is a text with the property. -/
def Keyed (allowed : String → Prop) : Value → Prop
  | .map pairs => PairsKeyed allowed pairs
  | _ => True

def PairsKeyed (allowed : String → Prop) : List (Value × Value) → Prop
  | [] => True
  | (.text key, value) :: rest => allowed key ∧ Keyed allowed value ∧ PairsKeyed allowed rest
  | _ => False

end

mutual

/-- What is shown of a value: the same, unless it is a mapping. -/
inductive Shows (masked : String → Prop) : Value → Value → Prop where
  | mapping
      {pairs shown : List (Value × Value)}
      (each : ShowsPairs masked pairs shown) :
      Shows masked (.map pairs) (.map shown)
  | other
      {value : Value}
      (noMapping : ∀ pairs, value ≠ .map pairs) :
      Shows masked value value

/-- What is shown of a mapping: all of its keys, in their order, with masks for some values. -/
inductive ShowsPairs (masked : String → Prop) :
    List (Value × Value) → List (Value × Value) → Prop where
  | nil :
      ShowsPairs masked [] []
  | hidden
      {key : String}
      {rest others : List (Value × Value)}
      (isMasked : masked key)
      (value : Value)
      (following : ShowsPairs masked rest others) :
      ShowsPairs masked ((.text key, value) :: rest) ((.text key, .text "[REDACTED]") :: others)
  | visible
      {key : String}
      {value shown : Value}
      {rest others : List (Value × Value)}
      (notMasked : ¬ masked key)
      (first : Shows masked value shown)
      (following : ShowsPairs masked rest others) :
      ShowsPairs masked ((.text key, value) :: rest) ((.text key, shown) :: others)

end

variable {allowed masked : String → Prop}

mutual

/-- Redaction shows a value with masks for the keys that it takes for sensitive. -/
theorem redactValue_shows
    (decides : ∀ key, allowed key → (isSensitive key = true ↔ masked key))
    (value : Value)
    (keyed : Keyed allowed value) :
    ∃ shown, redactValue value = .ok shown ∧ Shows masked value shown := by
  cases value with
  | map pairs =>
      rw [Keyed] at keyed
      obtain ⟨shown, redacted, each⟩ := redactPairs_shows decides pairs keyed
      refine ⟨.map shown, ?_, .mapping each⟩
      rw [redactValue, redacted]
      rfl
  | _ =>
      refine ⟨_, rfl, .other ?_⟩
      rintro _ ⟨⟩

theorem redactPairs_shows
    (decides : ∀ key, allowed key → (isSensitive key = true ↔ masked key)) :
    ∀ pairs : List (Value × Value),
      PairsKeyed allowed pairs →
      ∃ shown, redactPairs pairs = .ok shown ∧ ShowsPairs masked pairs shown
  | [], _ =>
      ⟨[], rfl, .nil⟩
  | (key, value) :: rest, keyed => by
      cases key with
      | text key =>
          rw [PairsKeyed] at keyed
          obtain ⟨isAllowed, keyedValue, keyedRest⟩ := keyed
          obtain ⟨others, redactedRest, following⟩ := redactPairs_shows decides rest keyedRest
          rw [redactPairs_cons_text, redactedRest]
          by_cases sensitive : isSensitive key = true
          · have isMasked := (decides key isAllowed).mp sensitive
            rw [shownOf, if_pos sensitive]
            exact ⟨_, rfl, .hidden isMasked value following⟩
          · have notMasked := fun isMasked => sensitive ((decides key isAllowed).mpr isMasked)
            obtain ⟨shown, redacted, first⟩ := redactValue_shows decides value keyedValue
            rw [shownOf, if_neg sensitive, redacted]
            exact ⟨_, rfl, .visible notMasked first following⟩
      | _ =>
          cases keyed

end

end Mappings

/--
Every mapping whose keys are ASCII texts, at any depth, is shown with its keys in their order, and
with a mask in the place of each value whose key has a secret's word in its first line or is the
name of a connection string. All that stands under other keys and is no mapping is shown as it is.

If every key has one line only, then the masked keys are those that name a secret.
-/
theorem redact_shows_masked (pairs : List (Value × Value)) :
    (PairsKeyed IsAscii pairs →
      ∃ shown, redact (.map pairs) = .ok shown ∧ ShowsPairs IsMasked pairs shown) ∧
      (PairsKeyed (fun key => IsAscii key ∧ IsLine key) pairs →
        ∃ shown, redact (.map pairs) = .ok shown ∧ ShowsPairs NamesSecret pairs shown) := by
  constructor
  · exact redactPairs_shows (fun _ ascii => isSensitive_iff ascii) pairs
  · apply redactPairs_shows
    rintro key ⟨ascii, line⟩
    exact (isSensitive_iff ascii).trans (isMasked_iff_namesSecret line)

/-- Connection parameters with a setting inside of a mapping and keys in any case. -/
def connectParameters (key : String) : List (Value × Value) :=
  [(.text "host", .text "db"),
    (.text "options", .map [(.text key, .text "hunter2"), (.text "DSN", .null)]),
    (.text "API\tToKeNs", .map [(.text "id", .int 1)])]

/-- A password inside of a mapping is masked, though not behind a line feed. -/
theorem redact_shows_masked_nested :
    (PairsKeyed IsAscii (connectParameters "a\nPassword") ∧
      ∃ shown,
        redact (.map (connectParameters "a\nPassword")) = .ok shown ∧
          ShowsPairs IsMasked (connectParameters "a\nPassword") shown) ∧
      PairsKeyed (fun key => IsAscii key ∧ IsLine key) (connectParameters "a Password") ∧
      ∃ shown,
        redact (.map (connectParameters "a Password")) = .ok shown ∧
          ShowsPairs NamesSecret (connectParameters "a Password") shown := by
  have broken : PairsKeyed IsAscii (connectParameters "a\nPassword") := by
    simp only [connectParameters, PairsKeyed, Keyed, and_true, true_and]
    decide
  have line :
      PairsKeyed (fun key => IsAscii key ∧ IsLine key) (connectParameters "a Password") := by
    simp only [connectParameters, PairsKeyed, Keyed, and_true, true_and]
    decide
  exact ⟨⟨broken, (redact_shows_masked _).1 broken⟩, line, (redact_shows_masked _).2 line⟩

/-- A password is shown if a line feed stands before the word in its key. -/
theorem password_shown_behind_lineFeed :
    ¬ ∀ pairs : List (Value × Value),
      PairsKeyed IsAscii pairs →
      ∃ shown, redact (.map pairs) = .ok shown ∧ ShowsPairs NamesSecret pairs shown := by
  intro shows
  have ascii : PairsKeyed IsAscii [(.text "db\npassword", .text "hunter2")] := by
    simp only [PairsKeyed, Keyed, and_true]
    decide
  have namesSecret : NamesSecret "db\npassword" :=
    .inl ⟨"password", by decide, "db\n".toList, "password".toList, [], by decide, by rfl⟩
  obtain ⟨shown, redacted, each⟩ := shows _ ascii
  have unmasked :
      redact (.map [(.text "db\npassword", .text "hunter2")]) =
        .ok [(.text "db\npassword", .text "hunter2")] := by
    rfl
  rw [unmasked] at redacted
  have same := Except.ok.inj redacted
  cases each with
  | hidden =>
      simp at same
  | visible notMasked _ _ =>
      exact notMasked namesSecret

end QueryComposer.Redaction
