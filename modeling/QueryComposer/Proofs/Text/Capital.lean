import Mathlib.Data.List.Basic
import QueryComposer.Text.Uppercase

namespace QueryComposer.Text

/-!
# Words in capital letters

A character beyond the ASCII range can have an ASCII letter as its upper-case form, as the long s
has. None of the letters of "AND" and "OR" comes about so: a text is one of these words up to
case in full exactly if it is so letter by letter.
-/

/-- The letters of "AND" and "OR", which only ASCII letters have as their upper-case forms. -/
def plainCapitals : List Char :=
  "ANDOR".toList

theorem toNat_lt_of_mem_plainCapitals
    {c : Char}
    (member : c ∈ plainCapitals) :
    0 < c.toNat ∧ c.toNat < 128 := by
  have all : plainCapitals.all (fun c => 0 < c.toNat ∧ c.toNat < 128) = true := by decide
  exact of_decide_eq_true (List.all_eq_true.mp all c member)

/-- A code beyond the ASCII range is not that of a plain capital letter. -/
theorem ofNat_not_mem_plainCapitals
    {code : Nat}
    (beyond : 128 ≤ code) :
    Char.ofNat code ∉ plainCapitals := by
  intro member
  have small := toNat_lt_of_mem_plainCapitals member
  by_cases valid : code.isValidChar
  · rw [Char.ofNat, dif_pos valid] at small
    change 0 < code ∧ code < 128 at small
    omega
  · rw [Char.ofNat, dif_neg valid] at small
    exact absurd small.1 (by decide)

/-- No expansion consists of plain capital letters only. -/
theorem upperExpansions_not_plain :
    ∀ pair ∈ upperExpansions, ∃ code ∈ pair.2, Char.ofNat code ∉ plainCapitals := by
  decide +kernel

/-- A run stays beyond the ASCII range, or is one character that becomes another letter. -/
theorem upperRuns_not_plain :
    ∀ run ∈ upperRuns,
      128 ≤ (run.first : Int) + run.distance ∨
        run.first = run.last ∧
          Char.ofNat (run.first + run.distance).toNat ∉ plainCapitals := by
  decide +kernel

/-- A character becomes what an expansion says, moves with its run, or stays as it is. -/
theorem mapCase_cases
    (runs : List CaseRun)
    (expansions : List (Nat × List Nat))
    (c : Char) :
    (∃ codes,
      (c.toNat, codes) ∈ expansions ∧ mapCase runs expansions c = codes.map Char.ofNat) ∨
      (∃ run ∈ runs,
        run.first ≤ c.toNat ∧ c.toNat ≤ run.last ∧
          mapCase runs expansions c = [Char.ofNat (c.toNat + run.distance).toNat]) ∨
      mapCase runs expansions c = [c] := by
  unfold mapCase
  split
  · next codes expanded =>
      obtain ⟨_, _, inTable, _⟩ := List.lookup_eq_some_iff.mp expanded
      refine .inl ⟨codes, ?_, rfl⟩
      rw [inTable]
      exact List.mem_append_right _ List.mem_cons_self
  · split
    · next run found =>
        have covered := List.find?_some found
        simp only [CaseRun.covers, Bool.and_eq_true, decide_eq_true_eq] at covered
        exact .inr (.inl
          ⟨run, List.mem_of_find?_eq_some found, covered.1.1, covered.1.2, rfl⟩)
    · exact .inr (.inr rfl)

/-- The upper-case form of a character beyond the ASCII range has another letter in it. -/
theorem exists_mem_upperChar_not_plain
    {c : Char}
    (beyond : 128 ≤ c.toNat) :
    ∃ d ∈ upperChar c, d ∉ plainCapitals := by
  rw [upperChar, if_neg (by omega)]
  rcases mapCase_cases upperRuns upperExpansions c with
    ⟨codes, listed, expanded⟩ | ⟨run, listed, starts, ends, moved⟩ | same
  · obtain ⟨code, member, other⟩ := upperExpansions_not_plain _ listed
    rw [expanded]
    exact ⟨_, List.mem_map_of_mem member, other⟩
  · rw [moved]
    refine ⟨_, List.mem_singleton_self _, ?_⟩
    rcases upperRuns_not_plain run listed with stays | ⟨isSingle, other⟩
    · exact ofNat_not_mem_plainCapitals (by omega)
    · have sameCode : c.toNat = run.first := by omega
      rwa [sameCode]
  · rw [same]
    refine ⟨c, List.mem_singleton_self c, ?_⟩
    rw [← Char.ofNat_toNat c]
    exact ofNat_not_mem_plainCapitals beyond

/-- The upper-case form of an ASCII text is found letter by letter. -/
theorem upper_of_ascii
    {s : List Char}
    (ascii : ∀ c ∈ s, c.toNat < 128) :
    upper s = s.map Char.toUpper := by
  induction s with
  | nil =>
      rfl
  | cons c rest inductionHypothesis =>
      have first : upperChar c = [c.toUpper] := if_pos (ascii c List.mem_cons_self)
      have others := inductionHypothesis fun d member => ascii d (List.mem_cons_of_mem c member)
      rw [upper, List.flatMap_cons, first, List.map_cons, ← others]
      rfl

/-- Only the small ASCII letters have other capital letters. -/
theorem toUpper_eq_self
    {c : Char}
    (noSmallLetter : ¬ (97 ≤ c.toNat ∧ c.toNat ≤ 122)) :
    c.toUpper = c := by
  unfold Char.toUpper
  rw [dif_neg]
  rintro ⟨above, below⟩
  have lowest : 'a'.val.toNat ≤ c.val.toNat := above
  have highest : c.val.toNat ≤ 'z'.val.toNat := below
  exact noSmallLetter ⟨lowest, highest⟩

/-- A text is a word of plain capital letters up to case exactly if it is so letter by letter. -/
theorem upper_eq_iff
    {s target : List Char}
    (plain : ∀ c ∈ target, c ∈ plainCapitals) :
    upper s = target ↔ s.map Char.toUpper = target := by
  by_cases isBeyond : ∃ c ∈ s, 128 ≤ c.toNat
  · obtain ⟨c, member, beyond⟩ := isBeyond
    constructor
    · intro isTarget
      obtain ⟨d, inUpper, other⟩ := exists_mem_upperChar_not_plain beyond
      have inTarget : d ∈ target := by
        rw [← isTarget]
        exact List.mem_flatMap.mpr ⟨c, member, inUpper⟩
      exact absurd (plain d inTarget) other
    · intro isTarget
      have inTarget : c ∈ target := by
        rw [← isTarget, ← toUpper_eq_self (c := c) (by omega)]
        exact List.mem_map_of_mem member
      have small := toNat_lt_of_mem_plainCapitals (plain c inTarget)
      omega
  · rw [upper_of_ascii]
    intro c member
    by_contra notAscii
    exact isBeyond ⟨c, member, Nat.le_of_not_lt notAscii⟩

end QueryComposer.Text
