import QueryComposer.Proofs.Filter.Language

namespace QueryComposer.Filter

/-!
# Conditions without connectives

Conditions that stand one after the other hold together: their texts are joined by "AND", and their
values are bound in their order.
-/

/-- The conditions are written one by one, each with its values. -/
abbrev AllWritten
    (delimiter : String)
    (predicates : List Predicate)
    (texts : List String) : Prop :=
  List.Forall₂ (fun p text => p.Written delimiter text p.boundValues) predicates texts

/-- The texts of several conditions, between parentheses. -/
def conjunction (texts : List String) : String :=
  "(" ++ " AND ".intercalate texts ++ ")"

variable {delimiter : String} {predicates : List Predicate} {texts : List String}

/-- Conditions that follow what leads to them are compiled to their texts, joined by "AND". -/
theorem compileEntries_conjunction
    (lead : Option Connective)
    (written : AllWritten delimiter predicates texts)
    (nonempty : predicates ≠ [])
    (bound : List Value) :
    (compileEntries delimiter lead (predicates.map .predicate)).outcome bound =
      (.ok (joint lead ++ " AND ".intercalate texts),
        bound ++ predicates.flatMap Predicate.boundValues) := by
  induction written generalizing lead bound with
  | nil =>
      exact absurd rfl nonempty
  | @cons p text rest others writtenFirst writtenRest inductionHypothesis =>
      have noConnective : ∀ c, Entry.predicate p ≠ .connective c := by
        intro _ same
        cases same
      have first := compilePredicate_of_written writtenFirst bound
      rw [List.map_cons, compileEntries_cons delimiter (.inr noConnective), compileEntry,
        Binding.outcome_bind_of_ok first]
      cases writtenRest with
      | nil =>
          have nothing :
              (compileEntries delimiter (some .and) []).outcome (bound ++ p.boundValues) =
                (.ok "", bound ++ p.boundValues) := by
            rw [compileEntries]
            rfl
          rw [List.map_nil, Binding.outcome_bind_of_ok nothing, String.append_empty]
          simp
      | @cons next textNext rest others writtenNext writtenRest =>
          have following := inductionHypothesis (some .and) (by simp) (bound ++ p.boundValues)
          have joined :
              " AND ".intercalate (text :: textNext :: others) =
                text ++ (joint (some .and) ++ " AND ".intercalate (textNext :: others)) := by
            rw [String.intercalate_cons_cons, String.append_assoc]
            rfl
          rw [Binding.outcome_bind_of_ok following, joined, Binding.outcome_pure,
            List.flatMap_cons (x := p), List.append_assoc, String.append_assoc]

theorem Entry.acceptable_predicate_iff {p : Predicate} :
    (Entry.predicate p).Acceptable ↔ p.Acceptable := by
  constructor
  · rintro ⟨acceptable⟩
    exact acceptable
  · exact .predicate

/-- A filter of conditions is acceptable exactly if there are some and each of them is. -/
theorem acceptable_conditions_iff :
    (Entry.group (predicates.map .predicate)).Acceptable ↔
      predicates ≠ [] ∧ ∀ p ∈ predicates, p.Acceptable := by
  cases predicates with
  | nil =>
      constructor
      · intro acceptable
        cases acceptable
      · rintro ⟨nonempty, _⟩
        exact absurd rfl nonempty
  | cons first rest =>
      have each :
          (∀ entry ∈ (first :: rest).map Entry.predicate, entry.Acceptable) ↔
            ∀ p ∈ first :: rest, p.Acceptable := by
        rw [List.forall_mem_map]
        simp only [Entry.acceptable_predicate_iff]
      constructor
      · rintro (_ | _ | ⟨_, acceptable⟩)
        exact ⟨by simp, each.mp acceptable⟩
      · rintro ⟨_, acceptable⟩
        exact .group (by simp) (each.mpr acceptable)

/-- A filter of conditions is compiled exactly if they can be written, and to what they are. -/
theorem compileGroup_eq_conjunction_iff
    {bound after : List Value}
    {text : String} :
    (compileGroup delimiter (predicates.map .predicate)).outcome bound = (.ok text, after) ↔
      predicates ≠ [] ∧
        ∃ texts,
          AllWritten delimiter predicates texts ∧
            text = conjunction texts ∧
            after = bound ++ predicates.flatMap Predicate.boundValues := by
  have compiles :
      ∀ {texts}, AllWritten delimiter predicates texts → predicates ≠ [] →
        (compileGroup delimiter (predicates.map .predicate)).outcome bound =
          (.ok (conjunction texts), bound ++ predicates.flatMap Predicate.boundValues) := by
    intro texts written nonempty
    have inner := compileEntries_conjunction none written nonempty bound
    unfold compileGroup
    rw [if_neg (by simpa using nonempty), Binding.outcome_bind_of_ok inner]
    rfl
  constructor
  · intro compiled
    have visited := ((compileGroup_follows delimiter _).ok_iff bound).mp ⟨_, _, compiled⟩
    obtain ⟨nonempty, acceptable⟩ :=
      acceptable_conditions_iff.mp ((visits_acceptable_iff _).mp visited)
    obtain ⟨texts, written⟩ : ∃ texts, AllWritten delimiter predicates texts :=
      Success.exists_forall₂_iff.mpr fun p member => (acceptable p member).exists_written delimiter
    rw [compiles written nonempty] at compiled
    cases compiled
    exact ⟨nonempty, texts, written, rfl, rfl⟩
  · rintro ⟨nonempty, texts, written, rfl, rfl⟩
    exact compiles written nonempty

end QueryComposer.Filter
