import QueryComposer.Proofs.Filter.Acceptable

namespace QueryComposer.Filter

/-!
# Placeholders of conditions

Compiling a filter binds one value for every placeholder that it writes. The text of a condition
is put together from quoted identifiers, operators, and lists of placeholders.
-/

open Placeholder (Placed Plain)

/-- The text has one placeholder for each of the values. -/
def Bound
    (text : String)
    (values : List Value) : Prop :=
  Placed text.toList values.length

namespace Bound

theorem plain
    (text : String)
    (accepted : Plain text.toList) :
    Bound text [] :=
  Placed.ofPlain accepted

theorem quoted
    {mark : QuoteMark}
    {reference : Value}
    {text : String}
    (accepted : Identifier.quote mark.text reference = .ok text) :
    Bound text [] :=
  Identifier.placed_of_quote mark accepted

theorem append
    {first second : String}
    {values more : List Value}
    (opening : Bound first values)
    (closing : Bound second more) :
    Bound (first ++ second) (values ++ more) := by
  rw [Bound, String.toList_append, List.length_append]
  exact Placed.append opening closing

theorem parenthesized
    {inner : String}
    {values : List Value}
    (bound : Bound inner values) :
    Bound ("(" ++ inner ++ ")") values := by
  have opened := (Bound.plain "(" (by decide)).append bound
  simpa using opened.append (Bound.plain ")" (by decide))

end Bound

/-- Texts between commas have the placeholders of all of them. -/
theorem placed_commas
    {texts : List String}
    {marks : Nat}
    (each : ∀ text ∈ texts, Placed text.toList marks) :
    Placed (",".intercalate texts).toList (texts.length * marks) := by
  have pieces : ∀ piece ∈ texts.map String.toList, Placed piece marks := by
    intro piece member
    obtain ⟨text, inTexts, rfl⟩ := List.mem_map.mp member
    exact each text inTexts
  rw [String.toList_intercalate]
  simpa using Placed.intercalate (show Plain ",".toList by decide) pieces

/-- As many placeholders as counted are written. -/
theorem placed_placeholders (count : Nat) : Placed (placeholders count).toList count := by
  have each : ∀ text ∈ List.replicate count placeholder, Placed text.toList 1 := by
    intro text member
    rw [List.eq_of_mem_replicate member]
    exact Placed.mark
  simpa [placeholders] using placed_commas each

/-- A condition that is written has one placeholder for each of its values. -/
theorem bound_of_written
    {mark : QuoteMark}
    {p : Predicate}
    {text : String}
    {values : List Value}
    (isWritten : p.Written mark.text text values) :
    Bound text values := by
  have between : ∀ operator ∈ operators, Plain (" " ++ operator ++ " ").toList := by
    decide
  have compared :
      ∀ {column : Value} {operator quoted : String},
        operator ∈ operators →
        Identifier.quote mark.text column = .ok quoted →
        Bound (quoted ++ " " ++ operator ++ " ") [] := by
    intro column operator quoted known written
    have opened := (Bound.quoted written).append (.plain _ (between operator known))
    simpa only [String.append_assoc, List.append_nil] using opened
  cases isWritten with
  | @value _ operand _ _ known written _ =>
      have value : Bound placeholder [operand] := Placed.mark
      exact (compared known written).append value
  | column known written writtenOther =>
      exact (compared known written).append (.quoted writtenOther)
  | members written _ _ _ =>
      have listed : Bound (placeholders values.length) values := placed_placeholders values.length
      have opened := (Bound.quoted written).append (Bound.plain " IN (" (by decide))
      simpa using (opened.append listed).append (Bound.plain ")" (by decide))

theorem joint_bound (lead : Option Connective) : Bound (joint lead) [] := by
  rcases lead with _ | ⟨_ | _⟩ <;> exact .plain _ (by decide)

/-- What is put together from conditions has one placeholder for each value that it binds. -/
theorem bound_compositional (mark : QuoteMark) :
    Compositional mark.text fun composition => composition.Yields Bound where
  predicate p := (compilePredicate_written mark.text p).mono bound_of_written
  refusal _ := .throw _
  nothing := .pure (.plain "" (by decide))
  nested inner bound := by
    apply bound.bind
    intro text values boundInner
    exact .pure (by simpa using boundInner.parenthesized)
  joined lead first others bound boundOthers := by
    apply bound.bind
    intro text values boundFirst
    apply boundOthers.bind
    intro texts more boundMore
    have opened := (joint_bound lead).append boundFirst
    exact .pure (by simpa using opened.append boundMore)

/-- The condition of entries has one placeholder for each value that it binds. -/
theorem compileGroup_bound
    (mark : QuoteMark)
    (entries : List Entry) :
    (compileGroup mark.text entries).Yields Bound :=
  (bound_compositional mark).compileGroup entries

/-- A compiled filter has one placeholder for each value that it binds. -/
theorem compile_bound
    (mark : QuoteMark)
    (filters : Value) :
    (compile mark.text filters).Yields Bound := by
  unfold compile
  apply Binding.Yields.lift_bind
  intro entries _
  exact compileGroup_bound mark entries

end QueryComposer.Filter
