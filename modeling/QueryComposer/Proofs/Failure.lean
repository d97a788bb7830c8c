import QueryComposer.Log.Event

namespace QueryComposer

/-!
# How computations fail

`FailsWith` is a judgement on computations: whatever error one fails with is allowed. Writing a
log event fails only over a misused key.
-/

variable {α β : Type}

/-- Every error that the computation can fail with is allowed. -/
def FailsWith
    (allowed : Error → Prop)
    (computed : Except Error α) : Prop :=
  ∀ error, computed = .error error → allowed error

/-- The error is about a value of a type that nothing was written for. -/
def IsMisuse (error : Error) : Prop :=
  ∃ cause, error = .misuse cause

namespace FailsWith

variable {allowed : Error → Prop}

theorem ok (result : α) : FailsWith allowed (.ok result) := by
  intro error failed
  cases failed

theorem error
    {cause : Error}
    (permitted : allowed cause) :
    FailsWith allowed (.error cause : Except Error α) := by
  intro error failed
  cases failed
  exact permitted

theorem mono
    {permitted : Error → Prop}
    {computed : Except Error α}
    (fails : FailsWith allowed computed)
    (implies : ∀ error, allowed error → permitted error) :
    FailsWith permitted computed :=
  fun error failed => implies error (fails error failed)

theorem bind
    {first : Except Error α}
    {next : α → Except Error β}
    (opening : FailsWith allowed first)
    (closing : ∀ result, first = .ok result → FailsWith allowed (next result)) :
    FailsWith allowed (first >>= next) := by
  intro error failed
  cases made : first with
  | error cause =>
      rw [made] at failed
      cases failed
      exact opening _ made
  | ok result =>
      rw [made] at failed
      exact closing result made error failed

theorem map
    {computed : Except Error α}
    (fails : FailsWith allowed computed)
    (change : α → β) :
    FailsWith allowed (computed.map change) := by
  intro error failed
  cases made : computed with
  | error cause =>
      rw [made] at failed
      cases failed
      exact fails _ made
  | ok result =>
      rw [made] at failed
      cases failed

/-- A computation for every member of a list fails as one of the members makes it. -/
theorem mapM
    {compute : α → Except Error β}
    {items : List α}
    (each : ∀ item ∈ items, FailsWith allowed (compute item)) :
    FailsWith allowed (items.mapM compute) := by
  induction items with
  | nil =>
      exact ok []
  | cons item rest inductionHypothesis =>
      rw [List.mapM_cons]
      apply (each item List.mem_cons_self).bind
      intro result _
      apply bind
        (inductionHypothesis fun other member => each other (List.mem_cons_of_mem _ member))
      intro others _
      exact ok _

end FailsWith

namespace Redaction

mutual

/-- Redacting fails only over a key that is no text. -/
theorem redactValue_failsWith (value : Value) : FailsWith IsMisuse (redactValue value) := by
  cases value with
  | map pairs =>
      rw [redactValue]
      exact (redactPairs_failsWith pairs).map _
  | _ =>
      exact .ok _

theorem redactPairs_failsWith :
    ∀ pairs : List (Value × Value), FailsWith IsMisuse (redactPairs pairs)
  | [] => .ok []
  | (key, value) :: rest => by
      cases key with
      | text name =>
          have writes : ∀ shown : Value, FailsWith IsMisuse (do
              let others ← redactPairs rest
              return (Value.text name, shown) :: others) := by
            intro shown
            apply (redactPairs_failsWith rest).bind
            intro others _
            exact .ok _
          rw [redactPairs]
          split
          · exact writes _
          · apply (redactValue_failsWith value).bind
            intro shown _
            exact writes shown
      | _ =>
          exact .error ⟨_, rfl⟩

end

end Redaction

namespace Json

/-- A key that names no member is misused. -/
theorem memberName_failsWith (key : Value) : FailsWith IsMisuse (memberName key) := by
  unfold memberName
  split
  all_goals first | exact .ok _ | exact .error ⟨_, rfl⟩

mutual

/-- Turning a value into plain data fails only over a key that names no member. -/
theorem ofValue_failsWith (value : Value) : FailsWith IsMisuse (ofValue value) := by
  cases value with
  | list items
  | tuple items =>
      rw [ofValue]
      exact (ofValues_failsWith items).map _
  | map pairs =>
      rw [ofValue]
      exact (ofPairs_failsWith pairs).map _
  | _ =>
      exact .ok _

theorem ofValues_failsWith : ∀ values : List Value, FailsWith IsMisuse (ofValues values)
  | [] => .ok []
  | value :: rest => by
      rw [ofValues]
      apply (ofValue_failsWith value).bind
      intro first _
      apply (ofValues_failsWith rest).bind
      intro others _
      exact .ok _

theorem ofPairs_failsWith :
    ∀ pairs : List (Value × Value), FailsWith IsMisuse (ofPairs pairs)
  | [] => .ok []
  | (key, value) :: rest => by
      rw [ofPairs]
      apply (memberName_failsWith key).bind
      intro name _
      apply (ofValue_failsWith value).bind
      intro first _
      apply (ofPairs_failsWith rest).bind
      intro others _
      exact .ok _

end

end Json

/-- Writing a log event fails only over a misused key. -/
theorem Log.Event.render?_failsWith (event : Log.Event) : FailsWith IsMisuse event.render? := by
  apply (Redaction.redactPairs_failsWith _).bind
  intro redacted _
  apply (Json.ofPairs_failsWith redacted).bind
  intro members _
  exact .ok _

end QueryComposer
