import QueryComposer.Error.Basic

namespace QueryComposer

/-!
# Binding parameters

Composing a statement collects the values that its placeholders stand for. The collection
survives an error, so that it can be told which values had been bound before.
-/

/-- A composition that may fail and that binds values as it goes along. -/
abbrev Binding (α : Type) :=
  ExceptT Error (StateM (List Value)) α

namespace Binding

/-- Bind one value to the next placeholder. -/
def bindValue (value : Value) : Binding Unit :=
  modify (· ++ [value])

/-- Bind several values to the next placeholders. -/
def bindValues (values : List Value) : Binding Unit :=
  modify (· ++ values)

/-- A composition that binds nothing. -/
def lift
    {α : Type}
    (result : Except Error α) :
    Binding α :=
  ExceptT.mk (pure result)

/-- The outcome of a composition and the values bound after it, given those bound before. -/
def outcome
    {α : Type}
    (composition : Binding α)
    (bound : List Value) :
    Except Error α × List Value :=
  composition.run.run bound

/-- The result of a composition that starts without bound values, and the values it binds. -/
def collect
    {α : Type}
    (composition : Binding α) :
    Except Error (α × List Value) :=
  match composition.outcome [] with
  | (.ok result, bound) => .ok (result, bound)
  | (.error error, _) => .error error

variable {α β : Type}

/-- A result binds nothing. -/
@[simp] theorem outcome_pure
    (result : α)
    (bound : List Value) :
    (pure result : Binding α).outcome bound = (.ok result, bound) :=
  rfl

/-- An error keeps what was bound before it. -/
@[simp] theorem outcome_throw
    (error : Error)
    (bound : List Value) :
    (throw error : Binding α).outcome bound = (.error error, bound) :=
  rfl

/-- A computation without placeholders binds nothing. -/
@[simp] theorem outcome_lift
    (result : Except Error α)
    (bound : List Value) :
    (lift result).outcome bound = (result, bound) :=
  rfl

/-- Binding a value appends it. -/
@[simp] theorem outcome_bindValue
    (value : Value)
    (bound : List Value) :
    (bindValue value).outcome bound = (.ok (), bound ++ [value]) :=
  rfl

/-- Binding values appends them in their order. -/
@[simp] theorem outcome_bindValues
    (values : List Value)
    (bound : List Value) :
    (bindValues values).outcome bound = (.ok (), bound ++ values) :=
  rfl

/-- What follows a composition starts from what that has bound, and is left out after an error. -/
theorem outcome_bind
    (first : Binding α)
    (next : α → Binding β)
    (bound : List Value) :
    (first >>= next).outcome bound =
      match first.outcome bound with
      | (.ok result, after) => (next result).outcome after
      | (.error error, after) => (.error error, after) := by
  simp only [outcome, ExceptT.run_bind, StateT.run_bind]
  rcases first.run.run bound with ⟨_ | _, _⟩ <;> rfl

/-- After a composition that succeeds, what follows it starts from what that has bound. -/
theorem outcome_bind_of_ok
    {first : Binding α}
    {result : α}
    {bound after : List Value}
    (succeeded : first.outcome bound = (.ok result, after))
    (next : α → Binding β) :
    (first >>= next).outcome bound = (next result).outcome after := by
  rw [outcome_bind, succeeded]

/-- Collecting succeeds exactly if the composition does when nothing is bound before it. -/
theorem collect_eq_ok_iff
    (composition : Binding α)
    (result : α)
    (bound : List Value) :
    composition.collect = .ok (result, bound) ↔
      composition.outcome [] = (.ok result, bound) := by
  unfold collect
  split <;> simp_all

end Binding

/-- The mark that a bound value takes the place of. -/
def placeholder : String :=
  "?"

/-- As many placeholders as counted, separated by commas. -/
def placeholders (count : Nat) : String :=
  ",".intercalate (List.replicate count placeholder)

end QueryComposer
