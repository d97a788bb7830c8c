import QueryComposer.Connection.Link
import QueryComposer.Proofs.Filter.SameShape

namespace QueryComposer.Connection

/-!
# Sessions that differ in values only

Two sessions are alike if they have logged the same, have sent the same texts at the same depth,
and their backends are in states that match. The values that are bound may be exchanged for others
from one session to the other, and a fault may say something else, as long as it is of one class
and has one state and one code.
-/

/-- A value in place of another one: both are scalars, neither or both null, or they are the same. -/
inductive Exchanged : Value → Value → Prop where
  | scalar
      {value value' : Value}
      (isScalar : value.isScalar = true)
      (isScalar' : value'.isScalar = true)
      (sameNull : value = .null ↔ value' = .null) :
      Exchanged value value'
  | unchanged
      (value : Value) :
      Exchanged value value

/-- Of two exchanged values both are null, or neither is. -/
theorem Exchanged.null_iff
    {value value' : Value}
    (exchanged : Exchanged value value') :
    value = .null ↔ value' = .null := by
  cases exchanged with
  | scalar _ _ sameNull =>
      exact sameNull
  | unchanged =>
      exact Iff.rfl

/-- Parameters of one shape whose values are exchanged. -/
inductive Params.Alike : Params → Params → Prop where
  | positional
      {values values' : List Value}
      (exchanged : List.Forall₂ Exchanged values values') :
      Params.Alike (.positional values) (.positional values')
  | named
      {pairs pairs' : List (Value × Value)}
      (exchanged : Filter.SamePairs Exchanged pairs pairs') :
      Params.Alike (.named pairs) (.named pairs')

/-- Faults that differ in what they say only. -/
structure Fault.Alike (fault fault' : Fault) : Prop where
  faultClass :
    fault.faultClass = fault'.faultClass
  state :
    fault.state = fault'.state
  code :
    fault.code = fault'.code

/-- Answers to a statement: as many rows are affected, or the faults are alike. -/
inductive AlikeAnswer : Except Fault Cursor → Except Fault Cursor → Prop where
  | executed
      {cursor cursor' : Cursor}
      (sameCount : cursor.rowCount = cursor'.rowCount) :
      AlikeAnswer (.ok cursor) (.ok cursor')
  | failed
      {fault fault' : Fault}
      (alike : fault.Alike fault') :
      AlikeAnswer (.error fault) (.error fault')

/-- Answers to the closing of a cursor: it is closed, or the faults are alike. -/
inductive AlikeClosing : Except Fault Unit → Except Fault Unit → Prop where
  | closed :
      AlikeClosing (.ok ()) (.ok ())
  | failed
      {fault fault' : Fault}
      (alike : fault.Alike fault') :
      AlikeClosing (.error fault) (.error fault')

/-- In states that match, the backends answer the same statement alike, and their states match on. -/
structure Backend.ReactsAlike
    {σ τ : Type}
    (matching : σ → τ → Prop)
    (backend : Backend σ)
    (backend' : Backend τ) : Prop where
  execute :
    ∀ {state state' params params'} (sql : Value),
      matching state state' →
      Option.Rel Params.Alike params params' →
      AlikeAnswer (backend.execute state sql params).1 (backend'.execute state' sql params').1 ∧
        matching (backend.execute state sql params).2 (backend'.execute state' sql params').2
  closeCursor :
    ∀ {state state'},
      matching state state' →
      AlikeClosing (backend.closeCursor state).1 (backend'.closeCursor state').1 ∧
        matching (backend.closeCursor state).2 (backend'.closeCursor state').2

/-- Failures of one statement whose faults are alike. -/
structure Failure.Alike (failure failure' : Failure) : Prop where
  driver :
    failure.driver = failure'.driver
  sql :
    failure.sql = failure'.sql
  fault :
    failure.fault.Alike failure'.fault
  constraintViolation :
    failure.constraintViolation = failure'.constraintViolation

/-- Errors that differ in what a fault says only. -/
inductive AlikeError : Error → Error → Prop where
  | unchanged
      {error : Error}
      (noFailure : ∀ failure, error ≠ .execution failure) :
      AlikeError error error
  | execution
      {failure failure' : Failure}
      (alike : failure.Alike failure') :
      AlikeError (.execution failure) (.execution failure')
  | fault
      {fault fault' : Fault}
      (alike : fault.Alike fault') :
      AlikeError (.fault fault) (.fault fault')

/-- An error is like itself. -/
theorem AlikeError.refl (error : Error) : AlikeError error error := by
  cases error with
  | execution failure =>
      exact .execution ⟨rfl, rfl, ⟨rfl, rfl, rfl⟩, rfl⟩
  | _ =>
      exact .unchanged nofun

/-- Both outcomes are errors that are alike, or both are results that are related. -/
inductive AlikeOutcome
    {α β : Type}
    (related : α → β → Prop) :
    Except Error α →
    Except Error β →
    Prop where
  | failed
      {error error' : Error}
      (alike : AlikeError error error') :
      AlikeOutcome related (.error error) (.error error')
  | succeeded
      {result : α}
      {result' : β}
      (results : related result result') :
      AlikeOutcome related (.ok result) (.ok result')

/-- Calls that differ in the values that they bind only. -/
inductive Call.Alike : Call → Call → Prop where
  | same
      (call : Call) :
      Call.Alike call call
  | execute
      (sql : Value)
      {params params' : Option Params}
      (alike : Option.Rel Params.Alike params params') :
      Call.Alike (.execute sql params) (.execute sql params')

/-- The texts of the statements among some calls. -/
def sentTexts (calls : List Call) : List Value :=
  calls.filterMap fun
    | .execute sql _ => some sql
    | _ => none

/-- Alike calls send the same texts. -/
theorem sentTexts_eq
    {calls calls' : List Call}
    (alike : List.Forall₂ Call.Alike calls calls') :
    sentTexts calls = sentTexts calls' := by
  induction alike with
  | nil =>
      rfl
  | cons first _ inductionHypothesis =>
      unfold sentTexts at inductionHypothesis ⊢
      cases first with
      | same call =>
          rw [List.filterMap_cons, List.filterMap_cons, inductionHypothesis]
      | execute sql _ =>
          rw [List.filterMap_cons, List.filterMap_cons, inductionHypothesis]

/-- Sessions that have logged the same events and sent the same texts at the same depth. -/
structure Session.Alike
    {σ τ : Type}
    (matching : σ → τ → Prop)
    (session : Session σ)
    (session' : Session τ) : Prop where
  backend :
    matching session.backend session'.backend
  depth :
    session.depth = session'.depth
  calls :
    List.Forall₂ Call.Alike session.calls session'.calls
  records :
    session.records = session'.records

end QueryComposer.Connection
