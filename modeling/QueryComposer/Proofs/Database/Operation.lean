import QueryComposer.Proofs.Database.Refusals
import QueryComposer.Proofs.Statement.SameRow

namespace QueryComposer.Database

/-!
# Operations

An operation is a call of a database or a block of operations: a block in a level of its own, or
one whose error is caught. Two operations are the same up to bound values if they make the same
calls with arguments of one shape, in which only the values that are bound differ.
-/

open Connection (Action Exchanged)
open Filter (SameLiteral SamePairs)
open Statement (SameAssignments SameRows)

variable {σ : Type}

mutual

/-- A call of a database, or a block of calls. -/
inductive Operation where
  | request (request : Request)
  | move (move : Transaction.Move)
  /-- A block in a level of its own. -/
  | transaction (block : Operations)
  /-- A block whose error is caught. -/
  | attempt (block : Operations)

/-- Operations that are done one after the other, until one of them fails. -/
inductive Operations where
  | nil
  | cons (first : Operation) (rest : Operations)

end

mutual

/-- Do an operation, whatever it returns. -/
def Operation.perform
    (db : Database σ) :
    Operation →
    Action σ Unit
  | .request request => request.perform db
  | .move move => do
      let _ ← db.move move
  | .transaction block => db.transaction (block.perform db)
  | .attempt block => do
      let _ ← Action.attempt (block.perform db)

/-- Do operations one after the other. -/
def Operations.perform
    (db : Database σ) :
    Operations →
    Action σ Unit
  | .nil => return ()
  | .cons first rest => do
      first.perform db
      rest.perform db

end

/-- Arguments of one shape for the parameters of a query, with the same names. -/
inductive SameParams : Value → Value → Prop where
  | one
      {value value' : Value}
      (exchanged : Exchanged value value') :
      SameParams value value'
  | list
      {values values' : List Value}
      (exchanged : List.Forall₂ Exchanged values values') :
      SameParams (.list values) (.list values')
  | tuple
      {values values' : List Value}
      (exchanged : List.Forall₂ Exchanged values values') :
      SameParams (.tuple values) (.tuple values')
  | map
      {pairs pairs' : List (Value × Value)}
      (exchanged : SamePairs Exchanged pairs pairs') :
      SameParams (.map pairs) (.map pairs')

/-- Requests whose arguments differ in bound values only. -/
inductive SameRequest : Request → Request → Prop where
  | query
      (statement : Value)
      {params params' : Value}
      (sameParams : SameParams params params') :
      SameRequest (.query statement params) (.query statement params')
  | select
      (columns tables order : Value)
      {filters filters' : Value}
      (sameFilters : SameLiteral Exchanged filters filters') :
      SameRequest
        (.select columns tables filters order)
        (.select columns tables filters' order)
  | insert
      (table upsertKeys : Value)
      {values values' : Value}
      (sameRows : SameRows values values') :
      SameRequest (.insert table values upsertKeys) (.insert table values' upsertKeys)
  | update
      (table : Value)
      {values values' filters filters' : Value}
      (sameValues : SameAssignments Exchanged values values')
      (sameFilters : SameLiteral Exchanged filters filters') :
      SameRequest (.update table values filters) (.update table values' filters')
  | delete
      (table : Value)
      {filters filters' : Value}
      (sameFilters : SameLiteral Exchanged filters filters') :
      SameRequest (.delete table filters) (.delete table filters')

mutual

/-- Operations whose arguments differ in bound values only. -/
inductive SameOperation : Operation → Operation → Prop where
  | request
      {request request' : Request}
      (same : SameRequest request request') :
      SameOperation (.request request) (.request request')
  | move
      (move : Transaction.Move) :
      SameOperation (.move move) (.move move)
  | transaction
      {block block' : Operations}
      (same : SameOperations block block') :
      SameOperation (.transaction block) (.transaction block')
  | attempt
      {block block' : Operations}
      (same : SameOperations block block') :
      SameOperation (.attempt block) (.attempt block')

/-- As many operations, each with arguments that differ in bound values only. -/
inductive SameOperations : Operations → Operations → Prop where
  | nil :
      SameOperations .nil .nil
  | cons
      {first first' : Operation}
      {rest rest' : Operations}
      (opening : SameOperation first first')
      (closing : SameOperations rest rest') :
      SameOperations (.cons first rest) (.cons first' rest')

end

end QueryComposer.Database
