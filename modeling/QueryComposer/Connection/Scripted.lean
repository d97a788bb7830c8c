import QueryComposer.Connection.Backend

namespace QueryComposer.Connection

/-!
# Scripted backends

A scripted backend answers by rules: the first rule that is not used up and whose text starts
the statement decides, and is used once. A statement that no rule covers succeeds without rows.
-/

/-- What a rule answers. -/
inductive Answer where
  | fault (cause : Fault)
  | cursor (result : Cursor)
  deriving Repr

/-- A rule; one without a number of uses is never used up. -/
structure Rule where
  start : String
  uses : Option Nat
  answer : Answer
  deriving Repr

namespace Rule

/-- The rule decides about this statement, which has to be a text. -/
def covers
    (rule : Rule)
    (sql : Value) :
    Bool :=
  match sql with
  | .text s => rule.start.toList.isPrefixOf s.toList && rule.uses != some 0
  | _ => false

/-- The rule after one more use. -/
def used (rule : Rule) : Rule :=
  { rule with uses := rule.uses.map (· - 1) }

end Rule

/-- The rules that are left. -/
abbrev Script :=
  List Rule

namespace Script

/-- The answer to a statement that no rule covers. -/
def silence : Cursor :=
  ⟨1, .null, none, []⟩

/-- Answer a statement by the first rule that covers it. -/
def execute
    (script : Script)
    (sql : Value) :
    Except Fault Cursor × Script :=
  match script with
  | [] => (.ok silence, [])
  | rule :: rest =>
      if rule.covers sql then
        match rule.answer with
        | .fault cause => (.error cause, rule.used :: rest)
        | .cursor result => (.ok result, rule.used :: rest)
      else
        let (outcome, left) := execute rest sql
        (outcome, rule :: left)

end Script

/-- The backend that follows a script and closes every cursor without a fault. -/
def scripted : Backend Script where
  execute := fun script sql _ => script.execute sql
  closeCursor := fun script => (.ok (), script)

end QueryComposer.Connection
