import QueryComposer.Error.Basic
import QueryComposer.Json

namespace QueryComposer

/-!
# Error reports

An error of the library's own can be reported as plain data: its kind and its wording, and for a
failed statement also the statement and the codes of the fault.
-/

namespace Connection.Failure

/-- What a report says of a failed statement beyond its kind and wording. -/
def details (failure : Failure) : Except Error (List (String × Json)) := do
  let sql ← Json.ofValue failure.sql
  let sqlstate ← Json.ofValue failure.fault.state
  let code ← Json.ofValue failure.fault.code
  return [
    ("sql", sql),
    ("sqlstate", sqlstate),
    ("code", code),
    ("constraint_violation", .bool failure.constraintViolation),
    ("original_error_type", .text failure.fault.faultClass.name)]

end Connection.Failure

namespace Error

/-- The report of an error; only errors of the library's own have one. -/
def report? (error : Error) : Option (Except Error Json) :=
  error.kind?.map fun kind => do
    let head := [("error_type", Json.text kind.name), ("message", .text error.message)]
    match error with
    | .execution failure => return .object (head ++ (← failure.details))
    | _ => return .object head

end Error

end QueryComposer
