import QueryComposer.Text.Quoted

namespace QueryComposer.Schema

/-!
# Problems of validated data

Validation collects every problem of a document: where it is, of which kind it is and how it
reads.
-/

/-- One step on the way to a part of a document. -/
inductive Step where
  | field (name : String)
  | number (n : Int)
  deriving Repr, DecidableEq

/-- What is wrong with a part of a document. -/
inductive Defect where
  | missing
  | notText
  | notUnicode
  | notMap
  | notDocument (name : String)
  | tooShort
  | notOneOf (choices : List String)
  | notInteger
  | fractional
  | notIntegerText
  | notBooleanText
  | notFinite
  | tooLarge
  deriving Repr, DecidableEq

namespace Defect

/-- The code of a kind of defect. -/
def code : Defect → String
  | .missing => "missing"
  | .notText => "string_type"
  | .notUnicode => "string_unicode"
  | .notMap => "dict_type"
  | .notDocument _ => "model_type"
  | .tooShort => "too_short"
  | .notOneOf _ => "literal_error"
  | .notInteger => "int_type"
  | .fractional => "int_from_float"
  | .notIntegerText => "int_parsing"
  | .notBooleanText => "bool_parsing"
  | .notFinite => "finite_number"
  | .tooLarge => "int_parsing_size"

/-- Choices between quotes, separated by commas, the last by a word. -/
def alternatives : List String → String
  | [] => ""
  | [choice] => Text.quoted choice
  | [choice, last] => Text.quoted choice ++ " or " ++ Text.quoted last
  | choice :: rest => Text.quoted choice ++ ", " ++ alternatives rest

/-- How a defect reads. -/
def message : Defect → String
  | .missing => "Field required"
  | .notText => "Input should be a valid string"
  | .notUnicode =>
      "Input should be a valid string, unable to parse raw data as a unicode string"
  | .notMap => "Input should be a valid dictionary"
  | .notDocument name => "Input should be a valid dictionary or instance of " ++ name
  | .tooShort => "Dictionary should have at least 1 item after validation, not 0"
  | .notOneOf choices => "Input should be " ++ alternatives choices
  | .notInteger => "Input should be a valid integer"
  | .fractional => "Input should be a valid integer, got a number with a fractional part"
  | .notIntegerText => "Input should be a valid integer, unable to parse string as an integer"
  | .notBooleanText => "Input should be a valid boolean, unable to interpret input"
  | .notFinite => "Input should be a finite number"
  | .tooLarge => "Unable to parse input string as an integer, exceeded maximum size"

end Defect

/-- A defect and where it is. -/
structure Problem where
  path : List Step
  defect : Defect
  deriving Repr, DecidableEq

namespace Problem

/-- The problem as seen from a part one step further out. -/
def under
    (step : Step)
    (problem : Problem) :
    Problem :=
  ⟨step :: problem.path, problem.defect⟩

end Problem

end QueryComposer.Schema
