import QueryComposer.Driver.Registry
import QueryComposer.Schema.Check
import QueryComposer.Yaml.Content

namespace QueryComposer.Driver

/-!
# Registry documents

A registry is read from a document with the mappings `defaults` and `drivers`. The document is
checked first, and then the drivers one after the other; all problems of the document, or of the
first driver that has any, are reported together.
-/

open Schema

/-- A connection parameter; if no alternative fits, the problems of both are reported. -/
def checkSetting (value : Value) : Checked Setting :=
  match value with
  | .null => .ok .null
  | value =>
      match checkText value, checkInteger value with
      | .ok s, _ => .ok (.text s)
      | .error _, .ok n => .ok (.int n)
      | text, int =>
          .error (problemsOf (under (.field "str") text) ++ problemsOf (under (.field "int") int))

/-- Check an entry of the document; its own name, if it gives one, goes over the given one. -/
def checkEntry
    (name : String)
    (entry : List (String × Value)) :
    Checked Driver :=
  let fields := Association.merge [(Value.text "name", Value.text name)]
    (entry.map fun (key, value) => (.text key, value))
  let name := checkField fields "name" checkText none
  let module := checkField fields "module" checkText none
  let quoteMark := checkField fields "quote_delimiter"
    (checkChoice ([.backtick, .double].map fun mark => (mark.text, mark))) none
  let paramStyle := checkField fields "paramstyle"
    (checkChoice ([.qmark, .format].map fun style => (style.name, style))) none
  let beginStatement := checkField fields "begin_statement" checkText (some "BEGIN")
  let autocommit := checkField fields "autocommit"
    (checkChoice ([.method, .attribute, .isolationLevel].map fun way => (way.name, way)))
    (some Autocommit.attribute)
  let dsnKeyword := checkField fields "dsn_arg" checkOptionalText (some none)
  let defaults := checkField fields "defaults" (checkMap checkSetting) (some [])
  let keywords := checkField fields "connect_args" (checkMap checkText) (some [])
  let problems :=
    problemsOf name ++ problemsOf module ++ problemsOf quoteMark ++ problemsOf paramStyle ++
      problemsOf beginStatement ++ problemsOf autocommit ++ problemsOf dsnKeyword ++
      problemsOf defaults ++ problemsOf keywords
  if problems.isEmpty then do
    return {
      name := ← name
      module := ← module
      quoteMark := ← quoteMark
      paramStyle := ← paramStyle
      beginStatement := ← beginStatement
      autocommit := ← autocommit
      dsnKeyword := ← dsnKeyword
      defaults := ← defaults
      keywords := ← keywords }
  else
    .error problems

/-- Check the entries one after the other, up to the first with problems. -/
def checkEntries :
    List (String × List (String × Value)) →
    Checked (List (String × Driver))
  | [] => .ok []
  | (name, entry) :: rest => do
      let driver ← checkEntry name entry
      let others ← checkEntries rest
      return (name, driver) :: others

/-- Check a document. -/
def checkDocument (content : Value) : Checked Registry := do
  let content := if content.isTruthy then content else .map []
  match content with
  | .map fields =>
      let defaults := checkField fields "defaults" (checkMap checkSetting) (some [])
      let entries := checkField fields "drivers" (checkNonemptyMap (checkMap .ok)) none
      match defaults, entries with
      | .ok baseDefaults, .ok entries =>
          let drivers ← checkEntries entries
          return ⟨drivers, baseDefaults⟩
      | defaults, entries => .error (problemsOf defaults ++ problemsOf entries)
  | _ => defect (.notDocument "DriverRegistryFile")

/-- Why there is no registry. -/
inductive LoadError where
  | missingFile
  | malformed
  /-- A scalar of the document has no value, or an escape no character. -/
  | unreadable (refusal : Yaml.Refusal)
  | invalid (problems : List Problem)
  deriving Repr

namespace LoadError

/-- The wording of a load error, as far as it does not name the file. -/
def message : LoadError → String
  | .missingFile => "Driver registry file not found"
  | .malformed
  | .unreadable _ => "Invalid YAML in"
  | .invalid _ => "Invalid driver registry in"

/-- The load error of a text that is refused. -/
def ofRefusal : Yaml.Refusal → LoadError
  | .malformed => .malformed
  | refusal => .unreadable refusal

end LoadError

/-- The registry of a document. -/
def load (text : String) : Except LoadError Registry := do
  let content ← (Yaml.read text).mapError .ofRefusal
  (checkDocument content).mapError .invalid

end QueryComposer.Driver
