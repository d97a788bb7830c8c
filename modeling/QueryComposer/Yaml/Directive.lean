import QueryComposer.Yaml.Property

namespace QueryComposer.Yaml

/-!
# Directives

The lines before a document may give the version of the format, and handles of tags with the
starts of names that they stand for. Other directives have no meaning.
-/

/-- A line before a document. -/
inductive Directive where
  | version (major : Nat)
  | abbreviation (handle start : String)
  | other
  deriving Repr, DecidableEq

namespace Directive

/-- A number of one digit or more. -/
def number? (p : Position) : Option (Nat × Position) := do
  let digits := p.rest.takeWhile Char.isDigit
  let n ← Decimal.digits? digits
  if digits.isEmpty then none else some (n, p.advance digits.length)

/-- The two numbers of a version, of which the first one counts. -/
def version? (p : Position) : Option (Directive × Position) := do
  let (major, q) ← number? (p.skipWhile (· == ' '))
  if q.rest.head? == some '.' then
    let (_, r) ← number? q.next
    if endsTag r then some (.version major, r) else none
  else
    none

/-- A handle and what it stands for. -/
def handle?
    (fuel : Nat)
    (p : Position) :
    Option (Directive × Position) := do
  let (handle, q) ← tagHandle? (p.skipWhile (· == ' '))
  if q.rest.head? == some ' ' then
    let (start, r) ← solidTagName? fuel (q.skipWhile (· == ' '))
    if endsTag r then some (.abbreviation handle start, r) else none
  else
    none

/-- Read a directive behind its mark, up to the next line. -/
def read?
    (fuel : Nat)
    (p : Position) :
    Option (Directive × Position) := do
  let name := p.rest.takeWhile isNameCharacter
  let q := p.advance name.length
  if name.isEmpty || !endsTag q then
    none
  else
    let (directive, r) ←
      match String.ofList name with
      | "YAML" => version? q
      | "TAG" => handle? fuel q
      | _ => some (.other, q.skipWhile (!isBreak ·))
    some (directive, ← r.restOfLine?)

end Directive

end QueryComposer.Yaml
