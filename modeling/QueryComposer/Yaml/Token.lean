import QueryComposer.Yaml.Directive
import QueryComposer.Yaml.Literal
import QueryComposer.Yaml.Quoted

namespace QueryComposer.Yaml

/-!
# Tokens

Tokens are what a document consists of: marks, names and scalars. The structure that a document
has from its indentation is given by tokens of their own, which stand where block collections
start and end. A token that could not be read ends the list.
-/

/-- A part of a document. -/
inductive Token where
  | directive (content : Directive)
  | documentStart
  | documentEnd
  | blockSequence
  | blockMapping
  | blockEnd
  | flowSequence
  | flowSequenceEnd
  | flowMapping
  | flowMappingEnd
  /-- The mark of an item of a block sequence. -/
  | item
  /-- The comma between the members of a flow collection. -/
  | comma
  | key
  | value
  | alias (name : String)
  | anchor (name : String)
  | tag (mark : TagMark)
  | scalar (plain : Bool) (text : String)
  /-- What stands here is no token. -/
  | broken (reason : Refusal)
  deriving Repr, DecidableEq

end QueryComposer.Yaml
