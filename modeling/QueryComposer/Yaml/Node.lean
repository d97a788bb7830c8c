import QueryComposer.Yaml.Tag

namespace QueryComposer.Yaml

/-!
# Nodes

The nodes of a document are scalars, sequences and mappings, each with the tag that it gives or
that its spelling tells. The key of a mapping may be any node, and the pairs stand in the order of
the document, those of keys that merge among them.

An alias is the node that it refers to. One that refers to a collection around it would make the
node infinite; it is replaced by a copy of the collection, which goes on to a limited depth.
-/

/-- A part of a document. -/
inductive Node where
  | scalar (tag : Tag) (text : String)
  | sequence (tag : Tag) (items : List Node)
  | mapping (tag : Tag) (pairs : List (Node × Node))
  /-- A collection that is around the node and has the given anchor. -/
  | enclosing (anchor : String)
  deriving Repr, Inhabited

namespace Node

/-- The tag of a node. -/
def tag? : Node → Option Tag
  | .scalar tag _
  | .sequence tag _
  | .mapping tag _ => some tag
  | .enclosing _ => none

/-- The value of the key is merged into the mapping. -/
def isMerge (key : Node) : Bool :=
  key.tag? == some .merge

mutual

/-- Replace the references to a collection around a node. -/
def replace
    (anchor : String)
    (replacement : Node) :
    Node →
    Node
  | .scalar tag text => .scalar tag text
  | .sequence tag items => .sequence tag (replaceAll anchor replacement items)
  | .mapping tag pairs => .mapping tag (replacePairs anchor replacement pairs)
  | .enclosing other => if other == anchor then replacement else .enclosing other

/-- Replace the references in the items of a sequence. -/
def replaceAll
    (anchor : String)
    (replacement : Node) :
    List Node →
    List Node
  | [] => []
  | node :: rest => replace anchor replacement node :: replaceAll anchor replacement rest

/-- Replace the references in the keys and values of a mapping. -/
def replacePairs
    (anchor : String)
    (replacement : Node) :
    List (Node × Node) →
    List (Node × Node)
  | [] => []
  | (key, value) :: rest =>
      (replace anchor replacement key, replace anchor replacement value) ::
        replacePairs anchor replacement rest

end

/-- The depth to which a collection is copied into itself. -/
def copyDepth : Nat :=
  5

/-- Copy a collection into itself, to the given depth; the innermost references become null. -/
def unfold
    (anchor : String)
    (node : Node) :
    Nat →
    Node
  | 0 => replace anchor (.scalar .null "") node
  | depth + 1 => replace anchor (unfold anchor node depth) node

end Node

end QueryComposer.Yaml
