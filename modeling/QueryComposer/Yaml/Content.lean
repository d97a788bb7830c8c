import QueryComposer.Value.Key
import QueryComposer.Yaml.Layout
import QueryComposer.Yaml.Nesting
import QueryComposer.Yaml.Scalar

namespace QueryComposer.Yaml

/-!
# The values of nodes and documents

A scalar has a value of the type of its tag; sequences are lists, and mappings are mappings or
sets. A mapping whose key merges takes the pairs of the mappings that stand under it; its own
pairs go over them.

Collections are filled only after what is around them, level by level. If several nodes of a
document are refused, the reason is therefore that of the one nearest to the root, and of the
first of those on one level.

A text holds at most one document. Its tokens are read first, then the nodes that they make up, and
last the values of the nodes.
-/

/-- Why a node has no value, and how many levels below it the reason lies. -/
structure Flaw where
  depth : Nat
  reason : Refusal
  deriving Repr, DecidableEq

/-- The value of a node, or why it has none. -/
abbrev Construed (α : Type) :=
  Except Flaw α

namespace Construed

/-- A node that cannot have a value, for a reason which is found at the given depth. -/
def malformedAt
    {α : Type}
    (depth : Nat) :
    Construed α :=
  .error ⟨depth, .malformed⟩

/-- A part of a collection as seen from outside of the collection. -/
def inside
    {α : Type}
    (part : Construed α) :
    Construed α :=
  part.mapError fun flaw => { flaw with depth := flaw.depth + 1 }

/-- Two parts, the first before the second; of two flaws the less deep one counts. -/
def combine
    {α β γ : Type}
    (f : α → β → γ)
    (first : Construed α)
    (second : Construed β) :
    Construed γ :=
  match first, second with
  | .ok a, .ok b => .ok (f a b)
  | .error flaw, .ok _
  | .ok _, .error flaw => .error flaw
  | .error flaw, .error other => .error (if other.depth < flaw.depth then other else flaw)

/-- Two flawless parts make a flawless whole. -/
@[simp] theorem combine_ok
    {α β γ : Type}
    (f : α → β → γ)
    (a : α)
    (b : β) :
    combine f (.ok a) (.ok b) = .ok (f a b) :=
  rfl

/-- The value of a key: it has to be one that a mapping can find. -/
def asKey (key : Construed Value) : Construed Value :=
  match key with
  | .ok value => if value.isHashable then .ok value else malformedAt 0
  | .error flaw => if flaw.depth == 0 then .error flaw else malformedAt 0

end Construed

open Construed

/-- A key that is no number. -/
def isNotANumber (entry : Value × Value) : Bool :=
  match entry.1 with
  | .float numeral => numeral == "nan"
  | _ => false

/-- Write an entry; all keys that are no number are one key. -/
def writeEntry
    (entries : List (Value × Value))
    (entry : Value × Value) :
    List (Value × Value) :=
  if isNotANumber entry && entries.any isNotANumber then
    entries.map fun other => if isNotANumber other then (other.1, entry.2) else other
  else
    Association.put entries entry.1 entry.2

/-- The mapping that results from writing entries in order. -/
def mappingOf (entries : List (Value × Value)) : List (Value × Value) :=
  entries.foldl writeEntry []

/-- The value of a scalar. -/
def scalarContent
    (tag : Tag)
    (text : String) :
    Construed Value :=
  match tag with
  | .orderedMap
  | .pairs
  | .set
  | .sequence
  | .mapping => malformedAt 1
  | tag => (scalar tag text).mapError fun reason => ⟨0, reason⟩

/-- The entries of a mapping, those that are merged into it first, if they can be merged. -/
def joined
    (mergeable : Bool)
    (merged own : Construed (List (Value × Value))) :
    Construed (List (Value × Value)) :=
  if mergeable then combine List.append merged own else malformedAt 0

namespace Node

mutual

/-- The text that a node has where a scalar is asked for. -/
def scalarText? : Node → Option String
  | .scalar _ text => some text
  | .mapping _ pairs => defaultText? pairs
  | .sequence _ _
  | .enclosing _ => none

/-- The text of the first value whose key marks it as the one of the mapping. -/
def defaultText? : List (Node × Node) → Option String
  | [] => none
  | (key, value) :: rest =>
      if key.tag? == some .default then scalarText? value else defaultText? rest

end

mutual

/-- The node can be merged: it is a mapping, and so is whatever is merged into it. -/
def isMergeable : Node → Bool
  | .mapping _ pairs => mergesWell pairs
  | _ => false

/-- All the nodes can be merged. -/
def allMergeable : List Node → Bool
  | [] => true
  | node :: rest => isMergeable node && allMergeable rest

/-- The keys that merge have mappings or sequences of mappings as their values. -/
def mergesWell : List (Node × Node) → Bool
  | [] => true
  | (key, value) :: rest =>
      let good := match value with
        | .sequence _ items => allMergeable items
        | value => isMergeable value
      (!key.isMerge || good) && mergesWell rest

end

mutual

/-- The value of a node. -/
def content : Node → Construed Value
  | .scalar tag text => scalarContent tag text
  | .sequence tag items =>
      match tag with
      | .sequence => inside ((contents items).map .list)
      | .orderedMap
      | .pairs => inside ((tuples items).map .list)
      | .mapping
      | .set => malformedAt 1
      | _ => malformedAt 0
  | .mapping tag pairs =>
      match tag with
      | .mapping =>
          inside ((joined (mergesWell pairs) (mergedEntries pairs) (ownEntries pairs)).map
            fun entries => .map (mappingOf entries))
      | .set =>
          inside ((joined (mergesWell pairs) (mergedEntries pairs) (ownEntries pairs)).map
            fun entries => .set ((mappingOf entries).map Prod.fst))
      | .sequence
      | .orderedMap
      | .pairs => malformedAt 1
      | tag =>
          match defaultText? pairs with
          | some text => scalarContent tag text
          | none => malformedAt 0
  | .enclosing _ => malformedAt 0

/-- The values of the items of a sequence. -/
def contents : List Node → Construed (List Value)
  | [] => .ok []
  | node :: rest => combine List.cons (content node) (contents rest)

/-- The pairs of a sequence of mappings, each of which has a single entry. -/
def tuples : List Node → Construed (List Value)
  | [] => .ok []
  | .mapping _ [(key, value)] :: rest =>
      let pair := combine (fun k v => .tuple [k, v]) (content key) (content value)
      combine List.cons pair (tuples rest)
  | _ :: _ => malformedAt 0

/-- The entries of a mapping whose keys do not merge. -/
def ownEntries : List (Node × Node) → Construed (List (Value × Value))
  | [] => .ok []
  | (key, value) :: rest =>
      if key.isMerge then
        ownEntries rest
      else
        let keyContent := match key with
          | .scalar .default text => .ok (.text text)
          | key => asKey (content key)
        let entry := combine Prod.mk keyContent (content value)
        combine List.cons entry (ownEntries rest)

/-- The entries that are merged into a mapping. -/
def mergedEntries : List (Node × Node) → Construed (List (Value × Value))
  | [] => .ok []
  | (key, value) :: rest =>
      if key.isMerge then
        combine List.append (entriesOf value) (mergedEntries rest)
      else
        mergedEntries rest

/-- The entries that a node has to merge; of a sequence those of the last mapping come first. -/
def entriesOf : Node → Construed (List (Value × Value))
  | .mapping _ pairs => joined (mergesWell pairs) (mergedEntries pairs) (ownEntries pairs)
  | .sequence _ items => entriesOfAll items
  | .scalar _ _
  | .enclosing _ => .ok []

/-- The entries of some mappings, those of the last one first. -/
def entriesOfAll : List Node → Construed (List (Value × Value))
  | [] => .ok []
  | node :: rest => combine List.append (entriesOfAll rest) (entriesOf node)

end

end Node

/-- Read a text that holds at most one document; an empty one is null. -/
def read (text : String) : Except Refusal Value := do
  let s := normalizeBreaks text.toList
  let s := if (s.head?.map isByteOrderMark).getD false then s.drop 1 else s
  if s.all isAllowed then
    let node ← root (tokens s)
    node.content.mapError Flaw.reason
  else
    .error .malformed

end QueryComposer.Yaml
