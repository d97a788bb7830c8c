import QueryComposer.Yaml.Node
import QueryComposer.Yaml.Token

namespace QueryComposer.Yaml

/-!
# From tokens to nodes

The tokens of a text are the document's directives and its only node. An anchor has to be defined
before an alias refers to it, and only once; the handle of a tag has to be known.

Each function takes `fuel`, which the number of tokens bounds: a function that reads no token
itself calls one that does.
-/

/-- What tokens are left, the meaning that handles and anchors have, and the collections around. -/
structure Reading where
  tokens : List Token
  handles : List (String × String)
  anchors : List (String × Node)
  /-- The number of collections that have started and not ended. -/
  depth : Nat

/-- A part of the work on tokens, which may be refused. -/
abbrev Reader (α : Type) :=
  StateT Reading (Except Refusal) α

/-- The anchor and the tag of a node, as they are given. -/
structure Properties where
  anchor : Option String
  tag : Option TagMark

namespace Reader

/-- Refuse the document. -/
def refuse {α : Type} : Reader α :=
  throw .malformed

/-- The next token, if there is one. -/
def peek : Reader (Option Token) := do
  match (← get).tokens with
  | [] => return none
  | .broken reason :: _ => throw reason
  | token :: _ => return some token

/-- Go on behind the next token. -/
def drop : Reader Unit :=
  modify fun r => { r with tokens := r.tokens.drop 1 }

/-- Go on behind the next token if it is the given one; otherwise the document is refused. -/
def expect (token : Token) : Reader Unit := do
  if (← peek) == some token then drop else refuse

/-- Skip the next token if it is the given one, and tell whether it is. -/
def accept (token : Token) : Reader Bool := do
  if (← peek) == some token then
    drop
    return true
  else
    return false

/-- The next token is one of some, or there is none. -/
def isNext (tokens : List Token) : Reader Bool := do
  match ← peek with
  | some token => return tokens.contains token
  | none => return false

/-! ## Properties -/

/-- The anchor that is given here, if any. -/
def anchor? : Reader (Option String) := do
  match ← peek with
  | some (.anchor name) => do
      drop
      return some name
  | _ => return none

/-- The tag that is given here, if any. -/
def tag? : Reader (Option TagMark) := do
  match ← peek with
  | some (.tag mark) => do
      drop
      return some mark
  | _ => return none

/-- The anchor and the tag that are given here, in any order. -/
def properties : Reader Properties := do
  match ← anchor? with
  | some anchor => return ⟨some anchor, ← tag?⟩
  | none => do
      let tag ← tag?
      let anchor ← if tag.isSome then anchor? else pure none
      return ⟨anchor, tag⟩

/-- The mark of a node whose tag is told by its kind or its spelling. -/
def plainMark : String :=
  "!"

/-- The full name of a tag. -/
def tagName (mark : TagMark) : Reader String := do
  match mark.handle with
  | none => return mark.suffix
  | some handle =>
      match (← get).handles.lookup handle with
      | some start => return start ++ mark.suffix
      | none => refuse

/-- The full name of the tag that is given, if any. -/
def tagName? (mark : Option TagMark) : Reader (Option String) :=
  match mark with
  | none => pure none
  | some mark => do return some (← tagName mark)

/-- The tag of a scalar. -/
def scalarTag
    (plain : Bool)
    (text : String)
    (name : Option String) :
    Tag :=
  match name with
  | none => if plain then .ofPlain text else .text
  | some name => if name == plainMark then .ofPlain text else .ofName name

/-- The tag of a collection, the second one unless another is given. -/
def collectionTag
    (name : Option String)
    (usual : Tag) :
    Tag :=
  match name with
  | none => usual
  | some name => if name == plainMark then usual else .ofName name

/-! ## Anchors -/

/-- An anchor is defined only once. -/
def checkNew (anchor : Option String) : Reader Unit := do
  match anchor with
  | none => return ()
  | some name => if ((← get).anchors.lookup name).isSome then refuse else return ()

/-- Give a node to its anchor. -/
def define
    (anchor : Option String)
    (node : Node) :
    Reader Unit := do
  match anchor with
  | none => return ()
  | some name => modify fun r => { r with anchors := (name, node) :: r.anchors }

/-- The node of an alias. -/
def aliased (name : String) : Reader Node := do
  match (← get).anchors.lookup name with
  | some node => return node
  | none => refuse

/-- A scalar under its anchor. -/
def anchored
    (anchor : Option String)
    (node : Node) :
    Reader Node := do
  checkNew anchor
  define anchor node
  return node

/-- The number of collections that may be nested in one another. -/
def maxDepth : Nat :=
  487

/-- Read a collection one level deeper than what is around it. -/
def deeper (read : Reader Node) : Reader Node := do
  let depth := (← get).depth
  if maxDepth ≤ depth then
    throw .tooDeep
  else
    modify fun r => { r with depth := depth + 1 }
    let node ← read
    modify fun r => { r with depth := depth }
    return node

/-- Read a collection, inside of which its anchor refers to the collection around. -/
def enclosed
    (anchor : Option String)
    (read : Reader Node) :
    Reader Node := do
  checkNew anchor
  match anchor with
  | none => deeper read
  | some name => do
      define anchor (.enclosing name)
      let node := Node.unfold name (← deeper read) Node.copyDepth
      modify fun r => { r with
        anchors := r.anchors.map fun (other, known) => (other, Node.replace name node known) }
      return node

/-! ## Nodes -/

/-- What is left out. -/
def empty : Node :=
  .scalar (.ofPlain "") ""

mutual

/-- Read a node, which may be a block collection, or a list of items at the indentation around. -/
def node :
    Nat →
    Bool →
    Bool →
    Reader Node
  | 0, _, _ => refuse
  | fuel + 1, block, bareItems => do
      match ← peek with
      | some (.alias name) => do
          drop
          aliased name
      | _ => do
          let given ← properties
          let name ← tagName? given.tag
          let sequence (items : Reader (List Node)) : Reader Node :=
            enclosed given.anchor do
              return .sequence (collectionTag name .sequence) (← items)
          let mapping (pairs : Reader (List (Node × Node))) : Reader Node :=
            enclosed given.anchor do
              return .mapping (collectionTag name .mapping) (← pairs)
          match ← peek with
          | some (.scalar plain text) => do
              drop
              anchored given.anchor (.scalar (scalarTag plain text name) text)
          | some .flowSequence => sequence (do drop; flowItems fuel true)
          | some .flowMapping => mapping (do drop; flowPairs fuel true)
          | token =>
              if bareItems && token == some .item then
                sequence (items fuel)
              else if block && token == some .blockSequence then
                sequence do
                  drop
                  let found ← items fuel
                  expect .blockEnd
                  return found
              else if block && token == some .blockMapping then
                mapping (do drop; pairs fuel)
              else if given.anchor.isSome || given.tag.isSome then
                anchored given.anchor (.scalar (scalarTag true "" name) "")
              else
                refuse

/-- Read a node, or nothing if one of some tokens is next. -/
def nodeUnless :
    Nat →
    List Token →
    Bool →
    Bool →
    Reader Node
  | 0, _, _, _ => refuse
  | fuel + 1, ends, block, bareItems => do
      if ← isNext ends then return empty else node fuel block bareItems

/-- Read the items of a block sequence. -/
def items :
    Nat →
    Reader (List Node)
  | 0 => refuse
  | fuel + 1 => do
      if ← accept .item then
        let first ← nodeUnless fuel [.item, .key, .value, .blockEnd] true false
        return first :: (← items fuel)
      else
        return []

/-- Read the pairs of a block mapping, and its end. -/
def pairs :
    Nat →
    Reader (List (Node × Node))
  | 0 => refuse
  | fuel + 1 => do
      let ends := [.key, .value, .blockEnd]
      match ← peek with
      | some .blockEnd => do
          drop
          return []
      | some .key => do
          drop
          let key ← nodeUnless fuel ends true true
          let valued ← accept .value
          let value ← if valued then nodeUnless fuel ends true true else pure empty
          return (key, value) :: (← pairs fuel)
      | _ => refuse

/-- Read the pair of a flow collection behind the mark of its key. -/
def flowPair :
    Nat →
    Token →
    Reader (Node × Node)
  | 0, _ => refuse
  | fuel + 1, closing => do
      let key ← nodeUnless fuel [.value, .comma, closing] false false
      let valued ← accept .value
      let value ← if valued then nodeUnless fuel [.comma, closing] false false else pure empty
      return (key, value)

/-- Read the items of a flow sequence, and its end. -/
def flowItems :
    Nat →
    Bool →
    Reader (List Node)
  | 0, _ => refuse
  | fuel + 1, first => do
      if ← accept .flowSequenceEnd then
        return []
      else
        if !first then
          expect .comma
        match ← peek with
        | some .flowSequenceEnd => do
            drop
            return []
        | some .key => do
            drop
            let item ← deeper do
              return .mapping .mapping [← flowPair fuel .flowSequenceEnd]
            return item :: (← flowItems fuel false)
        | _ => do
            let item ← node fuel false false
            return item :: (← flowItems fuel false)

/-- Read the pairs of a flow mapping, and its end. -/
def flowPairs :
    Nat →
    Bool →
    Reader (List (Node × Node))
  | 0, _ => refuse
  | fuel + 1, first => do
      if ← accept .flowMappingEnd then
        return []
      else
        if !first then
          expect .comma
        match ← peek with
        | some .flowMappingEnd => do
            drop
            return []
        | some .key => do
            drop
            let pair ← flowPair fuel .flowMappingEnd
            return pair :: (← flowPairs fuel false)
        | _ => do
            let key ← node fuel false false
            return (key, empty) :: (← flowPairs fuel false)

end

/-! ## Documents -/

/-- The meaning that handles have unless a directive changes it. -/
def usualHandles : List (String × String) :=
  [("!", "!"), ("!!", Tag.namespaceStart)]

/-- The version of the format that documents can have. -/
def knownVersion : Nat :=
  1

/-- Read the directives; there is at most one version, and one meaning of each handle. -/
def directives :
    Nat →
    Bool →
    List (String × String) →
    Reader Unit
  | 0, _, _ => refuse
  | fuel + 1, versioned, handles => do
      match ← peek with
      | some (.directive content) => do
          drop
          match content with
          | .version major =>
              if versioned || major != knownVersion then
                refuse
              else
                directives fuel true handles
          | .abbreviation handle start =>
              if (handles.lookup handle).isSome then
                refuse
              else
                directives fuel versioned ((handle, start) :: handles)
          | .other => directives fuel versioned handles
      | _ => modify fun r => { r with handles := handles ++ usualHandles }

/-- Skip the marks of the end of a document. -/
def documentEnds :
    Nat →
    Reader Unit
  | 0 => refuse
  | fuel + 1 => do
      if ← accept .documentEnd then documentEnds fuel

/-- Read the node of a document behind its start; it may be left out. -/
def content (fuel : Nat) : Reader Node := do
  match ← peek with
  | none
  | some (.directive _)
  | some .documentStart
  | some .documentEnd => return empty
  | _ => node fuel true false

/-- Read a text that has one document, or none. -/
def document (fuel : Nat) : Reader Node := do
  match ← peek with
  | none => return empty
  | some first => do
      let root ←
        match first with
        | .directive _
        | .documentStart => do
            directives fuel false []
            expect .documentStart
            content fuel
        | _ => node fuel true false
      documentEnds fuel
      if (← peek).isSome then refuse else return root

end Reader

/-- The node of a text; one without a document is empty. -/
def root (tokens : List Token) : Except Refusal Node :=
  let fuel := 3 * tokens.length + 3
  (Reader.document fuel).run' ⟨tokens, Reader.usualHandles, [], 0⟩

end QueryComposer.Yaml
