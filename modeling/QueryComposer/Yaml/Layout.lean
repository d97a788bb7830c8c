import QueryComposer.Yaml.Token

namespace QueryComposer.Yaml

/-!
# From text to tokens

A text is read token by token. Outside of flow collections the column of a token tells which
block collections it ends, and whether it starts one.

Only the colon behind a scalar, an alias or a flow collection tells that it is a key. The places
where a key may have started are kept, therefore, and the tokens of the key and of the mapping
that it starts are inserted there once the colon is found. A key is on one line with its colon,
and at most `maxKeyLength` characters lie between.
-/

/-- A place where a key may have started. -/
structure KeyPlace where
  position : Position
  /-- The number of tokens before the place. -/
  before : Nat
  /-- No other token can stand there. -/
  required : Bool
  deriving Repr

/-- The tokens of the start of a text, and what tells how it may go on. -/
structure Layout where
  position : Position
  /-- The tokens in reverse order. -/
  tokens : List Token
  count : Nat
  /-- The columns of the block collections, the innermost first. -/
  indents : List Nat
  /-- The place where a key of the innermost flow collection, or outside of them, may start. -/
  key : Option KeyPlace
  /-- The same for the levels around it, and nothing outside of flow collections. -/
  outer : List (Option KeyPlace)
  /-- A key may start here. -/
  keyAllowed : Bool
  deriving Repr

/-- The number of characters that a key may have. -/
def maxKeyLength : Nat :=
  1024

namespace KeyPlace

/-- The colon of the key can no longer follow. -/
def isStale
    (position : Position)
    (place : KeyPlace) :
    Bool :=
  place.position.line != position.line || maxKeyLength < position.offset - place.position.offset

end KeyPlace

namespace Layout

/-- The start of a text. -/
def start (text : List Char) : Layout :=
  ⟨.start text, [], 0, [], none, [], true⟩

/-- The position is inside a flow collection. -/
def inFlow (s : Layout) : Bool :=
  !s.outer.isEmpty

/-- The column of the innermost block collection. -/
def indent (s : Layout) : Int :=
  match s.indents with
  | [] => -1
  | column :: _ => column

/-- Insert a token behind the given number of tokens. -/
def insert
    (before : Nat)
    (token : Token)
    (s : Layout) :
    Layout :=
  let later := s.count - before
  { s with
    tokens := s.tokens.take later ++ token :: s.tokens.drop later
    count := s.count + 1 }

/-- Add a token. -/
def push
    (token : Token)
    (s : Layout) :
    Layout :=
  { s with tokens := token :: s.tokens, count := s.count + 1 }

/-- Add a token that consists of the given number of characters. -/
def pushMark
    (width : Nat)
    (token : Token)
    (s : Layout) :
    Layout :=
  { s.push token with position := s.position.advance width }

/-! ## Block collections -/

/-- End the block collections that are indented by more than a column. -/
def unwind
    (column : Int)
    (s : Layout) :
    Layout :=
  if s.inFlow then
    s
  else
    let ended := s.indents.takeWhile fun (indent : Nat) => column < indent
    { s with
      indents := s.indents.drop ended.length
      tokens := ended.map (fun _ => .blockEnd) ++ s.tokens
      count := s.count + ended.length }

/-- Start a block collection at a column, behind some tokens, if none is there. -/
def openBlock
    (column before : Nat)
    (token : Token)
    (s : Layout) :
    Layout :=
  if s.indent < column then
    { s.insert before token with indents := column :: s.indents }
  else
    s

/-! ## Keys -/

/-- Forget a place at which a key may have started; a key that is required cannot be left out. -/
def checkForgotten (place : Option KeyPlace) : Except Refusal Unit :=
  match place with
  | some place => if place.required then .error .malformed else .ok ()
  | none => .ok ()

/-- Forget the key of this level. -/
def forgetKey (s : Layout) : Except Refusal Layout := do
  checkForgotten s.key
  return { s with key := none }

/-- A key may start here, if one is allowed. -/
def markKey (s : Layout) : Except Refusal Layout := do
  if s.keyAllowed then
    checkForgotten s.key
    let required := !s.inFlow && s.indent == s.position.column
    return { s with key := some ⟨s.position, s.count, required⟩ }
  else
    return s

/-- A place, unless it is stale. -/
def freshPlace
    (position : Position)
    (place : Option KeyPlace) :
    Except Refusal (Option KeyPlace) := do
  if (place.map (KeyPlace.isStale position)).getD false then
    checkForgotten place
    return none
  else
    return place

/-- Forget the stale keys of all levels. -/
def forgetStale (s : Layout) : Except Refusal Layout := do
  return { s with
    key := ← freshPlace s.position s.key
    outer := ← s.outer.mapM (freshPlace s.position) }

/-- The number of tokens before the first place where a key may have started. -/
def firstPlace (s : Layout) : Nat :=
  ((s.key :: s.outer).filterMap fun place => place.map KeyPlace.before).foldl min s.count

/-! ## Tokens -/

/-- A directive, or the start or the end of a document: all block collections end. -/
def closeAll (s : Layout) : Except Refusal Layout := do
  let s ← (s.unwind (-1)).forgetKey
  return { s with keyAllowed := false }

/-- Read a directive. -/
def readDirective
    (fuel : Nat)
    (s : Layout) :
    Except Refusal Layout := do
  let s ← s.closeAll
  match Directive.read? fuel s.position.next with
  | some (directive, position) => return { s.push (.directive directive) with position := position }
  | none => .error .malformed

/-- Read the bracket or the brace that starts a flow collection. -/
def readFlowStart
    (token : Token)
    (s : Layout) :
    Except Refusal Layout := do
  let s ← s.markKey
  return { s.pushMark 1 token with key := none, outer := s.key :: s.outer, keyAllowed := true }

/-- Read the bracket or the brace that ends a flow collection. -/
def readFlowEnd
    (token : Token)
    (s : Layout) :
    Except Refusal Layout := do
  let s ← s.forgetKey
  match s.outer with
  | [] => .error .malformed
  | key :: outer =>
      return { s.pushMark 1 token with key := key, outer := outer, keyAllowed := false }

/-- Read a mark, a new block collection before it unless one is there. -/
def readBlockMark
    (collection mark : Token)
    (s : Layout) :
    Except Refusal Layout := do
  let opened ←
    if s.inFlow then
      pure s
    else if s.keyAllowed then
      pure (s.openBlock s.position.column s.count collection)
    else
      .error .malformed
  let opened ← opened.forgetKey
  return opened.pushMark 1 mark

/-- Read the mark of an item. -/
def readItem (s : Layout) : Except Refusal Layout := do
  let s ← s.readBlockMark .blockSequence .item
  return { s with keyAllowed := true }

/-- Read the mark of a key. -/
def readKey (s : Layout) : Except Refusal Layout := do
  let s ← s.readBlockMark .blockMapping .key
  return { s with keyAllowed := !s.inFlow }

/-- Read a colon: what may be a key before it is one. -/
def readValue (s : Layout) : Except Refusal Layout := do
  match s.key with
  | some place =>
      let keyed := { s with key := none, keyAllowed := false }.insert place.before .key
      let opened :=
        if s.inFlow then
          keyed
        else
          keyed.openBlock place.position.column place.before .blockMapping
      return opened.pushMark 1 .value
  | none =>
      let s ← s.readBlockMark .blockMapping .value
      return { s with keyAllowed := !s.inFlow }

/-- Add the token of a node, which ends at a position. -/
def pushNode
    (token : Token)
    (after : Position)
    (s : Layout) :
    Layout :=
  { s.push token with position := after, keyAllowed := false }

/-- Read an alias or an anchor. -/
def readName
    (token : String → Token)
    (s : Layout) :
    Except Refusal Layout := do
  let s ← s.markKey
  match anchorName? s.position.next with
  | some (name, after) => return s.pushNode (token name) after
  | none => .error .malformed

/-- Read a tag. -/
def readTag
    (fuel : Nat)
    (s : Layout) :
    Except Refusal Layout := do
  let s ← s.markKey
  match tagMark? fuel s.position with
  | some (mark, after) => return s.pushNode (.tag mark) after
  | none => .error .malformed

/-- Read a scalar between quotes. -/
def readQuoted
    (double : Bool)
    (fuel : Nat)
    (s : Layout) :
    Except Refusal Layout := do
  let s ← s.markKey
  let (text, after) ←
    if double then
      doubleQuoted fuel s.position.next []
    else
      singleQuoted fuel s.position.next []
  return s.pushNode (.scalar false (String.ofList text)) after

/-- Read a block scalar; a key may start behind it. -/
def readBlockScalar
    (folded : Bool)
    (fuel : Nat)
    (s : Layout) :
    Except Refusal Layout := do
  let s ← s.forgetKey
  match blockScalar? folded s.indent fuel s.position.next with
  | some scanned =>
      let token := .scalar false (String.ofList scanned.text)
      return { s.pushNode token scanned.after with keyAllowed := true }
  | none => .error .malformed

/-- Read a plain scalar; a key may start in the line behind it. -/
def readPlain
    (fuel : Nat)
    (s : Layout) :
    Except Refusal Layout := do
  let s ← s.markKey
  let scanned := plainScalar s.inFlow s.indent fuel s.position
  let token := .scalar true (String.ofList scanned.text)
  return { s.pushNode token scanned.after with
    keyAllowed := scanned.lastLine < scanned.after.line }

/-- Read the token that starts with a character, which is at the position. -/
def readToken
    (fuel : Nat)
    (c : Char)
    (s : Layout) :
    Except Refusal Layout :=
  let p := s.position
  let marked := s.inFlow || p.atIndicator c
  if c == '%' && p.column == 0 then
    s.readDirective fuel
  else if p.atMark '-' then do
    return (← s.closeAll).pushMark 3 .documentStart
  else if p.atMark '.' then do
    return (← s.closeAll).pushMark 3 .documentEnd
  else if c == '[' then
    s.readFlowStart .flowSequence
  else if c == '\x7b' then
    s.readFlowStart .flowMapping
  else if c == ']' then
    s.readFlowEnd .flowSequenceEnd
  else if c == '\x7d' then
    s.readFlowEnd .flowMappingEnd
  else if c == ',' then do
    return { (← s.forgetKey).pushMark 1 .comma with keyAllowed := true }
  else if c == '-' && p.atIndicator '-' then
    s.readItem
  else if c == '?' && marked then
    s.readKey
  else if c == ':' && marked then
    s.readValue
  else if c == '*' then
    s.readName .alias
  else if c == '&' then
    s.readName .anchor
  else if c == '!' then
    s.readTag fuel
  else if (c == '|' || c == '>') && !s.inFlow then
    s.readBlockScalar (c == '>') fuel
  else if c == '"' || c.toNat == 39 then
    s.readQuoted (c == '"') fuel
  else if startsPlain s.inFlow p.rest then
    s.readPlain fuel
  else
    .error .malformed

/-- Skip to the next token; a key may start in a new line. -/
def skip (s : Layout) : Layout :=
  let p := s.position.skip
  let newLine := s.position.line < p.line
  { s with position := p, keyAllowed := s.keyAllowed || (newLine && !s.inFlow) }

/-- Read the next token, if there is one. -/
def readNext
    (fuel : Nat)
    (s : Layout) :
    Except Refusal (Bool × Layout) := do
  let s ← s.skip.forgetStale
  match s.position.rest with
  | [] => return (false, ← s.closeAll)
  | c :: _ => return (true, ← (s.unwind s.position.column).readToken fuel c)

/-- All tokens of a text; the reason why there are no more stands behind the first key place. -/
def readAll :
    Nat →
    Layout →
    List Token
  | 0, s => s.tokens.reverse
  | fuel + 1, s =>
      match s.forgetStale with
      | .error reason => (s.push (.broken reason)).tokens.reverse
      | .ok s =>
          match s.readNext fuel with
          | .error reason => (s.insert s.firstPlace (.broken reason)).tokens.reverse
          | .ok (true, s) => readAll fuel s
          | .ok (false, s) => s.tokens.reverse

end Layout

/-- The tokens of a text. -/
def tokens (text : List Char) : List Token :=
  Layout.readAll (text.length + 2) (.start text)

end QueryComposer.Yaml
