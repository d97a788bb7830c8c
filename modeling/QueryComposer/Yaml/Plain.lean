import QueryComposer.Yaml.Position

namespace QueryComposer.Yaml

/-!
# Plain scalars in a document

A plain scalar has no quotes. It ends before a comment, a colon or, in a flow collection, a
mark, and may go on in further lines: one line end inside it is a space, more are line ends.

Each function takes `fuel`, which the length of the text bounds.
-/

/-- A scalar that was read, and the position behind it. -/
structure ScannedScalar where
  text : List Char
  after : Position
  /-- The line in which the scalar ends; blank lines may follow it. -/
  lastLine : Nat

/-- The characters of a plain scalar up to the next separator or mark. -/
def plainChunk
    (flow : Bool) :
    List Char →
    List Char
  | [] => []
  | c :: rest =>
      let colonEnds := c == ':' &&
        (startsSeparated rest || (flow && (rest.head?.map isFlowMark).getD false))
      if isSeparator c || colonEnds || (flow && (isFlowMark c || c == '?')) then
        []
      else
        c :: plainChunk flow rest

/-- Collect the blank lines after a line end; a document mark stops the collection. -/
def blankLines :
    Nat →
    Position →
    List Char →
    Bool × List Char × Position
  | 0, p, breaks => (false, breaks, p)
  | fuel + 1, p, breaks =>
      match p.rest with
      | ' ' :: _ => blankLines fuel p.next breaks
      | c :: _ =>
          if isBreak c then
            let p := p.next
            let breaks := breaks ++ [foldedBreak c]
            if p.atDocumentMark then (true, breaks, p) else blankLines fuel p breaks
          else
            (false, breaks, p)
      | [] => (false, breaks, p)

/-- A line end and the blank lines after it: one line end becomes a space, more become line ends. -/
def foldBreaks
    (lineEnd : Char)
    (breaks : List Char) :
    List Char :=
  (if lineEnd != '\n' then [lineEnd] else if breaks.isEmpty then [' '] else []) ++ breaks

/-- The blanks inside a plain scalar, as they are written in it; nothing if the scalar ends. -/
def plainSpaces
    (fuel : Nat)
    (p : Position) :
    List Char × Position :=
  let blanks := p.rest.takeWhile (· == ' ')
  let q := p.advance blanks.length
  match q.rest with
  | c :: _ =>
      if isBreak c then
        let after := q.next
        if after.atDocumentMark then
          ([], after)
        else
          let (marked, breaks, r) := blankLines fuel after []
          (if marked then [] else foldBreaks (foldedBreak c) breaks, r)
      else
        (blanks, q)
  | [] => (blanks, q)

/-- Read a plain scalar whose further lines are indented by more than `indent`. -/
def plainFrom
    (flow : Bool)
    (indent : Int) :
    Nat →
    Position →
    List Char →
    ScannedScalar →
    ScannedScalar
  | 0, _, _, scanned => scanned
  | fuel + 1, p, spaces, scanned =>
      let chunk := if p.rest.head? == some '#' then [] else plainChunk flow p.rest
      if chunk.isEmpty then
        { scanned with after := p }
      else
        let (blanks, q) := plainSpaces fuel (p.advance chunk.length)
        let scanned := ⟨scanned.text ++ spaces ++ chunk, q, p.line⟩
        let outdented := !flow && (q.column : Int) < indent + 1
        if blanks.isEmpty || q.rest.head? == some '#' || outdented then
          scanned
        else
          plainFrom flow indent fuel q blanks scanned

/-- A plain scalar can start here. -/
def startsPlain
    (flow : Bool) :
    List Char →
    Bool
  | [] => false
  | c :: rest =>
      if isSeparator c then
        false
      else if isIndicator c then
        !startsSeparated rest && (c == '-' || (!flow && (c == '?' || c == ':')))
      else
        true

/-- Read a plain scalar. -/
def plainScalar
    (flow : Bool)
    (indent : Int)
    (fuel : Nat)
    (p : Position) :
    ScannedScalar :=
  plainFrom flow indent fuel p [] ⟨[], p, p.line⟩

end QueryComposer.Yaml
