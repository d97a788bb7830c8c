import QueryComposer.Yaml.Plain

namespace QueryComposer.Yaml

/-!
# Block scalars

A block scalar has its lines below its header, indented by more than what it belongs to. It is
literal, and keeps its line ends, or folded, and has a space in the place of a single one. The
header may say by how much the lines are indented, and what becomes of the last line end and of
the blank lines behind it.
-/

/-- What becomes of the line ends behind a block scalar. -/
inductive Chomping where
  /-- None of them belongs to the scalar. -/
  | strip
  /-- The first one belongs to the scalar. -/
  | clip
  /-- All of them belong to the scalar. -/
  | keep
  deriving Repr, DecidableEq

/-- The header of a block scalar. -/
structure BlockHeader where
  chomping : Chomping
  increment : Option Nat
  deriving Repr, DecidableEq

namespace BlockHeader

/-- What a sign says about the line ends. -/
def chomping? : Char → Option Chomping
  | '+' => some .keep
  | '-' => some .strip
  | _ => none

/-- The indentation that a digit gives; it cannot be zero. -/
def increment? (c : Char) : Option Nat :=
  if '1' ≤ c && c ≤ '9' then some (c.toNat - '0'.toNat) else none

/-- Read the sign and the digit of a header, in any order. -/
def read (p : Position) : BlockHeader × Position :=
  match p.rest with
  | [] => (⟨.clip, none⟩, p)
  | c :: rest =>
      match chomping? c, increment? c with
      | some chomping, _ =>
          match rest.head?.bind increment? with
          | some n => (⟨chomping, some n⟩, p.advance 2)
          | none => (⟨chomping, none⟩, p.next)
      | none, some n =>
          match rest.head?.bind chomping? with
          | some chomping => (⟨chomping, some n⟩, p.advance 2)
          | none => (⟨.clip, some n⟩, p.next)
      | none, none => (⟨.clip, none⟩, p)

end BlockHeader

/-- Skip blank lines and spaces, up to the first other character; the widest column counts. -/
def leadingLines :
    Nat →
    Position →
    List Char →
    Nat →
    List Char × Nat × Position
  | 0, p, breaks, widest => (breaks, widest, p)
  | fuel + 1, p, breaks, widest =>
      match p.rest with
      | [] => (breaks, widest, p)
      | c :: _ =>
          if c == ' ' then
            leadingLines fuel p.next breaks (max widest p.next.column)
          else if isBreak c then
            leadingLines fuel p.next (breaks ++ [foldedBreak c]) widest
          else
            (breaks, widest, p)

/-- Skip the indentation of a line. -/
def skipIndent
    (indent : Nat)
    (p : Position) :
    Position :=
  let spaces := (p.rest.takeWhile (· == ' ')).length
  p.advance (min spaces (indent - p.column))

/-- Skip blank lines and the indentation of the first other line. -/
def innerLines
    (indent : Nat) :
    Nat →
    Position →
    List Char →
    List Char × Position
  | 0, p, breaks => (breaks, p)
  | fuel + 1, p, breaks =>
      let q := skipIndent indent p
      match q.rest with
      | [] => (breaks, q)
      | c :: _ =>
          if isBreak c then
            innerLines indent fuel q.next (breaks ++ [foldedBreak c])
          else
            (breaks, q)

/-- A line starts with a blank. -/
def startsBlank (p : Position) : Bool :=
  match p.rest with
  | c :: _ => c == ' ' || c == '\t'
  | [] => false

/-- The lines of a block scalar: its text, the last line end, and the blank lines behind it. -/
structure BlockLines where
  text : List Char
  lineEnd : List Char
  blank : List Char
  after : Position

/-- Read the lines of a block scalar, from the given blank lines on. -/
def blockLines
    (folded : Bool)
    (indent : Nat) :
    Nat →
    BlockLines →
    BlockLines
  | 0, lines => lines
  | fuel + 1, lines =>
      let p := lines.after
      if p.column != indent || p.atEnd then
        lines
      else
        let line := p.rest.takeWhile (!isBreak ·)
        let q := p.advance line.length
        let lineEnd := (q.rest.head?.map foldedBreak).toList
        let (blank, r) := innerLines indent fuel q.next []
        let text := lines.text ++ lines.blank ++ line
        if r.column != indent || r.atEnd then
          ⟨text, lineEnd, blank, r⟩
        else if folded && lineEnd == ['\n'] && !startsBlank p && !startsBlank r then
          let space := if blank.isEmpty then [' '] else []
          blockLines folded indent fuel ⟨text ++ space, lineEnd, blank, r⟩
        else
          blockLines folded indent fuel ⟨text ++ lineEnd, lineEnd, blank, r⟩

/-- Read a block scalar behind its mark; what it belongs to has the given indentation. -/
def blockScalar?
    (folded : Bool)
    (outer : Int)
    (fuel : Nat)
    (p : Position) :
    Option ScannedScalar := do
  let (header, afterHeader) := BlockHeader.read p
  let separated := afterHeader.atLineEnd || afterHeader.rest.head? == some ' '
  let start ← if separated then afterHeader.restOfLine? else none
  let least := max 1 (outer + 1).toNat
  let (blank, indent, first) :=
    match header.increment with
    | some n =>
        let indent := least + n - 1
        let (blank, first) := innerLines indent fuel start []
        (blank, indent, first)
    | none =>
        let (blank, widest, first) := leadingLines fuel start [] 0
        (blank, max least widest, first)
  let lines := blockLines folded indent fuel ⟨[], [], blank, first⟩
  let ending :=
    match header.chomping with
    | .strip => []
    | .clip => lines.lineEnd
    | .keep => lines.lineEnd ++ lines.blank
  some ⟨lines.text ++ ending, lines.after, lines.after.line⟩

end QueryComposer.Yaml
