namespace QueryComposer.Yaml

/-!
# Positions in a document

A position is what is left of a text together with the line, the column and the number of
characters before it. Indentation gives the structure of block collections, and a key has to be
on one line with its colon and close to it; both are told from positions.

A text may be no document, or one that is nested too deeply, and a document may hold a scalar
that is not of the type that its tag asks for. A refusal says which of these is the case.
-/

/-- Why a text gives no value. -/
inductive Refusal where
  /-- The text is no document, or one that has no meaning. -/
  | malformed
  /-- Collections are nested in one another beyond the depth that is read. -/
  | tooDeep
  /-- An escape has a code that is the code of no character. -/
  | noCharacter (code : Nat)
  /-- A scalar is to be a number or a day, and is none. -/
  | noNumber
  /-- A scalar is to be a number, and is empty behind its sign. -/
  | noDigits
  /-- A scalar is to be a truth value, and is none. -/
  | noTruth
  /-- A scalar is to be a time stamp, and is none. -/
  | noStamp
  deriving Repr, DecidableEq

/-- A place in a text: what follows it, and where it is. -/
structure Position where
  rest : List Char
  line : Nat
  column : Nat
  offset : Nat
  deriving Repr

/-- A character that ends a line. -/
def isBreak (c : Char) : Bool :=
  c == '\n' || c == '\r' || c.toNat == 0x85 || c.toNat == 0x2028 || c.toNat == 0x2029

/-- The mark of the order of octets, which takes no place in a line. -/
def isByteOrderMark (c : Char) : Bool :=
  c.toNat == 0xFEFF

/-- A character that ends a word. -/
def isSeparator (c : Char) : Bool :=
  c == ' ' || c == '\t' || isBreak c

/-- The text is at its end or goes on with a separator. -/
def startsSeparated : List Char → Bool
  | [] => true
  | c :: _ => isSeparator c

/-- A character that has a meaning inside flow collections. -/
def isFlowMark (c : Char) : Bool :=
  ",[]\x7b\x7d".toList.contains c

/-- A character that cannot start a plain scalar by itself. -/
def isIndicator (c : Char) : Bool :=
  "-?:,[]\x7b\x7d#&*!|>'\"%@`".toList.contains c

/-- A character that may occur in a document. -/
def isAllowed (c : Char) : Bool :=
  let n := c.toNat
  n == 9 || n == 10 || n == 13 || (0x20 ≤ n && n ≤ 0x7E) || n == 0x85 ||
    (0xA0 ≤ n && n ≤ 0xD7FF) || (0xE000 ≤ n && n ≤ 0xFFFD) || 0x10000 ≤ n

/-- Write every line end as one line feed. -/
def normalizeBreaks : List Char → List Char
  | '\r' :: '\n' :: rest => '\n' :: normalizeBreaks rest
  | '\r' :: rest => '\n' :: normalizeBreaks rest
  | c :: rest => c :: normalizeBreaks rest
  | [] => []

/-- The line end that a character is folded to. -/
def foldedBreak (c : Char) : Char :=
  if c.toNat == 0x2028 || c.toNat == 0x2029 then c else '\n'

namespace Position

/-- The start of a text. -/
def start (text : List Char) : Position :=
  ⟨text, 0, 0, 0⟩

/-- Nothing is left. -/
def atEnd (p : Position) : Bool :=
  p.rest.isEmpty

/-- The position after one character. -/
def next (p : Position) : Position :=
  match p.rest with
  | [] => p
  | c :: rest =>
      if isBreak c then
        ⟨rest, p.line + 1, 0, p.offset + 1⟩
      else if isByteOrderMark c then
        ⟨rest, p.line, p.column, p.offset + 1⟩
      else
        ⟨rest, p.line, p.column + 1, p.offset + 1⟩

/-- The position after some characters. -/
def advance : Nat → Position → Position
  | 0, p => p
  | n + 1, p => advance n p.next

/-- The position after all characters at the start that satisfy a condition. -/
def skipWhile
    (condition : Char → Bool)
    (p : Position) :
    Position :=
  p.advance (p.rest.takeWhile condition).length

/-- A document mark of three given characters stands at the start of a line. -/
def atMark
    (c : Char)
    (p : Position) :
    Bool :=
  p.column == 0 && [c, c, c].isPrefixOf p.rest && startsSeparated (p.rest.drop 3)

/-- A mark that starts or ends a document stands here. -/
def atDocumentMark (p : Position) : Bool :=
  p.atMark '-' || p.atMark '.'

/-- A mark character that a separator follows stands here. -/
def atIndicator
    (c : Char)
    (p : Position) :
    Bool :=
  match p.rest with
  | d :: rest => d == c && startsSeparated rest
  | [] => false

/-- The number of spaces, comments and line ends at the start of a text, maybe in a comment. -/
def blankLength
    (inComment : Bool) :
    List Char →
    Nat
  | [] => 0
  | c :: rest =>
      if isBreak c then
        blankLength false rest + 1
      else if inComment || c == '#' then
        blankLength true rest + 1
      else if c == ' ' then
        blankLength false rest + 1
      else
        0

/-- Skip to the next word. -/
def skip (p : Position) : Position :=
  p.advance (blankLength false p.rest)

/-- A line end or the end of the text stands here. -/
def atLineEnd (p : Position) : Bool :=
  match p.rest with
  | [] => true
  | c :: _ => isBreak c

/-- Skip the rest of a line behind its content, which spaces and a comment may follow. -/
def restOfLine? (p : Position) : Option Position :=
  let q := p.skipWhile (· == ' ')
  let q := if q.rest.head? == some '#' then q.skipWhile (!isBreak ·) else q
  if q.atLineEnd then some q.next else none

end Position

end QueryComposer.Yaml
