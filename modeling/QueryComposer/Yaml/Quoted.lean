import QueryComposer.Yaml.Number
import QueryComposer.Yaml.Plain
import QueryComposer.Yaml.Position

namespace QueryComposer.Yaml

/-!
# Quoted scalars

A scalar between single quotes writes a quote twice and has no escapes; one between double
quotes has escapes that start with a backslash. Blanks around a line end are dropped in both.

The escapes of a high and a low surrogate that stand side by side are one character. A surrogate
that stands alone is written as the replacement character.
-/

/-- The lines at a line end inside quotes: blanks around them are dropped. -/
def quotedBreaks :
    Nat →
    Position →
    List Char →
    Option (List Char × Position)
  | 0, _, _ => none
  | fuel + 1, p, breaks =>
      if p.atDocumentMark then
        none
      else
        let p := p.skipWhile fun c => c == ' ' || c == '\t'
        match p.rest with
        | c :: _ =>
            if isBreak c then
              quotedBreaks fuel p.next (breaks ++ [foldedBreak c])
            else
              some (breaks, p)
        | [] => some (breaks, p)

/-- Blanks inside quotes, folded if a line ends in them. -/
def quotedSpaces
    (fuel : Nat)
    (p : Position) :
    Option (List Char × Position) :=
  let blanks := p.rest.takeWhile fun c => c == ' ' || c == '\t'
  let q := p.advance blanks.length
  match q.rest with
  | c :: _ =>
      if isBreak c then do
        let (breaks, r) ← quotedBreaks fuel q.next []
        some (foldBreaks (foldedBreak c) breaks, r)
      else
        some (blanks, q)
  | [] => none

/-- The character that a letter stands for after a backslash. -/
def escape? : Char → Option Nat
  | '0' => some 0
  | 'a' => some 7
  | 'b' => some 8
  | 't' => some 9
  | '\t' => some 9
  | 'n' => some 10
  | 'v' => some 11
  | 'f' => some 12
  | 'r' => some 13
  | 'e' => some 27
  | ' ' => some 32
  | '"' => some 34
  | '\\' => some 92
  | '/' => some 47
  | 'N' => some 0x85
  | '_' => some 0xA0
  | 'L' => some 0x2028
  | 'P' => some 0x2029
  | _ => none

/-- The number of hexadecimal digits that a letter asks for after a backslash. -/
def escapeWidth? : Char → Option Nat
  | 'x' => some 2
  | 'u' => some 4
  | 'U' => some 8
  | _ => none

/-- The code that a letter and hexadecimal digits stand for, and their number. -/
def escapedCode? : List Char → Option (Nat × Nat)
  | [] => none
  | letter :: rest => do
      let width ← escapeWidth? letter
      let digits ← if width ≤ rest.length then (rest.take width).mapM digitValue? else none
      some (digits.foldl (fun n d => 16 * n + d) 0, width + 1)

/-- The code of a high surrogate. -/
def isHighSurrogate (code : Nat) : Bool :=
  0xD800 ≤ code && code < 0xDC00

/-- The code of a low surrogate. -/
def isLowSurrogate (code : Nat) : Bool :=
  0xDC00 ≤ code && code < 0xE000

/-- The character of a code; a surrogate has none of its own. -/
def characterOf (code : Nat) : Char :=
  if isHighSurrogate code || isLowSurrogate code then
    Char.ofNat 0xFFFD
  else
    Char.ofNat code

/-- The character of an escape behind a backslash, and the number of its characters. -/
def escapedCharacter? (s : List Char) : Option (Nat × Nat) := do
  let (code, length) ← escapedCode? s
  match s.drop length with
  | '\\' :: rest =>
      match escapedCode? rest with
      | some (low, lowLength) =>
          if isHighSurrogate code && isLowSurrogate low then
            some (0x10000 + 0x400 * (code - 0xD800) + (low - 0xDC00), length + 1 + lowLength)
          else
            some (code, length)
      | none => some (code, length)
  | _ => some (code, length)

/-- The number of codes of characters. -/
def codeBound : Nat :=
  0x110000

/-- Read a scalar between double quotes, behind the first of them. -/
def doubleQuoted :
    Nat →
    Position →
    List Char →
    Except Refusal (List Char × Position)
  | 0, _, _ => .error .malformed
  | fuel + 1, p, read =>
      match p.rest with
      | [] => .error .malformed
      | '"' :: _ => .ok (read.reverse, p.next)
      | '\\' :: c :: rest =>
          if isBreak c then
            match quotedBreaks fuel (p.advance 2) [] with
            | some (breaks, q) => doubleQuoted fuel q (breaks.reverse ++ read)
            | none => .error .malformed
          else if let some code := escape? c then
            doubleQuoted fuel (p.advance 2) (Char.ofNat code :: read)
          else if let some (code, length) := escapedCharacter? (c :: rest) then
            if code < codeBound then
              doubleQuoted fuel (p.advance (1 + length)) (characterOf code :: read)
            else
              .error (.noCharacter code)
          else
            .error .malformed
      | c :: _ =>
          if isSeparator c then
            match quotedSpaces fuel p with
            | some (blanks, q) => doubleQuoted fuel q (blanks.reverse ++ read)
            | none => .error .malformed
          else
            doubleQuoted fuel p.next (c :: read)

/-- Read a scalar between single quotes, behind the first of them. -/
def singleQuoted :
    Nat →
    Position →
    List Char →
    Except Refusal (List Char × Position)
  | 0, _, _ => .error .malformed
  | fuel + 1, p, read =>
      match p.rest with
      | [] => .error .malformed
      | c :: rest =>
          if c.toNat == 39 then
            if (rest.head?.map Char.toNat) == some 39 then
              singleQuoted fuel (p.advance 2) (c :: read)
            else
              .ok (read.reverse, p.next)
          else if isSeparator c then
            match quotedSpaces fuel p with
            | some (blanks, q) => singleQuoted fuel q (blanks.reverse ++ read)
            | none => .error .malformed
          else
            singleQuoted fuel p.next (c :: read)

end QueryComposer.Yaml
