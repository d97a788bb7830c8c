import QueryComposer.Yaml.Number
import QueryComposer.Yaml.Position

namespace QueryComposer.Yaml

/-!
# Node properties

A node may have an anchor, by which aliases refer to it, and a tag, which says what type its
value has. A tag has a handle that stands for the start of a name, or is given in full.
-/

/-- A tag as it is written: its handle, if it has one, and the rest. -/
structure TagMark where
  handle : Option String
  suffix : String
  deriving Repr, DecidableEq

/-- A character of the names of anchors, handles and directives. -/
def isNameCharacter (c : Char) : Bool :=
  c.isAlphanum || c == '-' || c == '_'

/-- A character of the name of a tag. -/
def isTagCharacter (c : Char) : Bool :=
  c.isAlphanum || "-;/?:@&=+$,_.!~*'()[]%".toList.contains c

/-- The text goes on with a line end or a space, or is at its end. -/
def endsTag (p : Position) : Bool :=
  p.atLineEnd || p.rest.head? == some ' '

/-- The text goes on with a character that may follow the name of an anchor. -/
def endsAnchor (p : Position) : Bool :=
  match p.rest with
  | [] => true
  | c :: _ => isSeparator c || "?:,]\x7d%@`".toList.contains c

/-- Read the name of an anchor or of an alias, behind its mark. -/
def anchorName? (p : Position) : Option (String × Position) :=
  let name := p.rest.takeWhile isNameCharacter
  let q := p.advance name.length
  if !name.isEmpty && endsAnchor q then some (String.ofList name, q) else none

/-- The octets of a run of escapes, each of which is a percent sign and two digits. -/
def escapedOctets? : List Char → Option (List UInt8)
  | '%' :: high :: low :: rest => do
      let h ← digitValue? high
      let l ← digitValue? low
      let octets ← escapedOctets? rest
      some (UInt8.ofNat (16 * h + l) :: octets)
  | '%' :: _ => none
  | _ => some []

/-- The name of a tag, with its escapes replaced by the characters that they stand for. -/
def tagName? :
    Nat →
    Position →
    List Char →
    Option (List Char × Position)
  | 0, _, _ => none
  | fuel + 1, p, read =>
      match p.rest with
      | [] => some (read, p)
      | c :: _ =>
          if c == '%' then do
            let octets ← escapedOctets? p.rest
            let text ← String.fromUTF8? ⟨octets.toArray⟩
            tagName? fuel (p.advance (3 * octets.length)) (read ++ text.toList)
          else if isTagCharacter c then
            tagName? fuel p.next (read ++ [c])
          else
            some (read, p)

/-- The name of a tag, which cannot be empty. -/
def solidTagName?
    (fuel : Nat)
    (p : Position) :
    Option (String × Position) := do
  let (name, q) ← tagName? fuel p []
  if q.offset == p.offset then none else some (String.ofList name, q)

/-- A handle: an exclamation mark alone before a space, or two of them with a name between them. -/
def tagHandle? (p : Position) : Option (String × Position) :=
  match p.rest with
  | '!' :: ' ' :: _ => some ("!", p.next)
  | '!' :: rest =>
      let name := rest.takeWhile isNameCharacter
      if (rest.drop name.length).head? == some '!' then
        some ("!" ++ String.ofList name ++ "!", p.advance (name.length + 2))
      else
        none
  | _ => none

/-- A tag between angle brackets is given in full. -/
def fullTag?
    (fuel : Nat)
    (p : Position) :
    Option (TagMark × Position) := do
  let (name, q) ← solidTagName? fuel p
  if q.rest.head? == some '>' then some (⟨none, name⟩, q.next) else none

/-- A tag that starts with a handle; without a second exclamation mark the first one is it. -/
def shortTag?
    (fuel : Nat)
    (p : Position) :
    Option (TagMark × Position) := do
  let word := (p.rest.drop 1).takeWhile fun c => c != ' ' && !isBreak c
  let (handle, q) ← if word.contains '!' then tagHandle? p else some ("!", p.next)
  let (suffix, r) ← solidTagName? fuel q
  some (⟨some handle, suffix⟩, r)

/-- Read a tag. -/
def tagMark?
    (fuel : Nat)
    (p : Position) :
    Option (TagMark × Position) := do
  let (mark, q) ←
    match p.rest.drop 1 with
    | '<' :: _ => fullTag? fuel (p.advance 2)
    | rest => if startsSeparated rest then some (⟨none, "!"⟩, p.next) else shortTag? fuel p
  if endsTag q then some (mark, q) else none

end QueryComposer.Yaml
