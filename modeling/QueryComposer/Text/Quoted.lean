import QueryComposer.Text.Printable

namespace QueryComposer.Text

/-!
# Quoted texts

A message shows a text between quotes: single ones, unless the text holds a single quote and no
double one. The backslash, the quote in use and the characters that are not printable are
escaped.
-/

/-- The single quote. -/
def singleQuote : Char :=
  Char.ofNat 39

/-- The double quote. -/
def doubleQuote : Char :=
  Char.ofNat 34

/-- A number in hexadecimal, with at least the given number of lower-case digits. -/
def hexadecimal
    (width : Nat)
    (n : Nat) :
    List Char :=
  let digits := Nat.toDigits 16 n
  List.replicate (width - digits.length) '0' ++ digits

/-- How one character is written between quotes of the given kind. -/
def quotedChar
    (quote : Char)
    (c : Char) :
    List Char :=
  if c == quote || c == '\\' then
    ['\\', c]
  else if c == '\n' then
    ['\\', 'n']
  else if c == '\r' then
    ['\\', 'r']
  else if c == '\t' then
    ['\\', 't']
  else if isPrintable c then
    [c]
  else if c.toNat < 0x100 then
    '\\' :: 'x' :: hexadecimal 2 c.toNat
  else if c.toNat < 0x10000 then
    '\\' :: 'u' :: hexadecimal 4 c.toNat
  else
    '\\' :: 'U' :: hexadecimal 8 c.toNat

/-- The quote that goes around a text. -/
def enclosingQuote (s : List Char) : Char :=
  if s.contains singleQuote && !s.contains doubleQuote then
    doubleQuote
  else
    singleQuote

/-- A text as a message shows it. -/
def quoted (s : String) : String :=
  let quote := enclosingQuote s.toList
  String.ofList ([quote] ++ s.toList.flatMap (quotedChar quote) ++ [quote])

/-- How one octet is written between quotes of the given kind. -/
def quotedOctet
    (quote : Char)
    (octet : UInt8) :
    List Char :=
  let c := Char.ofNat octet.toNat
  if octet.toNat < 128 then
    quotedChar quote c
  else
    '\\' :: 'x' :: hexadecimal 2 octet.toNat

/-- A string of octets as a message shows it. -/
def quotedOctets (octets : List UInt8) : String :=
  let quote := enclosingQuote (octets.map fun octet => Char.ofNat octet.toNat)
  String.ofList (['b', quote] ++ octets.flatMap (quotedOctet quote) ++ [quote])

end QueryComposer.Text
