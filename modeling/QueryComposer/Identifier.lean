import QueryComposer.Error.Basic
import QueryComposer.Text.Blank
import QueryComposer.Text.Word

namespace QueryComposer.Identifier

/-!
# Quoted identifiers

A reference to a table or a column is a path of names separated by points, which a suffix such
as an alias or a direction may follow. `quote` writes every name of the path between delimiters
and leaves the wildcard, the points and the suffix as they are; everything else is refused.
-/

/-- Write a delimiter twice wherever it occurs; `pending` characters of an occurrence are left. -/
def escapeFrom
    (delimiter : List Char)
    (pending : Nat) :
    List Char →
    List Char
  | [] => []
  | c :: rest =>
      match pending with
      | left + 1 => c :: escapeFrom delimiter left rest
      | 0 =>
          if !delimiter.isEmpty && delimiter.isPrefixOf (c :: rest) then
            delimiter ++ c :: escapeFrom delimiter (delimiter.length - 1) rest
          else
            c :: escapeFrom delimiter 0 rest

/-- Put a name between delimiters, doubling the delimiters inside it. -/
def wrapChars
    (delimiter : List Char)
    (name : List Char) :
    List Char :=
  delimiter ++ escapeFrom delimiter 0 name ++ delimiter

/-- Put a name between delimiters, doubling the delimiters inside it. -/
def wrap
    (delimiter : String)
    (name : String) :
    String :=
  String.ofList (wrapChars delimiter.toList name.toList)

/-- A text that is a name as it stands. -/
def isPlain (s : List Char) : Bool :=
  !s.isEmpty && s.all Text.isWord

/-- A text that may follow a path. -/
def isSuffix (s : List Char) : Bool :=
  !s.isEmpty && s.all fun c => Text.isWord c || Text.isBlank c

/-- The pieces between the points of a text; there is always at least one. -/
def segments : List Char → List (List Char)
  | [] => [[]]
  | c :: rest =>
      match segments rest with
      | [] => [[c]]
      | first :: others => if c == '.' then [] :: first :: others else (c :: first) :: others

/-- A text has at least one piece. -/
theorem segments_ne_nil (s : List Char) : segments s ≠ [] := by
  cases s with
  | nil => simp [segments]
  | cons c rest =>
      unfold segments
      split
      · simp
      · split <;> simp

/-- Joining the pieces with points gives the text back. -/
theorem intercalate_segments (s : List Char) : ['.'].intercalate (segments s) = s := by
  induction s with
  | nil => rfl
  | cons c rest inductionHypothesis =>
      rcases shape : segments rest with _ | ⟨first, others⟩
      · exact absurd shape (segments_ne_nil rest)
      · rw [shape] at inductionHypothesis
        subst inductionHypothesis
        by_cases point : c = '.'
        · simp only [segments, shape, point]
          simp [List.intercalate]
        · simp only [segments, shape]
          cases others <;> simp [List.intercalate, point]

/-- Quote one piece of a path. -/
def quoteSegment
    (delimiter : List Char)
    (s : List Char) :
    Except Error (List Char) :=
  if isPlain s then
    .ok (wrapChars delimiter s)
  else if s == ['*'] then
    .ok s
  else if s.isEmpty then
    .error (.identifier (.notText (.text "")))
  else
    .error (.identifier (.malformed (String.ofList s)))

/-- Quote the pieces of a path from left to right. -/
def quotePath
    (delimiter : List Char)
    (s : List Char) :
    Except Error (List Char) := do
  let pieces ← (segments s).mapM (quoteSegment delimiter)
  return ['.'].intercalate pieces

/-- Quote a reference: a path, or a path, a blank and a suffix. -/
def quoteChars
    (delimiter : List Char)
    (s : List Char) :
    Except Error (List Char) := do
  let (name, suffix) := Text.firstWord s
  if suffix.isEmpty then
    quotePath delimiter s
  else if isSuffix suffix then
    return (← quotePath delimiter name) ++ ' ' :: suffix
  else
    throw (.identifier (.suffix (String.ofList s)))

/-- Quote a reference that is given as a text. -/
def quoteText
    (delimiter : String)
    (s : String) :
    Except Error String :=
  (quoteChars delimiter.toList s.toList).map String.ofList

/-- Quote a reference; only a text that is not empty can be one. -/
def quote
    (delimiter : String) :
    Value →
    Except Error String
  | .text s => quoteText delimiter s
  | value => .error (.identifier (.notText value))

end QueryComposer.Identifier
