import QueryComposer.Error.Cause

namespace QueryComposer

/-!
# Placeholder styles

Statements are composed with question marks. A driver of the format style wants `%s` in their
place and every percent sign doubled. Question marks inside quotes are no placeholders, and a
text without any placeholder is left as it is, since its percent signs may belong to named
parameters.

A statement is a text as a rule. One that is a collection of texts is read as if its members were
characters.
-/

/-- The placeholders that a driver expects. -/
inductive ParamStyle where
  | qmark
  | format
  deriving Repr, DecidableEq

namespace ParamStyle

/-- The name of a style. -/
def name : ParamStyle → String
  | .qmark => "qmark"
  | .format => "format"

end ParamStyle

namespace Placeholder

/-- A character that opens a quoted region, which the next such character closes. -/
def isQuote (c : Char) : Bool :=
  "'\"`".toList.contains c

/-- The open quote after a character, given the open quote before it. -/
def nextQuote
    (quote : Option Char)
    (c : Char) :
    Option Char :=
  match quote with
  | some q => if c == q then none else some q
  | none => if isQuote c then some c else none

/-- The open quote after a text, given the open quote before it. -/
def quoteAfter
    (quote : Option Char)
    (s : List Char) :
    Option Char :=
  s.foldl nextQuote quote

/-- The number of question marks outside quotes, given the open quote. -/
def countFrom
    (quote : Option Char) :
    List Char →
    Nat
  | [] => 0
  | c :: rest =>
      (if quote.isNone && c == '?' then 1 else 0) + countFrom (nextQuote quote c) rest

/-- The second of two texts is counted with the quote that the first one leaves open. -/
theorem countFrom_append
    (quote : Option Char)
    (first second : List Char) :
    countFrom quote (first ++ second) =
      countFrom quote first + countFrom (quoteAfter quote first) second := by
  induction first generalizing quote with
  | nil => simp [countFrom, quoteAfter]
  | cons c rest inductionHypothesis =>
      simp [countFrom, quoteAfter, inductionHypothesis, Nat.add_assoc]

/-- The number of placeholders of a text. -/
def count (sql : List Char) : Nat :=
  countFrom none sql

/-- Write a text in the format style, given the open quote. -/
def formatFrom
    (quote : Option Char) :
    List Char →
    List Char
  | [] => []
  | c :: rest =>
      (if quote.isNone && c == '?' then
          ['%', 's']
        else if c == '%' then
          ['%', '%']
        else
          [c]) ++ formatFrom (nextQuote quote c) rest

/-- The second of two texts is written with the quote that the first one leaves open. -/
theorem formatFrom_append
    (quote : Option Char)
    (first second : List Char) :
    formatFrom quote (first ++ second) =
      formatFrom quote first ++ formatFrom (quoteAfter quote first) second := by
  induction first generalizing quote with
  | nil => simp [formatFrom, quoteAfter]
  | cons c rest inductionHypothesis =>
      simp [formatFrom, quoteAfter, inductionHypothesis, List.append_assoc]

/-- Write a text in the style of a driver. -/
def translateChars
    (style : ParamStyle)
    (sql : List Char) :
    List Char :=
  match style with
  | .qmark => sql
  | .format => if count sql == 0 then sql else formatFrom none sql

/-- Write a text in the style of a driver. -/
def translate
    (style : ParamStyle)
    (sql : String) :
    String :=
  String.ofList (translateChars style sql.toList)

/-- The open quote after a member of a collection, given the open quote before it. -/
def nextQuoteOf
    (quote : Option Char)
    (member : Value) :
    Option Char :=
  match member with
  | .text s =>
      match s.toList with
      | [c] => nextQuote quote c
      | _ => quote
  | _ => quote

/-- The members of a collection in the format style, given the open quote. -/
def formatMembers
    (quote : Option Char) :
    List Value →
    List Value
  | [] => []
  | member :: rest =>
      let written :=
        match member with
        | .text "?" => if quote.isNone then .text "%s" else member
        | .text "%" => .text "%%"
        | _ => member
      written :: formatMembers (nextQuoteOf quote member) rest

/-- The number of question marks outside quotes among the members of a collection. -/
def countMembers
    (quote : Option Char) :
    List Value →
    Nat
  | [] => 0
  | member :: rest =>
      let here :=
        match member with
        | .text "?" => if quote.isNone then 1 else 0
        | _ => 0
      here + countMembers (nextQuoteOf quote member) rest

/-- The texts of a collection written one after the other. -/
def joined? : List Value → Except Misuse String
  | [] => .ok ""
  | .text s :: rest => (joined? rest).map (s ++ ·)
  | value :: _ => .error (.notStatement value.typeName)

/-- Write a statement of any type in the style of a driver; it has to have members to be read. -/
def translateValue
    (style : ParamStyle)
    (sql : Value) :
    Except Misuse Value :=
  match style, sql with
  | .qmark, sql => .ok sql
  | .format, .text s => .ok (.text (translate .format s))
  | .format, .bytes _ => .error (.notStatement sql.typeName)
  | .format, sql =>
      match sql.items? with
      | none => .error (.notStatement sql.typeName)
      | some members =>
          if countMembers none members == 0 then
            .ok sql
          else
            (joined? (formatMembers none members)).map .text

end Placeholder

namespace Prepared

/-- Prepare a statement for a driver of the given style. -/
def ofSql
    (style : ParamStyle)
    (sql : String) :
    Prepared :=
  ⟨.text sql, .text (Placeholder.translate style sql)⟩

/-- Prepare a statement of any type for a driver of the given style. -/
def ofValue
    (style : ParamStyle)
    (sql : Value) :
    Except Misuse Prepared :=
  (Placeholder.translateValue style sql).map fun driverSql => ⟨sql, driverSql⟩

/-- For a text both ways to prepare a statement are one. -/
@[simp] theorem ofValue_text
    (style : ParamStyle)
    (sql : String) :
    ofValue style (.text sql) = .ok (ofSql style sql) := by
  cases style with
  | qmark =>
      simp [ofValue, ofSql, Placeholder.translateValue, Placeholder.translate,
        Placeholder.translateChars, Except.map]
  | format => rfl

end Prepared

end QueryComposer
