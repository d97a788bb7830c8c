import QueryComposer.Text.Blank
import QueryComposer.Text.Uppercase

namespace QueryComposer.Table

/-!
# Join keywords

A join keyword may be written in any case and with any blanks between its words; `Join.ofToken?`
finds the keyword that is meant.
-/

/-- The ways to join a table. -/
inductive Join where
  | plain
  | inner
  | left
  | leftOuter
  | right
  | rightOuter
  | full
  | fullOuter
  | cross
  deriving Repr, DecidableEq

namespace Join

/-- The keyword of a join in its canonical form. -/
def keyword : Join → String
  | .plain => "JOIN"
  | .inner => "INNER JOIN"
  | .left => "LEFT JOIN"
  | .leftOuter => "LEFT OUTER JOIN"
  | .right => "RIGHT JOIN"
  | .rightOuter => "RIGHT OUTER JOIN"
  | .full => "FULL JOIN"
  | .fullOuter => "FULL OUTER JOIN"
  | .cross => "CROSS JOIN"

/-- Every way to join a table. -/
def all : List Join :=
  [.plain, .inner, .left, .leftOuter, .right, .rightOuter, .full, .fullOuter, .cross]

/-- The list of joins is complete. -/
theorem mem_all (join : Join) : join ∈ all := by
  cases join <;> decide

/-- A token in upper case, with single spaces between its words. -/
def canonicalToken (token : List Char) : List Char :=
  Text.upper (Text.collapse (Text.trim token))

/-- The join that a token names. -/
def ofToken? (token : String) : Option Join :=
  all.find? fun join => join.keyword.toList == canonicalToken token.toList

/-- A keyword in its canonical form names its join. -/
theorem ofToken?_keyword (join : Join) : ofToken? join.keyword = some join := by
  cases join <;> decide +kernel

end Join

end QueryComposer.Table
