namespace QueryComposer.Text

/-!
# Blank characters

Blanks separate the words of a decorated key, of an aliased name and of a join keyword. Besides
the ASCII blanks they include the information separators, the next-line character and the space
separators of every script.

`trim` removes the blanks at both ends, `firstWord` splits a trimmed text after its first word
and `collapse` writes every run of blanks as one space.
-/

/-- A character that separates words. -/
def isBlank (c : Char) : Bool :=
  let n := c.toNat
  (9 ≤ n && n ≤ 13) || (28 ≤ n && n ≤ 32) || n == 0x85 || n == 0xA0 || n == 0x1680 ||
    (0x2000 ≤ n && n ≤ 0x200A) || n == 0x2028 || n == 0x2029 || n == 0x202F || n == 0x205F ||
    n == 0x3000

/-- A blank that is white space by itself: the information separators only separate. -/
def isWhiteSpace (c : Char) : Bool :=
  isBlank c && !(28 ≤ c.toNat && c.toNat ≤ 31)

/-- The text without the blanks at its start. -/
def trimStart (s : List Char) : List Char :=
  s.dropWhile isBlank

/-- The text without the blanks at its end. -/
def trimEnd (s : List Char) : List Char :=
  (s.reverse.dropWhile isBlank).reverse

/-- The text without the blanks at either end. -/
def trim (s : List Char) : List Char :=
  trimEnd (trimStart s)

/-- The first word of a text and what follows it, without the blanks around either. -/
def firstWord (s : List Char) : List Char × List Char :=
  let trimmed := trim s
  (trimmed.takeWhile (!isBlank ·), trimStart (trimmed.dropWhile (!isBlank ·)))

/-- The first word has no blanks in it. -/
theorem not_isBlank_of_mem_firstWord
    {s : List Char}
    {c : Char}
    (inWord : c ∈ (firstWord s).1) :
    isBlank c = false := by
  have satisfies := List.all_takeWhile (l := trim s) (p := (!isBlank ·))
  simpa using List.all_eq_true.mp satisfies c inWord

/-- Write every run of blanks as one space. -/
def collapse : List Char → List Char
  | [] => []
  | c :: rest =>
      if isBlank c then
        match rest with
        | [] => [' ']
        | next :: _ => if isBlank next then collapse rest else ' ' :: collapse rest
      else
        c :: collapse rest

/-- A text without blanks stays as it is. -/
theorem collapse_of_not_isBlank
    {s : List Char}
    (solid : ∀ c ∈ s, isBlank c = false) :
    collapse s = s := by
  induction s with
  | nil => rfl
  | cons c rest inductionHypothesis =>
      have first := solid c (by simp)
      have others := inductionHypothesis fun d member => solid d (by simp [member])
      simp [collapse, first, others]

end QueryComposer.Text
