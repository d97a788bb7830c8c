namespace QueryComposer.Association

/-!
# Association lists

A mapping is a list of keys and values in which no key occurs twice. Writing a key that is there
already changes its value and keeps its place; a new key goes to the end.
-/

variable {κ : Type} {α : Type} [BEq κ]

/-- The value of a key. -/
def get?
    (pairs : List (κ × α))
    (key : κ) :
    Option α :=
  match pairs with
  | [] => none
  | (other, value) :: rest => if other == key then some value else get? rest key

/-- Give a key a value. -/
def put
    (pairs : List (κ × α))
    (key : κ)
    (value : α) :
    List (κ × α) :=
  match pairs with
  | [] => [(key, value)]
  | (other, old) :: rest =>
      if other == key then (other, value) :: rest else (other, old) :: put rest key value

/-- Write the pairs of the second mapping, in their order, into the first one. -/
def merge
    (pairs : List (κ × α))
    (updates : List (κ × α)) :
    List (κ × α) :=
  updates.foldl (fun merged pair => put merged pair.1 pair.2) pairs

/-- The mapping that results from writing the pairs in order. -/
def ofPairs (pairs : List (κ × α)) : List (κ × α) :=
  merge [] pairs

/-- A key has the value that was written last. -/
theorem get?_put_self
    [LawfulBEq κ]
    (pairs : List (κ × α))
    (key : κ)
    (value : α) :
    get? (put pairs key value) key = some value := by
  induction pairs with
  | nil => simp [put, get?]
  | cons pair rest inductionHypothesis =>
      by_cases same : pair.1 = key
      · simp [put, get?, same]
      · simp [put, get?, same, inductionHypothesis]

/-- Writing one key leaves the others alone. -/
theorem get?_put_of_ne
    [LawfulBEq κ]
    (pairs : List (κ × α))
    (key other : κ)
    (value : α)
    (different : key ≠ other) :
    get? (put pairs key value) other = get? pairs other := by
  induction pairs with
  | nil => simp [put, get?, different]
  | cons pair rest inductionHypothesis =>
      by_cases same : pair.1 = key
      · simp [put, get?, same, different]
      · simp [put, get?, same, inductionHypothesis]

end QueryComposer.Association
