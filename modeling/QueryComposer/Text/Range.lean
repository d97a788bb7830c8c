namespace QueryComposer.Text

/-!
# Character ranges and case mappings

A property of characters is given as a list of inclusive ranges of code points. A case mapping
consists of runs, in which every character moves by the same distance, and of expansions, in which
one character becomes several.
-/

/-- The character lies in one of the inclusive ranges. -/
def inRanges
    (ranges : List (Nat × Nat))
    (c : Char) :
    Bool :=
  ranges.any fun range => range.1 ≤ c.toNat && c.toNat ≤ range.2

/-- The characters `first`, `first + stride`, … `last`, each of which moves by `distance`. -/
structure CaseRun where
  first : Nat
  last : Nat
  stride : Nat
  distance : Int
  deriving Repr, DecidableEq

namespace CaseRun

/-- The character with this code point belongs to the run. -/
def covers
    (run : CaseRun)
    (code : Nat) :
    Bool :=
  run.first ≤ code && code ≤ run.last && (code - run.first) % run.stride == 0

end CaseRun

/-- Map one character; a character that no run and no expansion names stays as it is. -/
def mapCase
    (runs : List CaseRun)
    (expansions : List (Nat × List Nat))
    (c : Char) :
    List Char :=
  match expansions.lookup c.toNat with
  | some codes => codes.map Char.ofNat
  | none =>
      match runs.find? (·.covers c.toNat) with
      | some run => [Char.ofNat (c.toNat + run.distance).toNat]
      | none => [c]

end QueryComposer.Text
