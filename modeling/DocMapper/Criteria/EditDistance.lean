/-!
Edit distance: how many single characters have to be inserted, dropped or replaced to turn
one text into another. It is computed row by row; a row holds the distances from one prefix
of the first text to every prefix of the second.
-/

namespace DocMapper.EditDistance

/-- The rest of a row, from the entry to its left and the row above. -/
def rowFrom (c : Char) (left : Nat) : List Char → List Nat → List Nat
  | d :: rest, diagonal :: above :: more =>
      let entry := min (min (diagonal + if c = d then 0 else 1) (above + 1)) (left + 1)
      entry :: rowFrom c entry rest (above :: more)
  | _, _ => []

def nextRow (c : Char) (target : List Char) (row : List Nat) : List Nat :=
  let first := row.headD 0 + 1
  first :: rowFrom c first target row

def firstRow (target : List Char) : List Nat :=
  List.range (target.length + 1)

def distance (source target : List Char) : Nat :=
  (source.foldl (fun row c => nextRow c target row) (firstRow target)).getLastD 0

/-- How many edits a fuzzy search allows for a term. -/
def allowance (term : List Char) : Nat :=
  if term.length ≤ 2 then 0
  else if term.length ≤ 5 then 1
  else 2

end DocMapper.EditDistance
