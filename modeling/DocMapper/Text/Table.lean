import DocMapper.Text.Pieces
import DocMapper.Text.Width
/-!
Tables drawn with lines. Every column is as wide as its widest cell, with a blank on either
side; a double line is under the header and a broken one between rows. A cell may have
several lines, and its row is then as tall as its tallest cell. `length_separator` says that
the lines drawn around and between rows are all equally long.
-/

namespace DocMapper.Text

/-- What a line of a table is drawn with: its left end, its filling, its crossings and its
right end. -/
structure Rule where
  left : Char
  filling : Char
  crossing : Char
  right : Char

namespace Rule

def top : Rule := ⟨'┌', '─', '┬', '┐'⟩

def underHeader : Rule := ⟨'╞', '═', '╪', '╡'⟩

def betweenRows : Rule := ⟨'├', '╌', '┼', '┤'⟩

def bottom : Rule := ⟨'└', '─', '┴', '┘'⟩

def row : Rule := ⟨'│', ' ', '┆', '│'⟩

end Rule

structure Table where
  header : List String
  rows : List (List String)

namespace Table

def cellLines (cell : String) : List (List Char) :=
  pieces '\n' cell.toList

def cellWidth (cell : String) : Nat :=
  ((cellLines cell).map width).foldl max 0

/-- The width of every column, for so many columns. -/
def columnWidths (cells : List (List String)) (columns : Nat) : List Nat :=
  (List.range columns).map fun i =>
    (cells.map fun row => cellWidth ((row[i]?).getD "")).foldl max 0

/-- Pieces of a line between its ends. -/
def ruled (rule : Rule) (parts : List (List Char)) : List Char :=
  rule.left :: (parts.intersperse [rule.crossing]).flatten ++ [rule.right]

def separator (rule : Rule) (widths : List Nat) : List Char :=
  ruled rule (widths.map fun n => List.replicate (n + 2) rule.filling)

def line (widths : List Nat) (texts : List (List Char)) : List Char :=
  ruled .row (List.zipWith (fun n text => ' ' :: padded n text ++ [' ']) widths texts)

def rowLines (widths : List Nat) (row : List String) : List (List Char) :=
  let cells := row.map cellLines
  let height := (cells.map List.length).foldl max 1
  (List.range height).map fun i => line widths (cells.map fun cell => (cell[i]?).getD [])

def bodyLines (widths : List Nat) : List (List String) → List (List Char)
  | [] => []
  | [last] => rowLines widths last
  | row :: next :: rest =>
      rowLines widths row ++ separator .betweenRows widths :: bodyLines widths (next :: rest)

def lines (t : Table) : List String :=
  let widths := columnWidths (t.header :: t.rows) t.header.length
  let drawn := separator .top widths :: rowLines widths t.header ++ separator .underHeader widths ::
    bodyLines widths t.rows ++ [separator .bottom widths]
  drawn.map String.ofList

theorem length_separator (rule : Rule) (widths : List Nat) (some : widths ≠ []) :
    (separator rule widths).length = widths.foldr (· + ·) 0 + 3 * widths.length + 1 := by
  have inner (ns : List Nat) (some : ns ≠ []) :
      (((ns.map fun n => List.replicate (n + 2) rule.filling).intersperse [rule.crossing]).flatten).length + 1 =
        ns.foldr (· + ·) 0 + 3 * ns.length := by
    induction ns with
    | nil => exact absurd rfl some
    | cons n rest ih =>
        cases rest with
        | nil => simp
        | cons m more =>
            have tail := ih (by simp)
            simp only [List.map_cons, List.intersperse_cons_cons, List.flatten_cons, List.length_append,
              List.length_replicate, List.length_cons, List.length_nil, List.foldr_cons] at tail ⊢
            omega
  have := inner widths some
  simp only [separator, ruled, List.length_cons, List.length_append, List.length_nil]
  omega

end Table

end DocMapper.Text
