import Footpath.Text.Blank
import Footpath.Text.Columns

/-! Tables drawn with box characters. A column is as wide as the widest line in it, a row as high
as its highest cell and never empty, and a line is ruled between any two rows. -/
namespace Footpath

structure Table where
  title : List String
  rows : List (List String)
deriving DecidableEq

namespace Table

/-! ### Measures -/

/-- The lines of a cell. -/
def cellLines (cell : String) : List (List Char) := Text.endedLines cell.toList

def maximum (ns : List Nat) : Nat := ns.foldl max 0

def cellWidth (cell : String) : Nat := maximum ((cellLines cell).map Text.columns)

def rowHeight (row : List String) : Nat := max 1 (maximum (row.map fun cell => (cellLines cell).length))

/-- The width of each column, over the title and all rows. -/
def widths (t : Table) : List Nat :=
  t.rows.foldl (fun ws row => List.zipWith max ws (row.map cellWidth)) (t.title.map cellWidth)

/-! ### Drawing -/

/-- A line filled up to a width, with a blank on either side. -/
def padded (width : Nat) (line : List Char) : List Char :=
  ' ' :: line ++ List.replicate (width - Text.columns line) ' ' ++ [' ']

def drawn (left middle right : Char) (cells : List (List Char)) : List Char :=
  left :: List.intercalate [middle] cells ++ [right, '\n']

def rule (left middle right : Char) (ws : List Nat) : List Char :=
  drawn left middle right (ws.map fun w => List.replicate (w + 2) '─')

/-- The `i`th line of a row. -/
def rowLine (ws : List Nat) (row : List String) (i : Nat) : List Char :=
  drawn '│' '│' '│' (List.zipWith (fun w cell => padded w ((cellLines cell)[i]?.getD [])) ws row)

def rowText (ws : List Nat) (row : List String) : List Char :=
  (List.range (rowHeight row)).flatMap (rowLine ws row)

def text (t : Table) : String :=
  let ws := t.widths
  let between := rule '├' '┼' '┤' ws
  String.ofList (rule '┌' '┬' '┐' ws ++ List.intercalate between ((t.title :: t.rows).map (rowText ws)) ++
    rule '└' '┴' '┘' ws)

end Table

end Footpath
