/-
Tables of text, ruled with hyphens and bars.

Every column is as wide as its widest cell, and a line is drawn above and below
each row.  A cell may have several lines.
-/
import BillingAccess.Text.Width

namespace BillingAccess

structure Table where
  rows : List (List String)
deriving Repr

namespace Table

/-- The lines of a cell.  A line end at its end begins no further line. -/
def cellLines (cell : String) : List (List Char) :=
  let lines := cell.toList.splitOn '\n'
  if lines.getLast? = some [] then lines.dropLast else lines

def greatest (sizes : List Nat) : Nat :=
  sizes.foldl max 0

def cellWidth (cell : String) : Nat :=
  greatest ((cellLines cell).map Text.width)

def columnWidths (table : Table) : List Nat :=
  let columns := greatest (table.rows.map List.length)
  (List.range columns).map fun i =>
    greatest (table.rows.map fun row => (row[i]?.map cellWidth).getD 0)

/-- The line between rows. -/
def rule (widths : List Nat) : List Char :=
  '+' :: widths.flatMap fun width => List.replicate (width + 2) '-' ++ ['+']

/-- A line of a cell, filled up with blanks. -/
def filled (width : Nat) (line : List Char) : List Char :=
  line ++ List.replicate (width - Text.width line) ' '

/-- The lines of a row. -/
def rowLines (widths : List Nat) (row : List String) : List (List Char) :=
  let cells := row.map cellLines
  (List.range (greatest (cells.map List.length))).map fun i =>
    '|' :: widths.zipIdx.flatMap fun (width, j) =>
      ' ' :: filled width ((cells[j]?.bind (·[i]?)).getD []) ++ [' ', '|']

/-- The table, line by line. -/
def lines (table : Table) : List String :=
  let widths := table.columnWidths
  (rule widths :: table.rows.flatMap fun row => rowLines widths row ++ [rule widths]).map
    String.ofList

end Table

example : (Table.mk [["Plan", "Price"], ["Pro", "9.50"]]).lines = [
    "+------+-------+",
    "| Plan | Price |",
    "+------+-------+",
    "| Pro  | 9.50  |",
    "+------+-------+"] := by decide +kernel

end BillingAccess
