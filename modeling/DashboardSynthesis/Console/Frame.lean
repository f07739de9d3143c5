import DashboardSynthesis.Console.Layout

/-!
# Boxes and tables

A box has round corners and fills the width of the console.  A table is as wide as its cells need; its
title stands in the middle above it, and the names of its columns stand above a heavy rule.
-/

namespace DashboardSynthesis
namespace Layout

/-- Lines as text. -/
def joinLines (ls : List Text) : Text := ls.flatMap (· ++ ("\n" : Text))

/-- The same text so many times. -/
def repeated (n : Nat) (t : Text) : Text := (List.replicate n t).flatten

/-- A box of a given width around a text. -/
def box (width : Nat) (t : Text) : List Text :=
  let rule := repeated (width - 2) "─"
  [("╭" : Text) ++ rule ++ ("╮" : Text)] ++
    ((lines (width - 4) t).map fun line =>
      ("│ " : Text) ++ padEnd (width - 4) line ++ (" │" : Text)) ++
    [("╰" : Text) ++ rule ++ ("╯" : Text)]

/-- A table: a title, the names of the columns, and rows with a cell for each column. -/
structure Table where
  title : Text
  columns : List Text
  rows : List (List Text)
  deriving DecidableEq, Repr

namespace Table

/-- The width of the columns, the widest cell of each. -/
def columnWidths (t : Table) : List Nat :=
  t.rows.foldl (fun widths row => widths.zipWith (fun n cell => max n cell.width) row)
    (t.columns.map Text.width)

/-- The width of a table: each column has a blank on both sides and a border behind it. -/
def width (t : Table) : Nat := t.columnWidths.foldl (fun total n => total + n + 3) 1

/-- A rule across columns of given widths. -/
def rule (widths : List Nat) (first line between last : Text) : Text :=
  first ++ Text.joinWith between (widths.map fun n => repeated (n + 2) line) ++ last

/-- Cells in columns of given widths. -/
def row (widths : List Nat) (border : Text) (cells : List Text) : Text :=
  border ++ ((widths.zip cells).flatMap fun (n, cell) =>
    (" " : Text) ++ padEnd n cell ++ (" " : Text) ++ border)

/-- The lines of a table. -/
def lines (t : Table) : List Text :=
  let widths := t.columnWidths
  [center t.width t.title, rule widths "┏" "━" "┳" "┓", row widths "┃" t.columns,
    rule widths "┡" "━" "╇" "┩"] ++
    t.rows.map (row widths "│") ++
    [rule widths "└" "─" "┴" "┘"]

end Table
end Layout
end DashboardSynthesis
