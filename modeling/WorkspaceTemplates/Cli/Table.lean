/-
  WorkspaceTemplates/Cli/Table.lean
  =================================
  **Tables.**

  A table has a line of headers, a line of dashes, and a line for each row.  A column
  is as wide as its widest cell, measured in bytes of UTF-8; cells are filled up with
  spaces to that many characters, two spaces stand between columns, and no line ends
  in white space.  A column can be filled up as long as its width is a number of 16
  bits; there is no table with a wider one.
-/
import WorkspaceTemplates.Text.Blank
import WorkspaceTemplates.Text.Pieces

namespace WorkspaceTemplates.Cli.Table

/-- The widths of columns at least as wide as some cells. -/
def widen : List Nat → List String → List Nat
  | w :: ws, cell :: cells => max w (Text.utf8Length cell.toList) :: widen ws cells
  | ws, _ => ws

def widths (headers : List String) (rows : List (List String)) : List Nat :=
  rows.foldl widen (headers.map fun h => Text.utf8Length h.toList)

def pad (cell : String) (width : Nat) : String :=
  String.ofList (cell.toList ++ List.replicate (width - cell.length) ' ')

/-- The padded cells of a line; cells without a width stay as they are. -/
def padAll : List String → List Nat → List String
  | [], _ => []
  | cell :: cells, [] => cell :: padAll cells []
  | cell :: cells, w :: ws => pad cell w :: padAll cells ws

def line (ws : List Nat) (cells : List String) : String :=
  Text.trimEnd ("  ".intercalate (padAll cells ws))

def lines (headers : List String) (rows : List (List String)) : List String :=
  let ws := widths headers rows
  line ws headers :: line ws (ws.map fun w => String.ofList (List.replicate w '-'))
    :: rows.map (line ws)

/-- The widest that a column can be: widths of cells that are filled up are numbers of 16 bits. -/
def widthLimit : Nat := 65535

/-- The text of a table, unless a column is too wide. -/
def text? (headers : List String) (rows : List (List String)) : Option String :=
  if (widths headers rows).all (· ≤ widthLimit) then some (Text.ofLines (lines headers rows))
  else none

end WorkspaceTemplates.Cli.Table
