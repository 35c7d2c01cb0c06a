import LintBridge.Report

/-!
# Tables as text

A table is printed as its title, its headings and its rows. Each column is as wide as its widest
cell, so that **the cells of a column stand below one another**, and blanks at the end of a line are
left out. A table with a cell that cannot be encoded cannot be printed.

* `LintBridge.Report.unmarked` – a cell without the marks of its style;
* `LintBridge.Report.Table.grid` – the headings and the cells of a table, ready to be laid out;
* `LintBridge.Report.Table.refusal?` – why a table cannot be printed;
* `LintBridge.Report.Table.text` – a table as text.
-/

namespace LintBridge.Report

/-- Characters without those in square brackets; the flag tells whether a bracket is open. -/
def dropMarks : Bool → List Char → List Char
  | _, [] => []
  | _, '[' :: rest => dropMarks true rest
  | true, ']' :: rest => dropMarks false rest
  | true, _ :: rest => dropMarks true rest
  | false, c :: rest => c :: dropMarks false rest

/-- A cell without the marks of its style. -/
def unmarked (cell : String) : String :=
  String.ofList (dropMarks false cell.toList)

/-- A cell of a column as it is printed, on one line. -/
def Column.cellText (c : Column) (cell : String) : String :=
  let text := if c.marked then unmarked cell else cell
  text.map fun ch => if ch == '\n' then ' ' else ch

/-- The headings and the cells of a table, ready to be laid out. -/
def Table.grid (t : Table) : List (List String) :=
  t.columns.map (·.heading) :: t.rows.map fun row =>
    (t.columns.zip row).map fun (c, cell) => c.cellText (Json.CodePoints.toString cell)

/-- The words for a table that cannot be printed. -/
def Table.refusal? (t : Table) : Option String :=
  (t.rows.flatten.findSome? Json.CodePoints.fault?).map Json.Unencodable.message

/-- The width of a column. -/
def columnWidth (grid : List (List String)) (i : Nat) : Nat :=
  (grid.map fun row => (row[i]?.getD "").length).foldl max 0

/-- A text with as many blanks after it as it takes to fill a width. -/
def padded (width : Nat) (s : String) : List Char :=
  s.toList ++ List.replicate (width - s.length) ' '

/-- Characters without the blanks at the end. -/
def trimmedEnd (cs : List Char) : List Char :=
  (cs.reverse.dropWhile (· == ' ')).reverse

/-- A row laid out. -/
def rowText (grid : List (List String)) (row : List String) : String :=
  let cells := row.mapIdx fun i cell => padded (columnWidth grid i) cell
  String.ofList (trimmedEnd ("  ".toList.intercalate cells))

/-- A table as text. -/
def Table.text (t : Table) : String :=
  String.join ((t.title :: t.grid.map (rowText t.grid)).map (· ++ "\n"))

end LintBridge.Report
