/-!
Text tables with borders. The first column numbers the rows from one; every column is as wide as
its widest text, counted in code points.
-/

namespace CsvQuery

/-- A table under construction. The first column is the one with the row numbers. -/
structure Grid where
  /-- The number of columns besides the first. -/
  columns : Nat
  header : List String
  rows : Array (List String)
  widths : List Nat
  deriving DecidableEq, Repr

namespace Grid

/-- The widths with the one at a position raised to hold a text. -/
def widen (widths : List Nat) (position : Nat) (text : String) : List Nat :=
  widths.modify position (max · text.length)

/-- The table with one more heading. Headings fill the columns from the left. -/
def addHeading (g : Grid) (heading : String) : Grid :=
  { g with
    header := g.header ++ [heading]
    widths := widen g.widths g.header.length heading }

def empty (columns : Nat) : Grid :=
  addHeading ⟨columns, [], #[], List.replicate (columns + 1) 0⟩ "#"

/-- The cells of a new row: its number, and as many values as there are columns. -/
def cells (g : Grid) (values : List String) : List String :=
  toString (g.rows.size + 1) :: (List.range g.columns).map (values.getD · "")

/-- The table with one more row. Missing values are empty, and extra ones are left out. -/
def addRow (g : Grid) (values : List String) : Grid :=
  let row := g.cells values
  { g with
    rows := g.rows.push row
    widths := List.zipWith (fun width cell => max width cell.length) g.widths row }

def ofRows (header : List String) (rows : List (List String)) : Grid :=
  rows.foldl addRow (header.foldl addHeading (empty header.length))

def repeated (n : Nat) (c : Char) : String :=
  String.ofList (List.replicate n c)

def rule (g : Grid) : String :=
  "+" ++ String.join (g.widths.map fun width => repeated (width + 2) '-' ++ "+") ++ "\n"

/-- A line with the texts of a row, each filled up to the width of its column. -/
def rowLine (g : Grid) (row : List String) : String :=
  let parts := List.zipWith
    (fun width cell => " " ++ cell ++ repeated (width - cell.length) ' ' ++ " |") g.widths row
  "|" ++ String.join parts ++ "\n"

def render (g : Grid) : String :=
  g.rule ++ g.rowLine g.header ++ g.rule ++ String.join (g.rows.toList.map g.rowLine) ++
    if g.rows.isEmpty then "" else g.rule

def durationText (micros : Nat) : String :=
  toString (micros / 1000) ++ "ms"

/-- The line below a table: the number of its rows and the time that they took. -/
def summary (g : Grid) (micros : Nat) : String :=
  s!"({g.rows.size} rows returned. Executed in {durationText micros})"

end Grid

end CsvQuery
