import CsvQuery.Log
import CsvQuery.Row
import CsvQuery.Text.Quoted
import CsvQuery.Value

/-!
Grouping of rows and aggregate functions. Rows with the same key make a group; groups keep the
order in which their keys first occur, and a group is shown by its first row followed by the
results of the aggregate columns.
-/

namespace CsvQuery

namespace Aggregate

/-- The integer of a cell, zero if it is none. -/
def addend (cell : String) : Int :=
  (Integer.ofText? cell).getD 0

/-- The sum of the cells from left to right. Every partial sum is brought back into the range of
integers before the next addition. -/
def sumCells (cells : List String) : Int :=
  cells.foldl (fun sum cell => Integer.clamp (sum + addend cell)) 0

/-- The later of two cells unless the first one is greater. -/
def laterMax (a b : String) : String :=
  if compareCells a b = .gt then a else b

/-- The first of two cells unless it is greater than the second. -/
def earlierMin (a b : String) : String :=
  if compareCells a b = .gt then b else a

/-- What a function makes of the cells of a group. The mean is rounded down; extremes and the mean
of no cells are empty. -/
def reduce (f : Aggregate) (cells : List String) : String :=
  match f, cells with
  | sum, _ => toString (sumCells cells)
  | count, _ => toString cells.length
  | average, [] | max, [] | min, [] => ""
  | average, _ => toString (Int.fdiv (sumCells cells) cells.length)
  | max, first :: rest => rest.foldl laterMax first
  | min, first :: rest => rest.foldl earlierMin first

end Aggregate

/-- A column computed from the cells of a group at a position. -/
structure AggregateColumn where
  function : Aggregate
  position : Nat
  deriving DecidableEq, Repr

/-- Rows with the same key, in their order. -/
structure Group where
  key : String
  first : Row
  /-- The rows after the first. -/
  later : List Row
  deriving DecidableEq, Repr

namespace Group

def rows (g : Group) : List Row :=
  g.first :: g.later

def separator : Char := '\x1f'

/-- The key of a row: its cells at the grouping positions, marked and put together. -/
def keyOf (positions : List Nat) (r : Row) : String :=
  positions.foldl (fun key position => (key.push separator) ++ r.cell position) "groupBy"

/-- The groups that are in an index, in the order of rows: the first row with a key takes the
group of the key out of the index. -/
def collect (key : Row → String) (index : RowIndex) : List Row → List Group
  | [] => []
  | r :: rest =>
    let k := key r
    match index.find k with
    | [] => collect key index rest
    | first :: later => ⟨k, first, later⟩ :: collect key (index.erase k) rest

/-- The groups of rows, in the order in which their keys first occur. -/
def ofRows (positions : List Nat) (rows : List Row) : List Group :=
  collect (keyOf positions) (.ofRows (keyOf positions) rows) rows

/-- The cells that an aggregate column reduces: none if it aggregates a grouping position. -/
def collected (positions : List Nat) (column : AggregateColumn) (g : Group) : List String :=
  if positions.contains column.position then [] else g.rows.map (·.cell column.position)

/-- The row of a group: its first row and the results of the aggregate columns. -/
def summary (positions : List Nat) (columns : List AggregateColumn) (g : Group) : Row :=
  g.first ++ columns.map fun column => column.function.reduce (collected positions column g)

def summaries (positions : List Nat) (columns : List AggregateColumn) (rows : List Row) :
    List Row :=
  (ofRows positions rows).map (summary positions columns)

theorem length_collect_le (key : Row → String) (index : RowIndex) (rows : List Row) :
    (collect key index rows).length ≤ rows.length := by
  induction rows generalizing index with
  | nil => simp [collect]
  | cons r rest ih =>
    simp only [collect]
    split
    · exact Nat.le_succ_of_le (ih index)
    · exact Nat.succ_le_succ (ih _)

theorem length_summaries_le (positions : List Nat) (columns : List AggregateColumn)
    (rows : List Row) : (summaries positions columns rows).length ≤ rows.length := by
  simpa [summaries, ofRows] using length_collect_le (keyOf positions) _ rows

end Group

end CsvQuery
